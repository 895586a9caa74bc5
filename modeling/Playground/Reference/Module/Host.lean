import Playground.Reference.Entry

/-!
# The operating system

The module of what the operating system offers, as far as hosts agree about it.
-/

namespace Playground.Reference

open Entry

/-- The module `os`. -/
def osModule : ModuleTable where
  name := "os"
  documentation := [
    "OS routines for NT or Posix depending on what system we're on.", "", "This exports:",
    "  - all functions from posix or nt, e.g. unlink, stat, etc.",
    "  - os.path is either posixpath or ntpath", "  - os.name is either 'posix' or 'nt'",
    "  - os.curdir is a string representing the current directory (always '.')",
    "  - os.pardir is a string representing the parent directory (always '..')",
    "  - os.sep is the (or a most common) pathname separator ('/' or '\\\\')",
    "  - os.extsep is the extension separator (always '.')",
    "  - os.altsep is the alternate pathname separator (None or '/')",
    "  - os.pathsep is the component separator used in $PATH etc",
    "  - os.linesep is the line separator in text files ('\\r' or '\\n' or '\\r\\n')",
    "  - os.defpath is the default search path for executables",
    "  - os.devnull is the file path of the null device ('/dev/null', etc.)", "",
    "Programs that import and use 'os' stand a better chance of being",
    "portable between different platforms.  Of course, they must then",
    "only use functions that are defined by all platforms (e.g., unlink",
    "and opendir), and leave all pathname manipulation to os.path", "(e.g., split and join)."]
  members := [
    classOf "DirEntry" "posix.DirEntry",
    value "F_OK" "int",
    value "O_APPEND" "int",
    value "O_CREAT" "int",
    value "O_EXCL" "int",
    value "O_RDONLY" "int",
    value "O_RDWR" "int",
    value "O_TRUNC" "int",
    value "O_WRONLY" "int",
    classOf "PathLike" "os.PathLike",
    value "R_OK" "int",
    value "SEEK_CUR" "int",
    value "SEEK_END" "int",
    value "SEEK_SET" "int",
    function "WCOREDUMP" "(status, /)" [
      "Return True if the process returning status was dumped to a core file."],
    function "WEXITSTATUS" "(status)" ["Return the process return code from status."],
    function "WIFCONTINUED" "(status)" [
      "Return True if a particular process was continued from a job control stop.", "",
      "Return True if the process returning status was continued from a", "job control stop."],
    function "WIFEXITED" "(status)" [
      "Return True if the process returning status exited via the exit() system call."],
    function "WIFSIGNALED" "(status)" [
      "Return True if the process returning status was terminated by a signal."],
    function "WIFSTOPPED" "(status)" ["Return True if the process returning status was stopped."],
    function "WSTOPSIG" "(status)" [
      "Return the signal that stopped the process that provided the status value."],
    function "WTERMSIG" "(status)" [
      "Return the signal that terminated the process that provided the status value."],
    value "W_OK" "int",
    value "X_OK" "int",
    value "__all__" "list",
    value "__builtins__" "dict",
    value "__cached__" "str",
    value "__doc__" "str",
    value "__file__" "str",
    classOf "__loader__" "FrozenImporter",
    value "__name__" "str",
    value "__package__" "str",
    value "__spec__" "ModuleSpec",
    defined "_check_bytes" "(value)" [],
    defined "_createenviron" "()" [],
    defined "_execvpe" "(file, args, env=None)" [],
    defined "_exists" "(name)" [],
    function "_exit" "(status)" [
      "Exit to the system with specified status, without normal exit processing."],
    defined "_fscodec" "()" [],
    defined "_fspath" "(path)" [
      "Return the path representation of a path-like object.", "",
      "If str or bytes is passed in, it is returned unchanged. Otherwise the",
      "os.PathLike interface is used to get the path representation. If the",
      "path representation is not str or bytes, TypeError is raised. If the",
      "provided path is not str, bytes, or os.PathLike, TypeError is raised."],
    defined "_fwalk" "(topfd, toppath, isbytes, topdown, onerror, follow_symlinks)" [],
    defined "_get_exports_list" "(module)" [],
    function "_path_normpath" "(path)" ["Basic path normalization."],
    defined "_spawnvef" "(mode, file, args, env, func)" [],
    defined "_walk" "(top, topdown, onerror, followlinks)" [],
    moduleOf "abc" "abc",
    function "abort" "()" [
      "Abort the interpreter immediately.", "",
      "This function 'dumps core' or otherwise fails in the hardest way possible",
      "on the hosting operating system.  This function never returns."],
    function "access" "(path, mode, *, dir_fd=None, effective_ids=False, follow_symlinks=True)" [
      "Use the real uid/gid to test for access to a path.", "", "  path",
      "    Path to be tested; can be string, bytes, or a path-like object.", "  mode",
      "    Operating-system mode bitfield.  Can be F_OK to test existence,",
      "    or the inclusive-OR of R_OK, W_OK, and X_OK.", "  dir_fd",
      "    If not None, it should be a file descriptor open to a directory,",
      "    and path should be relative; path will then be relative to that", "    directory.",
      "  effective_ids", "    If True, access will use the effective uid/gid instead of",
      "    the real uid/gid.", "  follow_symlinks",
      "    If False, and the last element of the path is a symbolic link,",
      "    access will examine the symbolic link itself instead of the file",
      "    the link points to.", "",
      "dir_fd, effective_ids, and follow_symlinks may not be implemented",
      "  on your platform.  If they are unavailable, using them will raise a",
      "  NotImplementedError.", "",
      "Note that most operations will use the effective uid/gid, therefore this",
      "  routine can be used in a suid/sgid environment to test if the invoking user",
      "  has the specified access to the path."],
    defined "add_dll_directory" "(path)" [
      "Add a path to the DLL search path.", "",
      "This search path is used when resolving dependencies for imported",
      "extension modules (the module itself is resolved through sys.path),", "and also by ctypes.",
      "", "Remove the directory by calling close() on the returned object or",
      "using it in a with statement."],
    value "altsep" "NoneType",
    function "chdir" "(path)" [
      "Change the current working directory to the specified path.", "",
      "path may always be specified as a string.",
      "On some platforms, path may also be specified as an open file descriptor.",
      "  If this functionality is unavailable, using it raises an exception."],
    function "chmod" "(path, mode, *, dir_fd=None, follow_symlinks=True)" [
      "Change the access permissions of a file.", "", "  path",
      "    Path to be modified.  May always be specified as a str, bytes, or a path-like object.",
      "    On some platforms, path may also be specified as an open file descriptor.",
      "    If this functionality is unavailable, using it raises an exception.", "  mode",
      "    Operating-system mode bitfield.", "  dir_fd",
      "    If not None, it should be a file descriptor open to a directory,",
      "    and path should be relative; path will then be relative to that", "    directory.",
      "  follow_symlinks", "    If False, and the last element of the path is a symbolic link,",
      "    chmod will modify the symbolic link itself instead of the file",
      "    the link points to.", "",
      "It is an error to use dir_fd or follow_symlinks when specifying path as",
      "  an open file descriptor.",
      "dir_fd and follow_symlinks may not be implemented on your platform.",
      "  If they are unavailable, using them will raise a NotImplementedError."],
    function "chown" "(path, uid, gid, *, dir_fd=None, follow_symlinks=True)" [
      "Change the owner and group id of path to the numeric uid and gid.\\", "", "  path",
      "    Path to be examined; can be string, bytes, a path-like object, or " ++
      "open-file-descriptor int.", "  dir_fd",
      "    If not None, it should be a file descriptor open to a directory,",
      "    and path should be relative; path will then be relative to that", "    directory.",
      "  follow_symlinks", "    If False, and the last element of the path is a symbolic link,",
      "    stat will examine the symbolic link itself instead of the file",
      "    the link points to.", "", "path may always be specified as a string.",
      "On some platforms, path may also be specified as an open file descriptor.",
      "  If this functionality is unavailable, using it raises an exception.",
      "If dir_fd is not None, it should be a file descriptor open to a directory,",
      "  and path should be relative; path will then be relative to that directory.",
      "If follow_symlinks is False, and the last element of the path is a symbolic",
      "  link, chown will modify the symbolic link itself instead of the file the",
      "  link points to.",
      "It is an error to use dir_fd or follow_symlinks when specifying path as",
      "  an open file descriptor.",
      "dir_fd and follow_symlinks may not be implemented on your platform.",
      "  If they are unavailable, using them will raise a NotImplementedError."],
    function "chroot" "(path)" ["Change root directory to path."],
    function "close" "(fd)" ["Close a file descriptor."],
    function "closerange" "(fd_low, fd_high, /)" [
      "Closes all file descriptors in [fd_low, fd_high), ignoring errors."],
    function "confstr" "(name, /)" ["Return a string-valued system configuration variable."],
    function "cpu_count" "()" [
      "Return the number of CPUs in the system; return None if indeterminable.", "",
      "This number is not equivalent to the number of CPUs the current process can",
      "use.  The number of usable CPUs can be obtained with", "``len(os.sched_getaffinity(0))``"],
    function "ctermid" "()" ["Return the name of the controlling terminal for this process."],
    value "curdir" "str",
    value "defpath" "str",
    function "device_encoding" "(fd)" [
      "Return a string describing the encoding of a terminal's file descriptor.", "",
      "The file descriptor must be attached to a terminal.",
      "If the device is not a terminal, return None."],
    value "devnull" "str",
    function "dup" "(fd, /)" ["Return a duplicate of a file descriptor."],
    function "dup2" "(fd, fd2, inheritable=True)" ["Duplicate file descriptor."],
    value "environ" "os._Environ",
    value "environb" "os._Environ",
    classOf "error" "OSError",
    function "eventfd" none ["Creates and returns an event notification file descriptor."],
    function "eventfd_read" "(fd)" ["Read eventfd value"],
    function "eventfd_write" "(fd, value)" ["Write eventfd value."],
    defined "execl" "(file, *args)" [
      "execl(file, *args)", "",
      "Execute the executable file with argument list args, replacing the", "current process. "],
    defined "execle" "(file, *args)" [
      "execle(file, *args, env)", "", "Execute the executable file with argument list args and",
      "environment env, replacing the current process. "],
    defined "execlp" "(file, *args)" [
      "execlp(file, *args)", "", "Execute the executable file (which is searched for along $PATH)",
      "with argument list args, replacing the current process. "],
    defined "execlpe" "(file, *args)" [
      "execlpe(file, *args, env)", "",
      "Execute the executable file (which is searched for along $PATH)",
      "with argument list args and environment env, replacing the current", "process. "],
    function "execv" "(path, argv, /)" [
      "Execute an executable path with arguments, replacing current process.", "", "path",
      "  Path of executable file.", "argv", "  Tuple or list of strings."],
    function "execve" "(path, argv, env)" [
      "Execute an executable path with arguments, replacing current process.", "", "path",
      "  Path of executable file.", "argv", "  Tuple or list of strings.", "env",
      "  Dictionary of strings mapping to strings."],
    defined "execvp" "(file, args)" [
      "execvp(file, args)", "", "Execute the executable file (which is searched for along $PATH)",
      "with argument list args, replacing the current process.",
      "args may be a list or tuple of strings. "],
    defined "execvpe" "(file, args, env)" [
      "execvpe(file, args, env)", "",
      "Execute the executable file (which is searched for along $PATH)",
      "with argument list args and environment env, replacing the", "current process.",
      "args may be a list or tuple of strings. "],
    value "extsep" "str",
    function "fchdir" "(fd)" [
      "Change to the directory of the given file descriptor.", "",
      "fd must be opened on a directory, not a file.", "Equivalent to os.chdir(fd)."],
    function "fchmod" "(fd, mode)" [
      "Change the access permissions of the file given by file descriptor fd.", "",
      "Equivalent to os.chmod(fd, mode)."],
    function "fchown" "(fd, uid, gid)" [
      "Change the owner and group id of the file specified by file descriptor.", "",
      "Equivalent to os.chown(fd, uid, gid)."],
    function "fdatasync" "(fd)" ["Force write of fd to disk without forcing update of metadata."],
    defined "fdopen" "(fd, mode='r', buffering=-1, encoding=None, *args, **kwargs)" [],
    function "fork" "()" [
      "Fork a child process.", "", "Return 0 to child process and PID of child to parent process."],
    function "forkpty" "()" [
      "Fork a new process with a new pseudo-terminal as controlling tty.", "",
      "Returns a tuple of (pid, master_fd).", "Like fork(), return pid of 0 to the child process,",
      "and pid of child to the parent process.",
      "To both, return fd of newly opened pseudo-terminal."],
    function "fpathconf" "(fd, name, /)" [
      "Return the configuration limit name for the file descriptor fd.", "",
      "If there is no limit, return -1."],
    function "fspath" "(path)" [
      "Return the file system path representation of the object.", "",
      "If the object is str or bytes, then allow it to pass through as-is. If the",
      "object defines __fspath__(), then return the result of that method. All other",
      "types raise a TypeError."],
    function "fstat" "(fd)" [
      "Perform a stat system call on the given file descriptor.", "",
      "Like stat(), but for an open file descriptor.", "Equivalent to os.stat(fd)."],
    function "fstatvfs" "(fd, /)" [
      "Perform an fstatvfs system call on the given fd.", "", "Equivalent to statvfs(fd)."],
    function "fsync" "(fd)" ["Force write of fd to disk."],
    function "ftruncate" "(fd, length, /)" [
      "Truncate a file, specified by file descriptor, to a specific length."],
    defined "fwalk"
      ("(top='.', topdown=True, onerror=None, *, follow_symlinks=False, dir_fd=None)") [
      "Directory tree generator.", "",
      "This behaves exactly like walk(), except that it yields a 4-tuple", "",
      "    dirpath, dirnames, filenames, dirfd", "",
      "`dirpath`, `dirnames` and `filenames` are identical to walk() output,",
      "and `dirfd` is a file descriptor referring to the directory `dirpath`.", "",
      "The advantage of fwalk() over walk() is that it's safe against symlink",
      "races (when follow_symlinks is False).", "",
      "If dir_fd is not None, it should be a file descriptor open to a directory,",
      "  and top should be relative; top will then be relative to that directory.",
      "  (dir_fd is always supported for fwalk.)", "", "Caution:",
      "Since fwalk() yields file descriptors, those are only valid until the",
      "next iteration step, so you should dup() them if you want to keep them",
      "for a longer period.", "", "Example:", "", "import os",
      "for root, dirs, files, rootfd in os.fwalk('python/Lib/email'):",
      "    print(root, \"consumes\", end=\"\")",
      "    print(sum(os.stat(name, dir_fd=rootfd).st_size for name in files),",
      "          end=\"\")", "    print(\"bytes in\", len(files), \"non-directory files\")",
      "    if 'CVS' in dirs:", "        dirs.remove('CVS')  # don't visit CVS directories"],
    function "get_blocking" "(fd, /)" [
      "Get the blocking mode of the file descriptor.", "",
      "Return False if the O_NONBLOCK flag is set, True if the flag is cleared."],
    defined "get_exec_path" "(env=None)" [
      "Returns the sequence of directories that will be searched for the",
      "named executable (similar to a shell) when launching a process.", "",
      "*env* must be an environment variable dict or None.  If *env* is None,",
      "os.environ will be used."],
    function "get_inheritable" "(fd, /)" [
      "Get the close-on-exe flag of the specified file descriptor."],
    function "get_terminal_size" none [
      "Return the size of the terminal window as (columns, lines).", "",
      "The optional argument fd (default standard output) specifies",
      "which file descriptor should be queried.", "",
      "If the file descriptor is not connected to a terminal, an OSError", "is thrown.", "",
      "This function will only be defined if an implementation is", "available for this system.",
      "", "shutil.get_terminal_size is the high-level function which should",
      "normally be used, os.get_terminal_size is the low-level implementation."],
    function "getcwd" "()" [
      "Return a unicode string representing the current working directory."],
    function "getcwdb" "()" ["Return a bytes string representing the current working directory."],
    function "getegid" "()" ["Return the current process's effective group id."],
    defined "getenv" "(key, default=None)" [
      "Get an environment variable, return None if it doesn't exist.",
      "The optional second argument can specify an alternate default.",
      "key, default and the result are str."],
    defined "getenvb" "(key, default=None)" [
      "Get an environment variable, return None if it doesn't exist.",
      "The optional second argument can specify an alternate default.",
      "key, default and the result are bytes."],
    function "geteuid" "()" ["Return the current process's effective user id."],
    function "getgid" "()" ["Return the current process's group id."],
    function "getgrouplist" "(user, group, /)" [
      "Returns a list of groups to which a user belongs.", "", "user", "  username to lookup",
      "group", "  base group id of the user"],
    function "getgroups" "()" ["Return list of supplemental group IDs for the process."],
    function "getloadavg" "()" [
      "Return average recent system load information.", "",
      "Return the number of processes in the system run queue averaged over",
      "the last 1, 5, and 15 minutes as a tuple of three floats.",
      "Raises OSError if the load average was unobtainable."],
    function "getlogin" "()" ["Return the actual login name."],
    function "getpgid" "(pid)" ["Call the system call getpgid(), and return the result."],
    function "getpgrp" "()" ["Return the current process group id."],
    function "getpid" "()" ["Return the current process id."],
    function "getppid" "()" [
      "Return the parent's process id.", "",
      "If the parent process has already exited, Windows machines will still",
      "return its id; others systems will return the id of the 'init' process (1)."],
    function "getpriority" "(which, who)" ["Return program scheduling priority."],
    function "getresgid" "()" [
      "Return a tuple of the current process's real, effective, and saved group ids."],
    function "getresuid" "()" [
      "Return a tuple of the current process's real, effective, and saved user ids."],
    function "getsid" "(pid, /)" ["Call the system call getsid(pid) and return the result."],
    function "getuid" "()" ["Return the current process's user id."],
    function "getxattr" "(path, attribute, *, follow_symlinks=True)" [
      "Return the value of extended attribute attribute on path.", "",
      "path may be either a string, a path-like object, or an open file descriptor.",
      "If follow_symlinks is False, and the last element of the path is a symbolic",
      "  link, getxattr will examine the symbolic link itself instead of the file",
      "  the link points to."],
    function "initgroups" "(username, gid, /)" [
      "Initialize the group access list.", "",
      "Call the system initgroups() to initialize the group access list with all of",
      "the groups of which the specified username is a member, plus the specified", "group id."],
    function "isatty" "(fd, /)" [
      "Return True if the fd is connected to a terminal.", "",
      "Return True if the file descriptor is an open file descriptor",
      "connected to the slave end of a terminal."],
    function "kill" "(pid, signal, /)" ["Kill a process with a signal."],
    function "killpg" "(pgid, signal, /)" ["Kill a process group with a signal."],
    function "lchown" "(path, uid, gid)" [
      "Change the owner and group id of path to the numeric uid and gid.", "",
      "This function will not follow symbolic links.",
      "Equivalent to os.chown(path, uid, gid, follow_symlinks=False)."],
    value "linesep" "str",
    function "link" "(src, dst, *, src_dir_fd=None, dst_dir_fd=None, follow_symlinks=True)" [
      "Create a hard link to a file.", "",
      "If either src_dir_fd or dst_dir_fd is not None, it should be a file",
      "  descriptor open to a directory, and the respective path string (src or dst)",
      "  should be relative; the path will then be relative to that directory.",
      "If follow_symlinks is False, and the last element of src is a symbolic",
      "  link, link will create a link to the symbolic link itself instead of the",
      "  file the link points to.",
      "src_dir_fd, dst_dir_fd, and follow_symlinks may not be implemented on your",
      "  platform.  If they are unavailable, using them will raise a", "  NotImplementedError."],
    function "listdir" "(path=None)" [
      "Return a list containing the names of the files in the directory.", "",
      "path can be specified as either str, bytes, or a path-like object.  If path is bytes,",
      "  the filenames returned will also be bytes; in all other circumstances",
      "  the filenames returned will be str.", "If path is None, uses the path='.'.",
      "On some platforms, path may also be specified as an open file descriptor;\\",
      "  the file descriptor must refer to a directory.",
      "  If this functionality is unavailable, using it raises NotImplementedError.", "",
      "The list is in arbitrary order.  It does not include the special",
      "entries '.' and '..' even if they are present in the directory."],
    function "listxattr" "(path=None, *, follow_symlinks=True)" [
      "Return a list of extended attributes on path.", "",
      "path may be either None, a string, a path-like object, or an open file descriptor.",
      "if path is None, listxattr will examine the current directory.",
      "If follow_symlinks is False, and the last element of the path is a symbolic",
      "  link, listxattr will examine the symbolic link itself instead of the file",
      "  the link points to."],
    function "lockf" "(fd, command, length, /)" [
      "Apply, test or remove a POSIX lock on an open file descriptor.", "", "fd",
      "  An open file descriptor.", "command", "  One of F_LOCK, F_TLOCK, F_ULOCK or F_TEST.",
      "length", "  The number of bytes to lock, starting at the current position."],
    function "login_tty" "(fd, /)" [
      "Prepare the tty of which fd is a file descriptor for a new login session.", "",
      "Make the calling process a session leader; make the tty the",
      "controlling tty, the stdin, the stdout, and the stderr of the",
      "calling process; close fd."],
    function "lseek" "(fd, position, whence, /)" [
      "Set the position of a file descriptor.  Return the new position.", "", "  fd",
      "    An open file descriptor, as returned by os.open().", "  position",
      "    Position, interpreted relative to 'whence'.", "  whence",
      "    The relative position to seek from. Valid values are:",
      "    - SEEK_SET: seek from the start of the file.",
      "    - SEEK_CUR: seek from the current file position.",
      "    - SEEK_END: seek from the end of the file.", "",
      "The return value is the number of bytes relative to the beginning of the file."],
    function "lstat" "(path, *, dir_fd=None)" [
      "Perform a stat system call on the given path, without following symbolic links.", "",
      "Like stat(), but do not follow symbolic links.",
      "Equivalent to stat(path, follow_symlinks=False)."],
    function "major" "(device, /)" ["Extracts a device major number from a raw device number."],
    function "makedev" "(major, minor, /)" [
      "Composes a raw device number from the major and minor device numbers."],
    defined "makedirs" "(name, mode=511, exist_ok=False)" [
      "makedirs(name [, mode=0o777][, exist_ok=False])", "",
      "Super-mkdir; create a leaf directory and all intermediate ones.  Works like",
      "mkdir, except that any intermediate path segment (not just the rightmost)",
      "will be created if it does not exist. If the target directory already",
      "exists, raise an OSError if exist_ok is False. Otherwise no exception is",
      "raised.  This is recursive."],
    function "minor" "(device, /)" ["Extracts a device minor number from a raw device number."],
    function "mkdir" "(path, mode=511, *, dir_fd=None)" [
      "Create a directory.", "",
      "If dir_fd is not None, it should be a file descriptor open to a directory,",
      "  and path should be relative; path will then be relative to that directory.",
      "dir_fd may not be implemented on your platform.",
      "  If it is unavailable, using it will raise a NotImplementedError.", "",
      "The mode argument is ignored on Windows. Where it is used, the current umask",
      "value is first masked out."],
    function "mkfifo" "(path, mode=438, *, dir_fd=None)" [
      "Create a \"fifo\" (a POSIX named pipe).", "",
      "If dir_fd is not None, it should be a file descriptor open to a directory,",
      "  and path should be relative; path will then be relative to that directory.",
      "dir_fd may not be implemented on your platform.",
      "  If it is unavailable, using it will raise a NotImplementedError."],
    function "mknod" "(path, mode=384, device=0, *, dir_fd=None)" [
      "Create a node in the file system.", "",
      "Create a node in the file system (file, device special file or named pipe)",
      "at path.  mode specifies both the permissions to use and the",
      "type of node to be created, being combined (bitwise OR) with one of",
      "S_IFREG, S_IFCHR, S_IFBLK, and S_IFIFO.  If S_IFCHR or S_IFBLK is set on mode,",
      "device defines the newly created device special file (probably using",
      "os.makedev()).  Otherwise device is ignored.", "",
      "If dir_fd is not None, it should be a file descriptor open to a directory,",
      "  and path should be relative; path will then be relative to that directory.",
      "dir_fd may not be implemented on your platform.",
      "  If it is unavailable, using it will raise a NotImplementedError."],
    value "name" "str",
    function "nice" "(increment, /)" [
      "Add increment to the priority of process and return the new priority."],
    function "open" "(path, flags, mode=511, *, dir_fd=None)" [
      "Open a file for low level IO.  Returns a file descriptor (integer).", "",
      "If dir_fd is not None, it should be a file descriptor open to a directory,",
      "  and path should be relative; path will then be relative to that directory.",
      "dir_fd may not be implemented on your platform.",
      "  If it is unavailable, using it will raise a NotImplementedError."],
    function "openpty" "()" [
      "Open a pseudo-terminal.", "",
      "Return a tuple of (master_fd, slave_fd) containing open file descriptors",
      "for both the master and slave ends."],
    value "pardir" "str",
    moduleOf "path" "posixpath",
    function "pathconf" "(path, name)" [
      "Return the configuration limit name for the file or directory path.", "",
      "If there is no limit, return -1.",
      "On some platforms, path may also be specified as an open file descriptor.",
      "  If this functionality is unavailable, using it raises an exception."],
    value "pathsep" "str",
    function "pipe" "()" [
      "Create a pipe.", "", "Returns a tuple of two file descriptors:", "  (read_fd, write_fd)"],
    function "pipe2" "(flags, /)" [
      "Create a pipe with flags set atomically.", "", "Returns a tuple of two file descriptors:",
      "  (read_fd, write_fd)", "",
      "flags can be constructed by ORing together one or more of these values:",
      "O_NONBLOCK, O_CLOEXEC."],
    defined "popen" "(cmd, mode='r', buffering=-1)" [],
    function "posix_fadvise" "(fd, offset, length, advice, /)" [
      "Announce an intention to access data in a specific pattern.", "",
      "Announce an intention to access data in a specific pattern, thus allowing",
      "the kernel to make optimizations.",
      "The advice applies to the region of the file specified by fd starting at",
      "offset and continuing for length bytes.",
      "advice is one of POSIX_FADV_NORMAL, POSIX_FADV_SEQUENTIAL,",
      "POSIX_FADV_RANDOM, POSIX_FADV_NOREUSE, POSIX_FADV_WILLNEED, or", "POSIX_FADV_DONTNEED."],
    function "posix_fallocate" "(fd, offset, length, /)" [
      "Ensure a file has allocated at least a particular number of bytes on disk.", "",
      "Ensure that the file specified by fd encompasses a range of bytes",
      "starting at offset bytes from the beginning and continuing for length bytes."],
    function "posix_spawn" none [
      "Execute the program specified by path in a new process.", "", "path",
      "  Path of executable file.", "argv", "  Tuple or list of strings.", "env",
      "  Dictionary of strings mapping to strings.", "file_actions",
      "  A sequence of file action tuples.", "setpgroup",
      "  The pgroup to use with the POSIX_SPAWN_SETPGROUP flag.", "resetids",
      "  If the value is `true` the POSIX_SPAWN_RESETIDS will be activated.", "setsid",
      "  If the value is `true` the POSIX_SPAWN_SETSID or POSIX_SPAWN_SETSID_NP will be " ++
      "activated.", "setsigmask", "  The sigmask to use with the POSIX_SPAWN_SETSIGMASK flag.",
      "setsigdef", "  The sigmask to use with the POSIX_SPAWN_SETSIGDEF flag.", "scheduler",
      "  A tuple with the scheduler policy (optional) and parameters."],
    function "posix_spawnp" none [
      "Execute the program specified by path in a new process.", "", "path",
      "  Path of executable file.", "argv", "  Tuple or list of strings.", "env",
      "  Dictionary of strings mapping to strings.", "file_actions",
      "  A sequence of file action tuples.", "setpgroup",
      "  The pgroup to use with the POSIX_SPAWN_SETPGROUP flag.", "resetids",
      "  If the value is `True` the POSIX_SPAWN_RESETIDS will be activated.", "setsid",
      "  If the value is `True` the POSIX_SPAWN_SETSID or POSIX_SPAWN_SETSID_NP will be " ++
      "activated.", "setsigmask", "  The sigmask to use with the POSIX_SPAWN_SETSIGMASK flag.",
      "setsigdef", "  The sigmask to use with the POSIX_SPAWN_SETSIGDEF flag.", "scheduler",
      "  A tuple with the scheduler policy (optional) and parameters."],
    function "pread" "(fd, length, offset, /)" [
      "Read a number of bytes from a file descriptor starting at a particular offset.", "",
      "Read length bytes from file descriptor fd, starting at offset bytes from",
      "the beginning of the file.  The file offset remains unchanged."],
    function "preadv" "(fd, buffers, offset, flags=0, /)" [
      "Reads from a file descriptor into a number of mutable bytes-like objects.", "",
      "Combines the functionality of readv() and pread(). As readv(), it will",
      "transfer data into each buffer until it is full and then move on to the next",
      "buffer in the sequence to hold the rest of the data. Its fourth argument,",
      "specifies the file offset at which the input operation is to be performed. It",
      "will return the total number of bytes read (which can be less than the total",
      "capacity of all the objects).", "",
      "The flags argument contains a bitwise OR of zero or more of the following flags:", "",
      "- RWF_HIPRI", "- RWF_NOWAIT", "", "Using non-zero flags requires Linux 4.6 or newer."],
    function "putenv" "(name, value, /)" ["Change or add an environment variable."],
    function "pwrite" "(fd, buffer, offset, /)" [
      "Write bytes to a file descriptor starting at a particular offset.", "",
      "Write buffer to fd, starting at offset bytes from the beginning of",
      "the file.  Returns the number of bytes writte.  Does not change the",
      "current file offset."],
    function "pwritev" "(fd, buffers, offset, flags=0, /)" [
      "Writes the contents of bytes-like objects to a file descriptor at a given offset.", "",
      "Combines the functionality of writev() and pwrite(). All buffers must be a sequence",
      "of bytes-like objects. Buffers are processed in array order. Entire contents of first",
      "buffer is written before proceeding to second, and so on. The operating system may",
      "set a limit (sysconf() value SC_IOV_MAX) on the number of buffers that can be used.",
      "This function writes the contents of each object to the file descriptor and returns",
      "the total number of bytes written.", "",
      "The flags argument contains a bitwise OR of zero or more of the following flags:", "",
      "- RWF_DSYNC", "- RWF_SYNC", "- RWF_APPEND", "",
      "Using non-zero flags requires Linux 4.7 or newer."],
    function "read" "(fd, length, /)" ["Read from a file descriptor.  Returns a bytes object."],
    function "readlink" "(path, *, dir_fd=None)" [
      "Return a string representing the path to which the symbolic link points.", "",
      "If dir_fd is not None, it should be a file descriptor open to a directory,",
      "and path should be relative; path will then be relative to that directory.", "",
      "dir_fd may not be implemented on your platform.  If it is unavailable,",
      "using it will raise a NotImplementedError."],
    function "readv" "(fd, buffers, /)" [
      "Read from a file descriptor fd into an iterable of buffers.", "",
      "The buffers should be mutable buffers accepting bytes.",
      "readv will transfer data into each buffer until it is full",
      "and then move on to the next buffer in the sequence to hold", "the rest of the data.", "",
      "readv returns the total number of bytes read,",
      "which may be less than the total capacity of all the buffers."],
    function "register_at_fork" none [
      "Register callables to be called when forking a new process.", "", "  before",
      "    A callable to be called in the parent before the fork() syscall.", "  after_in_child",
      "    A callable to be called in the child after fork().", "  after_in_parent",
      "    A callable to be called in the parent after fork().", "",
      "'before' callbacks are called in reverse order.",
      "'after_in_child' and 'after_in_parent' callbacks are called in order."],
    function "remove" "(path, *, dir_fd=None)" [
      "Remove a file (same as unlink()).", "",
      "If dir_fd is not None, it should be a file descriptor open to a directory,",
      "  and path should be relative; path will then be relative to that directory.",
      "dir_fd may not be implemented on your platform.",
      "  If it is unavailable, using it will raise a NotImplementedError."],
    defined "removedirs" "(name)" [
      "removedirs(name)", "", "Super-rmdir; remove a leaf directory and all empty intermediate",
      "ones.  Works like rmdir except that, if the leaf directory is",
      "successfully removed, directories corresponding to rightmost path",
      "segments will be pruned away until either the whole path is",
      "consumed or an error occurs.  Errors during this latter phase are",
      "ignored -- they generally mean that a directory was not empty."],
    function "removexattr" "(path, attribute, *, follow_symlinks=True)" [
      "Remove extended attribute attribute on path.", "",
      "path may be either a string, a path-like object, or an open file descriptor.",
      "If follow_symlinks is False, and the last element of the path is a symbolic",
      "  link, removexattr will modify the symbolic link itself instead of the file",
      "  the link points to."],
    function "rename" "(src, dst, *, src_dir_fd=None, dst_dir_fd=None)" [
      "Rename a file or directory.", "",
      "If either src_dir_fd or dst_dir_fd is not None, it should be a file",
      "  descriptor open to a directory, and the respective path string (src or dst)",
      "  should be relative; the path will then be relative to that directory.",
      "src_dir_fd and dst_dir_fd, may not be implemented on your platform.",
      "  If they are unavailable, using them will raise a NotImplementedError."],
    defined "renames" "(old, new)" [
      "renames(old, new)", "", "Super-rename; create directories as necessary and delete any left",
      "empty.  Works like rename, except creation of any intermediate",
      "directories needed to make the new pathname good is attempted",
      "first.  After the rename, directories corresponding to rightmost",
      "path segments of the old name will be pruned until either the",
      "whole path is consumed or a nonempty directory is found.", "",
      "Note: this function can fail with the new directory structure made",
      "if you lack permissions needed to unlink the leaf directory or", "file."],
    function "replace" "(src, dst, *, src_dir_fd=None, dst_dir_fd=None)" [
      "Rename a file or directory, overwriting the destination.", "",
      "If either src_dir_fd or dst_dir_fd is not None, it should be a file",
      "  descriptor open to a directory, and the respective path string (src or dst)",
      "  should be relative; the path will then be relative to that directory.",
      "src_dir_fd and dst_dir_fd, may not be implemented on your platform.",
      "  If they are unavailable, using them will raise a NotImplementedError."],
    function "rmdir" "(path, *, dir_fd=None)" [
      "Remove a directory.", "",
      "If dir_fd is not None, it should be a file descriptor open to a directory,",
      "  and path should be relative; path will then be relative to that directory.",
      "dir_fd may not be implemented on your platform.",
      "  If it is unavailable, using it will raise a NotImplementedError."],
    function "scandir" "(path=None)" [
      "Return an iterator of DirEntry objects for given path.", "",
      "path can be specified as either str, bytes, or a path-like object.  If path",
      "is bytes, the names of yielded DirEntry objects will also be bytes; in",
      "all other circumstances they will be str.", "", "If path is None, uses the path='.'."],
    function "sched_get_priority_max" "(policy)" [
      "Get the maximum scheduling priority for policy."],
    function "sched_get_priority_min" "(policy)" [
      "Get the minimum scheduling priority for policy."],
    function "sched_getaffinity" "(pid, /)" [
      "Return the affinity of the process identified by pid (or the current process if zero).", "",
      "The affinity is returned as a set of CPU identifiers."],
    function "sched_getparam" "(pid, /)" [
      "Returns scheduling parameters for the process identified by pid.", "",
      "If pid is 0, returns parameters for the calling process.",
      "Return value is an instance of sched_param."],
    function "sched_getscheduler" "(pid, /)" [
      "Get the scheduling policy for the process identified by pid.", "",
      "Passing 0 for pid returns the scheduling policy for the calling process."],
    function "sched_rr_get_interval" "(pid, /)" [
      "Return the round-robin quantum for the process identified by pid, in seconds.", "",
      "Value returned is a float."],
    function "sched_setaffinity" "(pid, mask, /)" [
      "Set the CPU affinity of the process identified by pid to mask.", "",
      "mask should be an iterable of integers identifying CPUs."],
    function "sched_setparam" "(pid, param, /)" [
      "Set scheduling parameters for the process identified by pid.", "",
      "If pid is 0, sets parameters for the calling process.",
      "param should be an instance of sched_param."],
    function "sched_setscheduler" "(pid, policy, param, /)" [
      "Set the scheduling policy for the process identified by pid.", "",
      "If pid is 0, the calling process is changed.", "param is an instance of sched_param."],
    function "sched_yield" "()" ["Voluntarily relinquish the CPU."],
    function "sendfile" "(out_fd, in_fd, offset, count)" [
      "Copy count bytes from file descriptor in_fd to file descriptor out_fd."],
    value "sep" "str",
    function "set_blocking" "(fd, blocking, /)" [
      "Set the blocking mode of the specified file descriptor.", "",
      "Set the O_NONBLOCK flag if blocking is False,", "clear the O_NONBLOCK flag otherwise."],
    function "set_inheritable" "(fd, inheritable, /)" [
      "Set the inheritable flag of the specified file descriptor."],
    function "setegid" "(egid, /)" ["Set the current process's effective group id."],
    function "seteuid" "(euid, /)" ["Set the current process's effective user id."],
    function "setgid" "(gid, /)" ["Set the current process's group id."],
    function "setgroups" "(groups, /)" ["Set the groups of the current process to list."],
    function "setpgid" "(pid, pgrp, /)" ["Call the system call setpgid(pid, pgrp)."],
    function "setpgrp" "()" ["Make the current process the leader of its process group."],
    function "setpriority" "(which, who, priority)" ["Set program scheduling priority."],
    function "setregid" "(rgid, egid, /)" [
      "Set the current process's real and effective group ids."],
    function "setresgid" "(rgid, egid, sgid, /)" [
      "Set the current process's real, effective, and saved group ids."],
    function "setresuid" "(ruid, euid, suid, /)" [
      "Set the current process's real, effective, and saved user ids."],
    function "setreuid" "(ruid, euid, /)" [
      "Set the current process's real and effective user ids."],
    function "setsid" "()" ["Call the system call setsid()."],
    function "setuid" "(uid, /)" ["Set the current process's user id."],
    function "setxattr" "(path, attribute, value, flags=0, *, follow_symlinks=True)" [
      "Set extended attribute attribute on path to value.", "",
      "path may be either a string, a path-like object,  or an open file descriptor.",
      "If follow_symlinks is False, and the last element of the path is a symbolic",
      "  link, setxattr will modify the symbolic link itself instead of the file",
      "  the link points to."],
    defined "spawnl" "(mode, file, *args)" [
      "spawnl(mode, file, *args) -> integer", "",
      "Execute file with arguments from args in a subprocess.",
      "If mode == P_NOWAIT return the pid of the process.",
      "If mode == P_WAIT return the process's exit code if it exits normally;",
      "otherwise return -SIG, where SIG is the signal that killed it. "],
    defined "spawnle" "(mode, file, *args)" [
      "spawnle(mode, file, *args, env) -> integer", "",
      "Execute file with arguments from args in a subprocess with the", "supplied environment.",
      "If mode == P_NOWAIT return the pid of the process.",
      "If mode == P_WAIT return the process's exit code if it exits normally;",
      "otherwise return -SIG, where SIG is the signal that killed it. "],
    defined "spawnlp" "(mode, file, *args)" [
      "spawnlp(mode, file, *args) -> integer", "",
      "Execute file (which is looked for along $PATH) with arguments from",
      "args in a subprocess with the supplied environment.",
      "If mode == P_NOWAIT return the pid of the process.",
      "If mode == P_WAIT return the process's exit code if it exits normally;",
      "otherwise return -SIG, where SIG is the signal that killed it. "],
    defined "spawnlpe" "(mode, file, *args)" [
      "spawnlpe(mode, file, *args, env) -> integer", "",
      "Execute file (which is looked for along $PATH) with arguments from",
      "args in a subprocess with the supplied environment.",
      "If mode == P_NOWAIT return the pid of the process.",
      "If mode == P_WAIT return the process's exit code if it exits normally;",
      "otherwise return -SIG, where SIG is the signal that killed it. "],
    defined "spawnv" "(mode, file, args)" [
      "spawnv(mode, file, args) -> integer", "",
      "Execute file with arguments from args in a subprocess.",
      "If mode == P_NOWAIT return the pid of the process.",
      "If mode == P_WAIT return the process's exit code if it exits normally;",
      "otherwise return -SIG, where SIG is the signal that killed it. "],
    defined "spawnve" "(mode, file, args, env)" [
      "spawnve(mode, file, args, env) -> integer", "",
      "Execute file with arguments from args in a subprocess with the", "specified environment.",
      "If mode == P_NOWAIT return the pid of the process.",
      "If mode == P_WAIT return the process's exit code if it exits normally;",
      "otherwise return -SIG, where SIG is the signal that killed it. "],
    defined "spawnvp" "(mode, file, args)" [
      "spawnvp(mode, file, args) -> integer", "",
      "Execute file (which is looked for along $PATH) with arguments from",
      "args in a subprocess.", "If mode == P_NOWAIT return the pid of the process.",
      "If mode == P_WAIT return the process's exit code if it exits normally;",
      "otherwise return -SIG, where SIG is the signal that killed it. "],
    defined "spawnvpe" "(mode, file, args, env)" [
      "spawnvpe(mode, file, args, env) -> integer", "",
      "Execute file (which is looked for along $PATH) with arguments from",
      "args in a subprocess with the supplied environment.",
      "If mode == P_NOWAIT return the pid of the process.",
      "If mode == P_WAIT return the process's exit code if it exits normally;",
      "otherwise return -SIG, where SIG is the signal that killed it. "],
    function "splice" "(src, dst, count, offset_src=None, offset_dst=None, flags=0)" [
      "Transfer count bytes from one pipe to a descriptor or vice versa.", "", "  src",
      "    Source file descriptor.", "  dst", "    Destination file descriptor.", "  count",
      "    Number of bytes to copy.", "  offset_src", "    Starting offset in src.",
      "  offset_dst", "    Starting offset in dst.", "  flags",
      "    Flags to modify the semantics of the call.", "",
      "If offset_src is None, then src is read from the current position;",
      "respectively for offset_dst. The offset associated to the file",
      "descriptor that refers to a pipe must be None."],
    moduleOf "st" "stat",
    function "stat" "(path, *, dir_fd=None, follow_symlinks=True)" [
      "Perform a stat system call on the given path.", "", "  path",
      "    Path to be examined; can be string, bytes, a path-like object or",
      "    open-file-descriptor int.", "  dir_fd",
      "    If not None, it should be a file descriptor open to a directory,",
      "    and path should be a relative string; path will then be relative to",
      "    that directory.", "  follow_symlinks",
      "    If False, and the last element of the path is a symbolic link,",
      "    stat will examine the symbolic link itself instead of the file",
      "    the link points to.", "", "dir_fd and follow_symlinks may not be implemented",
      "  on your platform.  If they are unavailable, using them will raise a",
      "  NotImplementedError.", "",
      "It's an error to use dir_fd or follow_symlinks when specifying path as",
      "  an open file descriptor."],
    classOf "stat_result" "os.stat_result",
    function "statvfs" "(path)" [
      "Perform a statvfs system call on the given path.", "",
      "path may always be specified as a string.",
      "On some platforms, path may also be specified as an open file descriptor.",
      "  If this functionality is unavailable, using it raises an exception."],
    function "strerror" "(code, /)" ["Translate an error code to a message string."],
    value "supports_bytes_environ" "bool",
    value "supports_dir_fd" "set",
    value "supports_effective_ids" "set",
    value "supports_fd" "set",
    value "supports_follow_symlinks" "set",
    function "symlink" "(src, dst, target_is_directory=False, *, dir_fd=None)" [
      "Create a symbolic link pointing to src named dst.", "",
      "target_is_directory is required on Windows if the target is to be",
      "  interpreted as a directory.  (On Windows, symlink requires",
      "  Windows 6.0 or greater, and raises a NotImplementedError otherwise.)",
      "  target_is_directory is ignored on non-Windows platforms.", "",
      "If dir_fd is not None, it should be a file descriptor open to a directory,",
      "  and path should be relative; path will then be relative to that directory.",
      "dir_fd may not be implemented on your platform.",
      "  If it is unavailable, using it will raise a NotImplementedError."],
    function "sync" "()" ["Force write of everything to disk."],
    moduleOf "sys" "sys",
    function "sysconf" "(name, /)" ["Return an integer-valued system configuration variable."],
    function "system" "(command)" ["Execute the command in a subshell."],
    function "tcgetpgrp" "(fd, /)" [
      "Return the process group associated with the terminal specified by fd."],
    function "tcsetpgrp" "(fd, pgid, /)" [
      "Set the process group associated with the terminal specified by fd."],
    classOf "terminal_size" "os.terminal_size",
    function "times" "()" [
      "Return a collection containing process timing information.", "",
      "The object returned behaves like a named tuple with these fields:",
      "  (utime, stime, cutime, cstime, elapsed_time)", "All fields are floating point numbers."],
    function "truncate" "(path, length)" [
      "Truncate a file, specified by path, to a specific length.", "",
      "On some platforms, path may also be specified as an open file descriptor.",
      "  If this functionality is unavailable, using it raises an exception."],
    function "ttyname" "(fd, /)" [
      "Return the name of the terminal device connected to 'fd'.", "", "fd",
      "  Integer file descriptor handle."],
    function "umask" "(mask, /)" ["Set the current numeric umask and return the previous umask."],
    function "uname" "()" [
      "Return an object identifying the current operating system.", "",
      "The object behaves like a named tuple with the following fields:",
      "  (sysname, nodename, release, version, machine)"],
    function "unlink" "(path, *, dir_fd=None)" [
      "Remove a file (same as remove()).", "",
      "If dir_fd is not None, it should be a file descriptor open to a directory,",
      "  and path should be relative; path will then be relative to that directory.",
      "dir_fd may not be implemented on your platform.",
      "  If it is unavailable, using it will raise a NotImplementedError."],
    function "unsetenv" "(name, /)" ["Delete an environment variable."],
    function "urandom" "(size, /)" [
      "Return a bytes object containing random bytes suitable for cryptographic use."],
    function "utime" none [
      "Set the access and modified time of path.", "", "path may always be specified as a string.",
      "On some platforms, path may also be specified as an open file descriptor.",
      "  If this functionality is unavailable, using it raises an exception.", "",
      "If times is not None, it must be a tuple (atime, mtime);",
      "    atime and mtime should be expressed as float seconds since the epoch.",
      "If ns is specified, it must be a tuple (atime_ns, mtime_ns);",
      "    atime_ns and mtime_ns should be expressed as integer nanoseconds",
      "    since the epoch.",
      "If times is None and ns is unspecified, utime uses the current time.",
      "Specifying tuples for both times and ns is an error.", "",
      "If dir_fd is not None, it should be a file descriptor open to a directory,",
      "  and path should be relative; path will then be relative to that directory.",
      "If follow_symlinks is False, and the last element of the path is a symbolic",
      "  link, utime will modify the symbolic link itself instead of the file the",
      "  link points to.", "It is an error to use dir_fd or follow_symlinks when specifying path",
      "  as an open file descriptor.",
      "dir_fd and follow_symlinks may not be available on your platform.",
      "  If they are unavailable, using them will raise a NotImplementedError."],
    function "wait" "()" [
      "Wait for completion of a child process.", "",
      "Returns a tuple of information about the child process:", "    (pid, status)"],
    function "wait3" "(options)" [
      "Wait for completion of a child process.", "",
      "Returns a tuple of information about the child process:", "  (pid, status, rusage)"],
    function "wait4" "(pid, options)" [
      "Wait for completion of a specific child process.", "",
      "Returns a tuple of information about the child process:", "  (pid, status, rusage)"],
    function "waitid" "(idtype, id, options, /)" [
      "Returns the result of waiting for a process or processes.", "", "  idtype",
      "    Must be one of be P_PID, P_PGID or P_ALL.", "  id", "    The id to wait on.",
      "  options", "    Constructed from the ORing of one or more of WEXITED, WSTOPPED",
      "    or WCONTINUED and additionally may be ORed with WNOHANG or WNOWAIT.", "",
      "Returns either waitid_result or None if WNOHANG is specified and there are",
      "no children in a waitable state."],
    function "waitpid" "(pid, options, /)" [
      "Wait for completion of a given child process.", "",
      "Returns a tuple of information regarding the child process:", "    (pid, status)", "",
      "The options argument is ignored on Windows."],
    function "waitstatus_to_exitcode" "(status)" [
      "Convert a wait status to an exit code.", "", "On Unix:", "",
      "* If WIFEXITED(status) is true, return WEXITSTATUS(status).",
      "* If WIFSIGNALED(status) is true, return -WTERMSIG(status).",
      "* Otherwise, raise a ValueError.", "", "On Windows, return status shifted right by 8 bits.",
      "", "On Unix, if the process is being traced or if waitpid() was called with",
      "WUNTRACED option, the caller must first check if WIFSTOPPED(status) is true.",
      "This function must not be called if WIFSTOPPED(status) is true."],
    defined "walk" "(top, topdown=True, onerror=None, followlinks=False)" [
      "Directory tree generator.", "",
      "For each directory in the directory tree rooted at top (including top",
      "itself, but excluding '.' and '..'), yields a 3-tuple", "",
      "    dirpath, dirnames, filenames", "",
      "dirpath is a string, the path to the directory.  dirnames is a list of",
      "the names of the subdirectories in dirpath (including symlinks to directories,",
      "and excluding '.' and '..').",
      "filenames is a list of the names of the non-directory files in dirpath.",
      "Note that the names in the lists are just names, with no path components.",
      "To get a full path (which begins with top) to a file or directory in",
      "dirpath, do os.path.join(dirpath, name).", "",
      "If optional arg 'topdown' is true or not specified, the triple for a",
      "directory is generated before the triples for any of its subdirectories",
      "(directories are generated top down).  If topdown is false, the triple",
      "for a directory is generated after the triples for all of its",
      "subdirectories (directories are generated bottom up).", "",
      "When topdown is true, the caller can modify the dirnames list in-place",
      "(e.g., via del or slice assignment), and walk will only recurse into the",
      "subdirectories whose names remain in dirnames; this can be used to prune the",
      "search, or to impose a specific order of visiting.  Modifying dirnames when",
      "topdown is false has no effect on the behavior of os.walk(), since the",
      "directories in dirnames have already been generated by the time dirnames",
      "itself is generated. No matter the value of topdown, the list of",
      "subdirectories is retrieved before the tuples for the directory and its",
      "subdirectories are generated.", "",
      "By default errors from the os.scandir() call are ignored.  If",
      "optional arg 'onerror' is specified, it should be a function; it",
      "will be called with one argument, an OSError instance.  It can",
      "report the error to continue with the walk, or raise the exception",
      "to abort the walk.  Note that the filename is available as the",
      "filename attribute of the exception object.", "",
      "By default, os.walk does not follow symbolic links to subdirectories on",
      "systems that support them.  In order to get this functionality, set the",
      "optional argument 'followlinks' to true.", "",
      "Caution:  if you pass a relative pathname for top, don't change the",
      "current working directory between resumptions of walk.  walk never",
      "changes the current directory, and assumes that the client doesn't", "either.", "",
      "Example:", "", "import os", "from os.path import join, getsize",
      "for root, dirs, files in os.walk('python/Lib/email'):", "    print(root, \"consumes \")",
      "    print(sum(getsize(join(root, name)) for name in files), end=\" \")",
      "    print(\"bytes in\", len(files), \"non-directory files\")", "    if 'CVS' in dirs:",
      "        dirs.remove('CVS')  # don't visit CVS directories"],
    function "write" "(fd, data, /)" ["Write a bytes object to a file descriptor."],
    function "writev" "(fd, buffers, /)" [
      "Iterate over buffers, and write the contents of each to a file descriptor.", "",
      "Returns the total number of bytes written.",
      "buffers must be a sequence of bytes-like objects."]]

end Playground.Reference
