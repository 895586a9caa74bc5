import Playground.Reference.Entry

/-!
# Path names

The modules of operations on the names of files.
-/

namespace Playground.Reference

open Entry

/-- The module `posixpath`, which is also the module `os.path`. -/
def posixpathModule : ModuleTable where
  name := "posixpath"
  aliases := ["os.path"]
  documentation := [
    "Common operations on Posix pathnames.", "",
    "Instead of importing this module directly, import os and refer to",
    "this module as os.path.  The \"os.path\" name is an alias for this",
    "module on Posix systems; on other systems (e.g. Windows),",
    "os.path provides the same operations in a manner specific to that",
    "platform, and is an alias to another module (e.g. ntpath).", "",
    "Some of this can actually be useful on non-Posix systems too, e.g.",
    "for manipulation of the pathname component of URLs."]
  members := [
    value "__all__" "list",
    value "__builtins__" "dict",
    value "__cached__" "str",
    value "__doc__" "str",
    value "__file__" "str",
    classOf "__loader__" "FrozenImporter",
    value "__name__" "str",
    value "__package__" "str",
    value "__spec__" "ModuleSpec",
    defined "_get_sep" "(path)" [],
    defined "_joinrealpath" "(path, rest, strict, seen)" [],
    function "_path_normpath" "(path)" ["Basic path normalization."],
    value "_varprog" "NoneType",
    value "_varprogb" "NoneType",
    defined "abspath" "(path)" ["Return an absolute path."],
    value "altsep" "NoneType",
    defined "basename" "(p)" ["Returns the final component of a pathname"],
    defined "commonpath" "(paths)" [
      "Given a sequence of path names, returns the longest common sub-path."],
    defined "commonprefix" "(m)" [
      "Given a list of pathnames, returns the longest common leading component"],
    value "curdir" "str",
    value "defpath" "str",
    value "devnull" "str",
    defined "dirname" "(p)" ["Returns the directory component of a pathname"],
    defined "exists" "(path)" [
      "Test whether a path exists.  Returns False for broken symbolic links"],
    defined "expanduser" "(path)" [
      "Expand ~ and ~user constructions.  If user or $HOME is unknown,", "do nothing."],
    defined "expandvars" "(path)" [
      "Expand shell variables of form $var and $\x7bvar\x7d.  Unknown variables",
      "are left unchanged."],
    value "extsep" "str",
    moduleOf "genericpath" "genericpath",
    defined "getatime" "(filename)" [
      "Return the last access time of a file, reported by os.stat()."],
    defined "getctime" "(filename)" [
      "Return the metadata change time of a file, reported by os.stat()."],
    defined "getmtime" "(filename)" [
      "Return the last modification time of a file, reported by os.stat()."],
    defined "getsize" "(filename)" ["Return the size of a file, reported by os.stat()."],
    defined "isabs" "(s)" ["Test whether a path is absolute"],
    defined "isdir" "(s)" ["Return true if the pathname refers to an existing directory."],
    defined "isfile" "(path)" ["Test whether a path is a regular file"],
    defined "islink" "(path)" ["Test whether a path is a symbolic link"],
    defined "ismount" "(path)" ["Test whether a path is a mount point"],
    defined "join" "(a, *p)" [
      "Join two or more pathname components, inserting '/' as needed.",
      "If any component is an absolute path, all previous path components",
      "will be discarded.  An empty last part will result in a path that",
      "ends with a separator."],
    defined "lexists" "(path)" [
      "Test whether a path exists.  Returns True for broken symbolic links"],
    defined "normcase" "(s)" ["Normalize case of pathname.  Has no effect under Posix"],
    defined "normpath" "(path)" ["Normalize path, eliminating double slashes, etc."],
    moduleOf "os" "os",
    value "pardir" "str",
    value "pathsep" "str",
    defined "realpath" "(filename, *, strict=False)" [
      "Return the canonical path of the specified filename, eliminating any",
      "symbolic links encountered in the path."],
    defined "relpath" "(path, start=None)" ["Return a relative version of a path"],
    defined "samefile" "(f1, f2)" [
      "Test whether two pathnames reference the same actual file or directory", "",
      "This is determined by the device number and i-node number and",
      "raises an exception if an os.stat() call on either pathname fails."],
    defined "sameopenfile" "(fp1, fp2)" [
      "Test whether two open file objects reference the same file"],
    defined "samestat" "(s1, s2)" ["Test whether two stat buffers reference the same file"],
    value "sep" "str",
    defined "split" "(p)" [
      "Split a pathname.  Returns tuple \"(head, tail)\" where \"tail\" is",
      "everything after the final slash.  Either part may be empty."],
    defined "splitdrive" "(p)" [
      "Split a pathname into drive and path. On Posix, drive is always", "empty."],
    defined "splitext" "(p)" [],
    moduleOf "stat" "stat",
    value "supports_unicode_filenames" "bool",
    moduleOf "sys" "sys"]

/-- The module `genericpath`. -/
def genericpathModule : ModuleTable where
  name := "genericpath"
  documentation := [
    "Path operations common to more than one OS",
    "Do not use directly.  The OS specific modules import the appropriate",
    "functions from this module themselves."]
  members := [
    value "__all__" "list",
    value "__builtins__" "dict",
    value "__cached__" "str",
    value "__doc__" "str",
    value "__file__" "str",
    classOf "__loader__" "FrozenImporter",
    value "__name__" "str",
    value "__package__" "str",
    value "__spec__" "ModuleSpec",
    defined "_check_arg_types" "(funcname, *args)" [],
    defined "_splitext" "(p, sep, altsep, extsep)" [
      "Split the extension from a pathname.", "",
      "Extension is everything from the last dot to the end, ignoring",
      "leading dots.  Returns \"(root, ext)\"; ext may be empty."],
    defined "commonprefix" "(m)" [
      "Given a list of pathnames, returns the longest common leading component"],
    defined "exists" "(path)" [
      "Test whether a path exists.  Returns False for broken symbolic links"],
    defined "getatime" "(filename)" [
      "Return the last access time of a file, reported by os.stat()."],
    defined "getctime" "(filename)" [
      "Return the metadata change time of a file, reported by os.stat()."],
    defined "getmtime" "(filename)" [
      "Return the last modification time of a file, reported by os.stat()."],
    defined "getsize" "(filename)" ["Return the size of a file, reported by os.stat()."],
    defined "isdir" "(s)" ["Return true if the pathname refers to an existing directory."],
    defined "isfile" "(path)" ["Test whether a path is a regular file"],
    moduleOf "os" "os",
    defined "samefile" "(f1, f2)" [
      "Test whether two pathnames reference the same actual file or directory", "",
      "This is determined by the device number and i-node number and",
      "raises an exception if an os.stat() call on either pathname fails."],
    defined "sameopenfile" "(fp1, fp2)" [
      "Test whether two open file objects reference the same file"],
    defined "samestat" "(s1, s2)" ["Test whether two stat buffers reference the same file"],
    moduleOf "stat" "stat"]

/-- The modules of path names. -/
def pathModules : List ModuleTable := [posixpathModule, genericpathModule]

end Playground.Reference
