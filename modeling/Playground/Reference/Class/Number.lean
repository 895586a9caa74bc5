import Playground.Reference.Entry
import Playground.Reference.Operator

/-!
# Numbers

The classes of numbers.
-/

namespace Playground.Reference

open Entry

/-- The class `int`. -/
def intClass : ClassTable where
  name := "int"
  documentation := [
    "int([x]) -> integer", "int(x, base=10) -> integer", "",
    "Convert a number or string to an integer, or return 0 if no arguments",
    "are given.  If x is a number, return x.__int__().  For floating point",
    "numbers, this truncates towards zero.", "",
    "If x is not a number or if base is given, then x must be a string,",
    "bytes, or bytearray instance representing an integer literal in the",
    "given base.  The literal can be preceded by '+' or '-' and be surrounded",
    "by whitespace.  The base defaults to 10.  Valid bases are 0 and 2-36.",
    "Base 0 means to interpret the base from the string as an integer literal.",
    ">>> int('0b100', base=0)", "4"]
  members := operators [
    "__abs__", "__add__", "__and__", "__bool__", "__divmod__", "__eq__", "__float__",
    "__floordiv__", "__ge__", "__getattribute__", "__gt__", "__hash__", "__index__", "__int__",
    "__invert__", "__le__", "__lshift__", "__lt__", "__mod__", "__mul__", "__ne__", "__neg__",
    "__new__", "__or__", "__pos__", "__pow__", "__radd__", "__rand__", "__rdivmod__", "__repr__",
    "__rfloordiv__", "__rlshift__", "__rmod__", "__rmul__", "__ror__", "__rpow__", "__rrshift__",
    "__rshift__", "__rsub__", "__rtruediv__", "__rxor__", "__sub__", "__truediv__", "__xor__"] ++ [
    method "__ceil__" none ["Ceiling of an Integral returns itself."],
    value "__doc__" "str",
    method "__floor__" none ["Flooring an Integral returns itself."],
    method "__format__" "(self, format_spec, /)" ["Default object formatter."],
    method "__getnewargs__" "(self, /)" [],
    method "__round__" none [
      "Rounding an Integral returns itself.", "",
      "Rounding with an ndigits argument also returns an integer."],
    method "__sizeof__" "(self, /)" ["Returns size in memory, in bytes."],
    method "__trunc__" none ["Truncating an Integral returns itself."],
    method "as_integer_ratio" "(self, /)" [
      "Return integer ratio.", "",
      "Return a pair of integers, whose ratio is exactly equal to the original int",
      "and with a positive denominator.", "", ">>> (10).as_integer_ratio()", "(10, 1)",
      ">>> (-10).as_integer_ratio()", "(-10, 1)", ">>> (0).as_integer_ratio()", "(0, 1)"],
    method "bit_count" "(self, /)" [
      "Number of ones in the binary representation of the absolute value of self.", "",
      "Also known as the population count.", "", ">>> bin(13)", "'0b1101'", ">>> (13).bit_count()",
      "3"],
    method "bit_length" "(self, /)" [
      "Number of bits necessary to represent self in binary.", "", ">>> bin(37)", "'0b100101'",
      ">>> (37).bit_length()", "6"],
    method "conjugate" none ["Returns self, the complex conjugate of any int."],
    accessor "denominator",
    classMethod "from_bytes" "(type, /, bytes, byteorder='big', *, signed=False)" [
      "Return the integer represented by the given array of bytes.", "", "bytes",
      "  Holds the array of bytes to convert.  The argument must either",
      "  support the buffer protocol or be an iterable object producing bytes.",
      "  Bytes and bytearray are examples of built-in objects that support the",
      "  buffer protocol.", "byteorder",
      "  The byte order used to represent the integer.  If byteorder is 'big',",
      "  the most significant byte is at the beginning of the byte array.  If",
      "  byteorder is 'little', the most significant byte is at the end of the",
      "  byte array.  To request the native byte order of the host system, use",
      "  `sys.byteorder' as the byte order value.  Default is to use 'big'.", "signed",
      "  Indicates whether two's complement is used to represent the integer."],
    accessor "imag",
    accessor "numerator",
    accessor "real",
    method "to_bytes" "(self, /, length=1, byteorder='big', *, signed=False)" [
      "Return an array of bytes representing an integer.", "", "length",
      "  Length of bytes object to use.  An OverflowError is raised if the",
      "  integer is not representable with the given number of bytes.  Default", "  is length 1.",
      "byteorder", "  The byte order used to represent the integer.  If byteorder is 'big',",
      "  the most significant byte is at the beginning of the byte array.  If",
      "  byteorder is 'little', the most significant byte is at the end of the",
      "  byte array.  To request the native byte order of the host system, use",
      "  `sys.byteorder' as the byte order value.  Default is to use 'big'.", "signed",
      "  Determines whether two's complement is used to represent the integer.",
      "  If signed is False and a negative integer is given, an OverflowError", "  is raised."]]

/-- The class `bool`. -/
def boolClass : ClassTable where
  name := "bool"
  ancestors := ["int", "object"]
  documentation := [
    "bool(x) -> bool", "", "Returns True when the argument x is true, False otherwise.",
    "The builtins True and False are the only two instances of the class bool.",
    "The class bool is a subclass of the class int, and cannot be subclassed."]
  members := operators [
    "__and__", "__new__", "__or__", "__rand__", "__repr__", "__ror__", "__rxor__", "__xor__"] ++ [
    value "__doc__" "str"]

/-- The class `float`. -/
def floatClass : ClassTable where
  name := "float"
  signature := "(x=0, /)"
  documentation := ["Convert a string or number to a floating point number, if possible."]
  members := operators [
    "__abs__", "__add__", "__bool__", "__divmod__", "__eq__", "__float__", "__floordiv__",
    "__ge__", "__getattribute__", "__gt__", "__hash__", "__int__", "__le__", "__lt__", "__mod__",
    "__mul__", "__ne__", "__neg__", "__new__", "__pos__", "__pow__", "__radd__", "__rdivmod__",
    "__repr__", "__rfloordiv__", "__rmod__", "__rmul__", "__rpow__", "__rsub__", "__rtruediv__",
    "__sub__", "__truediv__"] ++ [
    method "__ceil__" "(self, /)" ["Return the ceiling as an Integral."],
    value "__doc__" "str",
    method "__floor__" "(self, /)" ["Return the floor as an Integral."],
    method "__format__" "(self, format_spec, /)" ["Formats the float according to format_spec."],
    classMethod "__getformat__" "(type, typestr, /)" [
      "You probably don't want to use this function.", "", "  typestr",
      "    Must be 'double' or 'float'.", "",
      "It exists mainly to be used in Python's test suite.", "",
      "This function returns whichever of 'unknown', 'IEEE, big-endian' or 'IEEE,",
      "little-endian' best describes the format of floating point numbers used by the",
      "C type named by typestr."],
    method "__getnewargs__" "(self, /)" [],
    method "__round__" "(self, ndigits=None, /)" [
      "Return the Integral closest to x, rounding half toward even.", "",
      "When an argument is passed, work like built-in round(x, ndigits)."],
    method "__trunc__" "(self, /)" ["Return the Integral closest to x between 0 and x."],
    method "as_integer_ratio" "(self, /)" [
      "Return integer ratio.", "",
      "Return a pair of integers, whose ratio is exactly equal to the original float",
      "and with a positive denominator.", "",
      "Raise OverflowError on infinities and a ValueError on NaNs.", "",
      ">>> (10.0).as_integer_ratio()", "(10, 1)", ">>> (0.0).as_integer_ratio()", "(0, 1)",
      ">>> (-.25).as_integer_ratio()", "(-1, 4)"],
    method "conjugate" "(self, /)" ["Return self, the complex conjugate of any float."],
    classMethod "fromhex" "(type, string, /)" [
      "Create a floating-point number from a hexadecimal string.", "",
      ">>> float.fromhex('0x1.ffffp10')", "2047.984375", ">>> float.fromhex('-0x1p-1074')",
      "-5e-324"],
    method "hex" "(self, /)" [
      "Return a hexadecimal representation of a floating-point number.", "", ">>> (-0.1).hex()",
      "'-0x1.999999999999ap-4'", ">>> 3.14159.hex()", "'0x1.921f9f01b866ep+1'"],
    accessor "imag",
    method "is_integer" "(self, /)" ["Return True if the float is an integer."],
    accessor "real"]

/-- The class `complex`. -/
def complexClass : ClassTable where
  name := "complex"
  signature := "(real=0, imag=0)"
  documentation := [
    "Create a complex number from a real part and an optional imaginary part.", "",
    "This is equivalent to (real + imag*1j) where imag defaults to 0."]
  members := operators [
    "__abs__", "__add__", "__bool__", "__eq__", "__ge__", "__getattribute__", "__gt__", "__hash__",
    "__le__", "__lt__", "__mul__", "__ne__", "__neg__", "__new__", "__pos__", "__pow__",
    "__radd__", "__repr__", "__rmul__", "__rpow__", "__rsub__", "__rtruediv__", "__sub__",
    "__truediv__"] ++ [
    method "__complex__" "(self, /)" ["Convert this value to exact type complex."],
    value "__doc__" "str",
    method "__format__" "(self, format_spec, /)" [
      "Convert to a string according to format_spec."],
    method "__getnewargs__" "(self, /)" [],
    method "conjugate" "(self, /)" [
      "Return the complex conjugate of its argument. (3-4j).conjugate() == 3+4j."],
    field "imag",
    field "real"]

/-- The classes of numbers. -/
def numberClasses : List ClassTable := [
  intClass, boolClass, floatClass, complexClass]

end Playground.Reference
