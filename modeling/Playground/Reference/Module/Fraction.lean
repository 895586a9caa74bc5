import Playground.Reference.Entry
import Playground.Reference.Operator

/-!
# Kinds of numbers and fractions

The modules of the tower of numbers and of rational numbers.
-/

namespace Playground.Reference

open Entry

/-- The module `numbers`. -/
def numbersModule : ModuleTable where
  name := "numbers"
  documentation := [
    "Abstract Base Classes (ABCs) for numbers, according to PEP 3141.", "",
    "TODO: Fill out more detailed documentation on the operators."]
  members := [
    classOf "ABCMeta" "ABCMeta",
    classOf "Complex" "numbers.Complex",
    classOf "Integral" "numbers.Integral",
    classOf "Number" "numbers.Number",
    classOf "Rational" "numbers.Rational",
    classOf "Real" "numbers.Real",
    value "__all__" "list",
    value "__builtins__" "dict",
    value "__cached__" "str",
    value "__doc__" "str",
    value "__file__" "str",
    value "__loader__" "SourceFileLoader",
    value "__name__" "str",
    value "__package__" "str",
    value "__spec__" "ModuleSpec",
    defined "abstractmethod" "(funcobj)" [
      "A decorator indicating abstract methods.", "",
      "Requires that the metaclass is ABCMeta or derived from it.  A",
      "class that has a metaclass derived from ABCMeta cannot be",
      "instantiated unless all of its abstract methods are overridden.",
      "The abstract methods can be called using any of the normal",
      "'super' call mechanisms.  abstractmethod() may be used to declare",
      "abstract methods for properties and descriptors.", "", "Usage:", "",
      "    class C(metaclass=ABCMeta):", "        @abstractmethod",
      "        def my_abstract_method(self, arg1, arg2, argN):", "            ..."]]

/-- The module `fractions`. -/
def fractionsModule : ModuleTable where
  name := "fractions"
  documentation := ["Fraction, infinite-precision, rational numbers."]
  members := [
    classOf "Decimal" "decimal.Decimal",
    classOf "Fraction" "fractions.Fraction",
    value "_PyHASH_INF" "int",
    value "_PyHASH_MODULUS" "int",
    value "_RATIONAL_FORMAT" "Pattern",
    value "__all__" "list",
    value "__builtins__" "dict",
    value "__cached__" "str",
    value "__doc__" "str",
    value "__file__" "str",
    value "__loader__" "SourceFileLoader",
    value "__name__" "str",
    value "__package__" "str",
    value "__spec__" "ModuleSpec",
    moduleOf "math" "math",
    moduleOf "numbers" "numbers",
    moduleOf "operator" "operator",
    moduleOf "re" "re",
    moduleOf "sys" "sys"]

/-- The class `numbers.Number`. -/
def numberKindClass : ClassTable where
  name := "numbers.Number"
  metaclass := "ABCMeta"
  signature := "()"
  documentation := [
    "All numbers inherit from this class.", "",
    "If you just want to check if an argument x is a number, without",
    "caring what kind, use isinstance(x, Number)."]
  members := [
    value "__abstractmethods__" "frozenset",
    value "__doc__" "str",
    value "__hash__" "NoneType",
    value "__module__" "str",
    value "__slots__" "tuple",
    value "_abc_impl" "_abc._abc_data"]

/-- The class `numbers.Complex`. -/
def complexKindClass : ClassTable where
  name := "numbers.Complex"
  ancestors := ["numbers.Number", "object"]
  metaclass := "ABCMeta"
  signature := "()"
  documentation := [
    "Complex defines the operations that work on the builtin complex type.", "",
    "In short, those are: a conversion to complex, .real, .imag, +, -,",
    "*, /, **, abs(), .conjugate, ==, and !=.", "",
    "If it is given heterogeneous arguments, and doesn't have special",
    "knowledge about them, it should fall back to the builtin complex", "type as described below."]
  members := [
    defined "__abs__" "(self)" ["Returns the Real distance from 0. Called for abs(self)."],
    value "__abstractmethods__" "frozenset",
    defined "__add__" "(self, other)" ["self + other"],
    defined "__bool__" "(self)" ["True if self != 0. Called for bool(self)."],
    defined "__complex__" "(self)" [
      "Return a builtin complex instance. Called for complex(self)."],
    value "__doc__" "str",
    defined "__eq__" "(self, other)" ["self == other"],
    value "__hash__" "NoneType",
    value "__module__" "str",
    defined "__mul__" "(self, other)" ["self * other"],
    defined "__neg__" "(self)" ["-self"],
    defined "__pos__" "(self)" ["+self"],
    defined "__pow__" "(self, exponent)" [
      "self**exponent; should promote to float or complex when necessary."],
    defined "__radd__" "(self, other)" ["other + self"],
    defined "__rmul__" "(self, other)" ["other * self"],
    defined "__rpow__" "(self, base)" ["base ** self"],
    defined "__rsub__" "(self, other)" ["other - self"],
    defined "__rtruediv__" "(self, other)" ["other / self"],
    value "__slots__" "tuple",
    defined "__sub__" "(self, other)" ["self - other"],
    defined "__truediv__" "(self, other)" [
      "self / other: Should promote to float when necessary."],
    value "_abc_impl" "_abc._abc_data",
    defined "conjugate" "(self)" ["(x+y*i).conjugate() returns (x-y*i)."],
    computed "imag",
    computed "real"]

/-- The class `numbers.Real`. -/
def realKindClass : ClassTable where
  name := "numbers.Real"
  ancestors := ["numbers.Complex", "numbers.Number", "object"]
  metaclass := "ABCMeta"
  signature := "()"
  documentation := [
    "To Complex, Real adds the operations that work on real numbers.", "",
    "In short, those are: a conversion to float, trunc(), divmod,", "%, <, <=, >, and >=.", "",
    "Real also provides defaults for the derived operations."]
  members := [
    value "__abstractmethods__" "frozenset",
    defined "__ceil__" "(self)" ["Finds the least Integral >= self."],
    defined "__complex__" "(self)" ["complex(self) == complex(float(self), 0)"],
    defined "__divmod__" "(self, other)" [
      "divmod(self, other): The pair (self // other, self % other).", "",
      "Sometimes this can be computed faster than the pair of", "operations."],
    value "__doc__" "str",
    defined "__float__" "(self)" [
      "Any Real can be converted to a native float object.", "", "Called for float(self)."],
    defined "__floor__" "(self)" ["Finds the greatest Integral <= self."],
    defined "__floordiv__" "(self, other)" ["self // other: The floor() of self/other."],
    defined "__le__" "(self, other)" ["self <= other"],
    defined "__lt__" "(self, other)" [
      "self < other", "", "< on Reals defines a total ordering, except perhaps for NaN."],
    defined "__mod__" "(self, other)" ["self % other"],
    value "__module__" "str",
    defined "__rdivmod__" "(self, other)" [
      "divmod(other, self): The pair (self // other, self % other).", "",
      "Sometimes this can be computed faster than the pair of", "operations."],
    defined "__rfloordiv__" "(self, other)" ["other // self: The floor() of other/self."],
    defined "__rmod__" "(self, other)" ["other % self"],
    defined "__round__" "(self, ndigits=None)" [
      "Rounds self to ndigits decimal places, defaulting to 0.", "",
      "If ndigits is omitted or None, returns an Integral, otherwise",
      "returns a Real. Rounds half toward even."],
    value "__slots__" "tuple",
    defined "__trunc__" "(self)" [
      "trunc(self): Truncates self to an Integral.", "", "Returns an Integral i such that:",
      "  * i>0 iff self>0;", "  * abs(i) <= abs(self);",
      "  * for any Integral j satisfying the first two conditions,",
      "    abs(i) >= abs(j) [i.e. i has \"maximal\" abs among those].",
      "i.e. \"truncate towards 0\"."],
    value "_abc_impl" "_abc._abc_data",
    defined "conjugate" "(self)" ["Conjugate is a no-op for Reals."],
    computed "imag",
    computed "real"]

/-- The class `numbers.Rational`. -/
def rationalKindClass : ClassTable where
  name := "numbers.Rational"
  ancestors := ["numbers.Real", "numbers.Complex", "numbers.Number", "object"]
  metaclass := "ABCMeta"
  signature := "()"
  documentation := [".numerator and .denominator should be in lowest terms."]
  members := [
    value "__abstractmethods__" "frozenset",
    value "__doc__" "str",
    defined "__float__" "(self)" [
      "float(self) = self.numerator / self.denominator", "",
      "It's important that this conversion use the integer's \"true\"",
      "division rather than casting one side to float before dividing",
      "so that ratios of huge integers convert without overflowing."],
    value "__module__" "str",
    value "__slots__" "tuple",
    value "_abc_impl" "_abc._abc_data",
    computed "denominator",
    computed "numerator"]

/-- The class `numbers.Integral`. -/
def integralKindClass : ClassTable where
  name := "numbers.Integral"
  ancestors := [
    "numbers.Rational", "numbers.Real", "numbers.Complex", "numbers.Number", "object"]
  metaclass := "ABCMeta"
  signature := "()"
  documentation := [
    "Integral adds methods that work on integral numbers.", "",
    "In short, these are conversion to int, pow with modulus, and the", "bit-string operations."]
  members := [
    value "__abstractmethods__" "frozenset",
    defined "__and__" "(self, other)" ["self & other"],
    value "__doc__" "str",
    defined "__float__" "(self)" ["float(self) == float(int(self))"],
    defined "__index__" "(self)" ["Called whenever an index is needed, such as in slicing"],
    defined "__int__" "(self)" ["int(self)"],
    defined "__invert__" "(self)" ["~self"],
    defined "__lshift__" "(self, other)" ["self << other"],
    value "__module__" "str",
    defined "__or__" "(self, other)" ["self | other"],
    defined "__pow__" "(self, exponent, modulus=None)" [
      "self ** exponent % modulus, but maybe faster.", "",
      "Accept the modulus argument if you want to support the",
      "3-argument version of pow(). Raise a TypeError if exponent < 0",
      "or any argument isn't Integral. Otherwise, just implement the",
      "2-argument version described in Complex."],
    defined "__rand__" "(self, other)" ["other & self"],
    defined "__rlshift__" "(self, other)" ["other << self"],
    defined "__ror__" "(self, other)" ["other | self"],
    defined "__rrshift__" "(self, other)" ["other >> self"],
    defined "__rshift__" "(self, other)" ["self >> other"],
    defined "__rxor__" "(self, other)" ["other ^ self"],
    value "__slots__" "tuple",
    defined "__xor__" "(self, other)" ["self ^ other"],
    value "_abc_impl" "_abc._abc_data",
    computed "denominator",
    computed "numerator"]

/-- The class `fractions.Fraction`. -/
def fractionClass : ClassTable where
  name := "fractions.Fraction"
  ancestors := [
    "numbers.Rational", "numbers.Real", "numbers.Complex", "numbers.Number", "object"]
  metaclass := "ABCMeta"
  signature := "(numerator=0, denominator=None, *, _normalize=True)"
  documentation := [
    "This class implements rational numbers.", "",
    "In the two-argument form of the constructor, Fraction(8, 6) will",
    "produce a rational number equivalent to 4/3. Both arguments must",
    "be Rational. The numerator defaults to 0 and the denominator",
    "defaults to 1 so that Fraction(3) == 3 and Fraction() == 0.", "",
    "Fractions can also be constructed from:", "",
    "  - numeric strings similar to those accepted by the",
    "    float constructor (for example, '-2.3' or '1e10')", "",
    "  - strings of the form '123/456'", "", "  - float and Decimal instances", "",
    "  - other Rational instances (including integers)"]
  members := [
    defined "__abs__" "(a)" ["abs(a)"],
    value "__abstractmethods__" "frozenset",
    defined "__add__" "(a, b)" ["a + b"],
    defined "__bool__" "(a)" ["a != 0"],
    defined "__ceil__" "(a)" ["math.ceil(a)"],
    defined "__copy__" "(self)" [],
    defined "__deepcopy__" "(self, memo)" [],
    defined "__divmod__" "(a, b)" ["(a // b, a % b)"],
    value "__doc__" "str",
    defined "__eq__" "(a, b)" ["a == b"],
    defined "__floor__" "(a)" ["math.floor(a)"],
    defined "__floordiv__" "(a, b)" ["a // b"],
    defined "__ge__" "(a, b)" ["a >= b"],
    defined "__gt__" "(a, b)" ["a > b"],
    defined "__hash__" "(self)" ["hash(self)"],
    defined "__int__" "(a, _index=<built-in function index>)" ["int(a)"],
    defined "__le__" "(a, b)" ["a <= b"],
    defined "__lt__" "(a, b)" ["a < b"],
    defined "__mod__" "(a, b)" ["a % b"],
    value "__module__" "str",
    defined "__mul__" "(a, b)" ["a * b"],
    defined "__neg__" "(a)" ["-a"],
    staticMethod "__new__" "(cls, numerator=0, denominator=None, *, _normalize=True)" [
      "Constructs a Rational.", "",
      "Takes a string like '3/2' or '1.5', another Rational instance, a",
      "numerator/denominator pair, or a float.", "", "Examples", "--------", "",
      ">>> Fraction(10, -8)", "Fraction(-5, 4)", ">>> Fraction(Fraction(1, 7), 5)",
      "Fraction(1, 35)", ">>> Fraction(Fraction(1, 7), Fraction(2, 3))", "Fraction(3, 14)",
      ">>> Fraction('314')", "Fraction(314, 1)", ">>> Fraction('-35/4')", "Fraction(-35, 4)",
      ">>> Fraction('3.1415') # conversion from numeric string", "Fraction(6283, 2000)",
      ">>> Fraction('-47e-2') # string may include a decimal exponent", "Fraction(-47, 100)",
      ">>> Fraction(1.47)  # direct construction from float (exact conversion)",
      "Fraction(6620291452234629, 4503599627370496)", ">>> Fraction(2.25)", "Fraction(9, 4)",
      ">>> Fraction(Decimal('1.47'))", "Fraction(147, 100)"],
    defined "__pos__" "(a)" ["+a: Coerces a subclass instance to Fraction"],
    defined "__pow__" "(a, b)" [
      "a ** b", "", "If b is not an integer, the result will be a float or complex",
      "since roots are generally irrational. If b is an integer, the", "result will be rational."],
    defined "__radd__" "(b, a)" ["a + b"],
    defined "__rdivmod__" "(b, a)" ["(a // b, a % b)"],
    defined "__reduce__" "(self)" ["Helper for pickle."],
    defined "__repr__" "(self)" ["repr(self)"],
    defined "__rfloordiv__" "(b, a)" ["a // b"],
    defined "__rmod__" "(b, a)" ["a % b"],
    defined "__rmul__" "(b, a)" ["a * b"],
    defined "__round__" "(self, ndigits=None)" [
      "round(self, ndigits)", "", "Rounds half toward even."],
    defined "__rpow__" "(b, a)" ["a ** b"],
    defined "__rsub__" "(b, a)" ["a - b"],
    defined "__rtruediv__" "(b, a)" ["a / b"],
    value "__slots__" "tuple",
    defined "__str__" "(self)" ["str(self)"],
    defined "__sub__" "(a, b)" ["a - b"],
    defined "__truediv__" "(a, b)" ["a / b"],
    defined "__trunc__" "(a)" ["math.trunc(a)"],
    value "_abc_impl" "_abc._abc_data",
    defined "_add" "(a, b)" ["a + b"],
    field "_denominator",
    defined "_div" "(a, b)" ["a / b"],
    defined "_divmod" "(a, b)" ["(a // b, a % b)"],
    defined "_floordiv" "(a, b)" ["a // b"],
    defined "_mod" "(a, b)" ["a % b"],
    defined "_mul" "(a, b)" ["a * b"],
    field "_numerator",
    defined "_operator_fallbacks" "(monomorphic_operator, fallback_operator)" [
      "Generates forward and reverse operators given a purely-rational",
      "operator and a function from the operator module.", "", "Use this like:",
      "__op__, __rop__ = _operator_fallbacks(just_rational_op, operator.op)", "",
      "In general, we want to implement the arithmetic operations so",
      "that mixed-mode operations either call an implementation whose",
      "author knew about the types of both arguments, or convert both",
      "to the nearest built in type and do the operation there. In",
      "Fraction, that means that we define __add__ and __radd__ as:", "",
      "    def __add__(self, other):",
      "        # Both types have numerators/denominator attributes,",
      "        # so do the operation directly", "        if isinstance(other, (int, Fraction)):",
      "            return Fraction(self.numerator * other.denominator +",
      "                            other.numerator * self.denominator,",
      "                            self.denominator * other.denominator)",
      "        # float and complex don't have those operations, but we",
      "        # know about those types, so special case them.",
      "        elif isinstance(other, float):", "            return float(self) + other",
      "        elif isinstance(other, complex):", "            return complex(self) + other",
      "        # Let the other type take over.", "        return NotImplemented", "",
      "    def __radd__(self, other):",
      "        # radd handles more types than add because there's",
      "        # nothing left to fall back to.", "        if isinstance(other, numbers.Rational):",
      "            return Fraction(self.numerator * other.denominator +",
      "                            other.numerator * self.denominator,",
      "                            self.denominator * other.denominator)",
      "        elif isinstance(other, Real):", "            return float(other) + float(self)",
      "        elif isinstance(other, Complex):",
      "            return complex(other) + complex(self)", "        return NotImplemented", "", "",
      "There are 5 different cases for a mixed-type addition on",
      "Fraction. I'll refer to all of the above code that doesn't",
      "refer to Fraction, float, or complex as \"boilerplate\". 'r'",
      "will be an instance of Fraction, which is a subtype of",
      "Rational (r : Fraction <: Rational), and b : B <:",
      "Complex. The first three involve 'r + b':", "",
      "    1. If B <: Fraction, int, float, or complex, we handle",
      "       that specially, and all is well.",
      "    2. If Fraction falls back to the boilerplate code, and it",
      "       were to return a value from __add__, we'd miss the",
      "       possibility that B defines a more intelligent __radd__,",
      "       so the boilerplate should return NotImplemented from",
      "       __add__. In particular, we don't handle Rational",
      "       here, even though we could get an exact answer, in case",
      "       the other type wants to do something special.",
      "    3. If B <: Fraction, Python tries B.__radd__ before",
      "       Fraction.__add__. This is ok, because it was",
      "       implemented with knowledge of Fraction, so it can",
      "       handle those instances before delegating to Real or", "       Complex.", "",
      "The next two situations describe 'b + r'. We assume that b",
      "didn't know about Fraction in its implementation, and that it",
      "uses similar boilerplate code:", "",
      "    4. If B <: Rational, then __radd_ converts both to the",
      "       builtin rational type (hey look, that's us) and", "       proceeds.",
      "    5. Otherwise, __radd__ tries to find the nearest common",
      "       base ABC, and fall back to its builtin type. Since this",
      "       class doesn't subclass a concrete type, there's no",
      "       implementation to fall back to, so we need to try as",
      "       hard as possible to return an actual value, or the user",
      "       will get a TypeError."],
    defined "_richcmp" "(self, other, op)" [
      "Helper for comparison operators, for internal use only.", "",
      "Implement comparison between a Rational instance `self`, and",
      "either another Rational instance or a float `other`.  If",
      "`other` is not a Rational instance or a float, return",
      "NotImplemented. `op` should be one of the six standard", "comparison operators."],
    defined "_sub" "(a, b)" ["a - b"],
    defined "as_integer_ratio" "(self)" [
      "Return the integer ratio as a tuple.", "",
      "Return a tuple of two integers, whose ratio is equal to the",
      "Fraction and with a positive denominator."],
    computed "denominator",
    classMethodOf "from_decimal" "(cls, dec)" [
      "Converts a finite Decimal instance to a rational number, exactly."],
    classMethodOf "from_float" "(cls, f)" [
      "Converts a finite float to a rational number, exactly.", "",
      "Beware that Fraction.from_float(0.3) != Fraction(3, 10)."],
    defined "limit_denominator" "(self, max_denominator=1000000)" [
      "Closest Fraction to self with denominator at most max_denominator.", "",
      ">>> Fraction('3.141592653589793').limit_denominator(10)", "Fraction(22, 7)",
      ">>> Fraction('3.141592653589793').limit_denominator(100)", "Fraction(311, 99)",
      ">>> Fraction(4321, 8765).limit_denominator(10000)", "Fraction(4321, 8765)"],
    computed "numerator"]

/-- The class `decimal.Decimal`. -/
def decimalClass : ClassTable where
  name := "decimal.Decimal"
  signature := "(value='0', context=None)"
  documentation := [
    "Construct a new Decimal object. 'value' can be an integer, string, tuple,",
    "or another Decimal object. If no value is given, return Decimal('0'). The",
    "context does not affect the conversion and is only passed to determine if",
    "the InvalidOperation trap is active."]
  members := operators [
    "__abs__", "__add__", "__bool__", "__divmod__", "__eq__", "__float__", "__floordiv__",
    "__ge__", "__getattribute__", "__gt__", "__hash__", "__int__", "__le__", "__lt__", "__mod__",
    "__mul__", "__ne__", "__neg__", "__new__", "__pos__", "__pow__", "__radd__", "__rdivmod__",
    "__repr__", "__rfloordiv__", "__rmod__", "__rmul__", "__rpow__", "__rsub__", "__rtruediv__",
    "__str__", "__sub__", "__truediv__"] ++ [
    method "__ceil__" none [],
    method "__complex__" none [],
    method "__copy__" none [],
    method "__deepcopy__" none [],
    value "__doc__" "str",
    method "__floor__" none [],
    method "__format__" none ["Default object formatter."],
    method "__reduce__" none ["Helper for pickle."],
    method "__round__" none [],
    method "__sizeof__" none ["Size of object in memory, in bytes."],
    method "__trunc__" none [],
    method "adjusted" "(self, /)" [
      "Return the adjusted exponent of the number.  Defined as exp + digits - 1."],
    method "as_integer_ratio" "(self, /)" [
      "Decimal.as_integer_ratio() -> (int, int)", "",
      "Return a pair of integers, whose ratio is exactly equal to the original",
      "Decimal and with a positive denominator. The ratio is in lowest terms.",
      "Raise OverflowError on infinities and a ValueError on NaNs."],
    method "as_tuple" "(self, /)" ["Return a tuple representation of the number."],
    method "canonical" "(self, /)" [
      "Return the canonical encoding of the argument.  Currently, the encoding",
      "of a Decimal instance is always canonical, so this operation returns its",
      "argument unchanged."],
    method "compare" "(self, /, other, context=None)" [
      "Compare self to other.  Return a decimal value:", "", "a or b is a NaN ==> Decimal('NaN')",
      "a < b           ==> Decimal('-1')", "a == b          ==> Decimal('0')",
      "a > b           ==> Decimal('1')"],
    method "compare_signal" "(self, /, other, context=None)" [
      "Identical to compare, except that all NaNs signal."],
    method "compare_total" "(self, /, other, context=None)" [
      "Compare two operands using their abstract representation rather than",
      "their numerical value.  Similar to the compare() method, but the result",
      "gives a total ordering on Decimal instances.  Two Decimal instances with",
      "the same numeric value but different representations compare unequal", "in this ordering:",
      "", "    >>> Decimal('12.0').compare_total(Decimal('12'))", "    Decimal('-1')", "",
      "Quiet and signaling NaNs are also included in the total ordering. The result",
      "of this function is Decimal('0') if both operands have the same representation,",
      "Decimal('-1') if the first operand is lower in the total order than the second,",
      "and Decimal('1') if the first operand is higher in the total order than the",
      "second operand. See the specification for details of the total order.", "",
      "This operation is unaffected by context and is quiet: no flags are changed",
      "and no rounding is performed. As an exception, the C version may raise",
      "InvalidOperation if the second operand cannot be converted exactly."],
    method "compare_total_mag" "(self, /, other, context=None)" [
      "Compare two operands using their abstract representation rather than their",
      "value as in compare_total(), but ignoring the sign of each operand.", "",
      "x.compare_total_mag(y) is equivalent to x.copy_abs().compare_total(y.copy_abs()).", "",
      "This operation is unaffected by context and is quiet: no flags are changed",
      "and no rounding is performed. As an exception, the C version may raise",
      "InvalidOperation if the second operand cannot be converted exactly."],
    method "conjugate" "(self, /)" ["Return self."],
    method "copy_abs" "(self, /)" [
      "Return the absolute value of the argument.  This operation is unaffected by",
      "context and is quiet: no flags are changed and no rounding is performed."],
    method "copy_negate" "(self, /)" [
      "Return the negation of the argument.  This operation is unaffected by context",
      "and is quiet: no flags are changed and no rounding is performed."],
    method "copy_sign" "(self, /, other, context=None)" [
      "Return a copy of the first operand with the sign set to be the same as the",
      "sign of the second operand. For example:", "",
      "    >>> Decimal('2.3').copy_sign(Decimal('-1.5'))", "    Decimal('-2.3')", "",
      "This operation is unaffected by context and is quiet: no flags are changed",
      "and no rounding is performed. As an exception, the C version may raise",
      "InvalidOperation if the second operand cannot be converted exactly."],
    method "exp" "(self, /, context=None)" [
      "Return the value of the (natural) exponential function e**x at the given",
      "number.  The function always uses the ROUND_HALF_EVEN mode and the result",
      "is correctly rounded."],
    method "fma" "(self, /, other, third, context=None)" [
      "Fused multiply-add.  Return self*other+third with no rounding of the",
      "intermediate product self*other.", "", "    >>> Decimal(2).fma(3, 5)", "    Decimal('11')"],
    classMethod "from_float" "(type, f, /)" [
      "Class method that converts a float to a decimal number, exactly.",
      "Since 0.1 is not exactly representable in binary floating point,",
      "Decimal.from_float(0.1) is not the same as Decimal('0.1').", "",
      "    >>> Decimal.from_float(0.1)",
      "    Decimal('0.1000000000000000055511151231257827021181583404541015625')",
      "    >>> Decimal.from_float(float('nan'))", "    Decimal('NaN')",
      "    >>> Decimal.from_float(float('inf'))", "    Decimal('Infinity')",
      "    >>> Decimal.from_float(float('-inf'))", "    Decimal('-Infinity')"],
    accessor "imag",
    method "is_canonical" "(self, /)" [
      "Return True if the argument is canonical and False otherwise.  Currently,",
      "a Decimal instance is always canonical, so this operation always returns", "True."],
    method "is_finite" "(self, /)" [
      "Return True if the argument is a finite number, and False if the argument",
      "is infinite or a NaN."],
    method "is_infinite" "(self, /)" [
      "Return True if the argument is either positive or negative infinity and",
      "False otherwise."],
    method "is_nan" "(self, /)" [
      "Return True if the argument is a (quiet or signaling) NaN and False", "otherwise."],
    method "is_normal" "(self, /, context=None)" [
      "Return True if the argument is a normal finite non-zero number with an",
      "adjusted exponent greater than or equal to Emin. Return False if the",
      "argument is zero, subnormal, infinite or a NaN."],
    method "is_qnan" "(self, /)" [
      "Return True if the argument is a quiet NaN, and False otherwise."],
    method "is_signed" "(self, /)" [
      "Return True if the argument has a negative sign and False otherwise.",
      "Note that both zeros and NaNs can carry signs."],
    method "is_snan" "(self, /)" [
      "Return True if the argument is a signaling NaN and False otherwise."],
    method "is_subnormal" "(self, /, context=None)" [
      "Return True if the argument is subnormal, and False otherwise. A number is",
      "subnormal if it is non-zero, finite, and has an adjusted exponent less", "than Emin."],
    method "is_zero" "(self, /)" [
      "Return True if the argument is a (positive or negative) zero and False", "otherwise."],
    method "ln" "(self, /, context=None)" [
      "Return the natural (base e) logarithm of the operand. The function always",
      "uses the ROUND_HALF_EVEN mode and the result is correctly rounded."],
    method "log10" "(self, /, context=None)" [
      "Return the base ten logarithm of the operand. The function always uses the",
      "ROUND_HALF_EVEN mode and the result is correctly rounded."],
    method "logb" "(self, /, context=None)" [
      "For a non-zero number, return the adjusted exponent of the operand as a",
      "Decimal instance.  If the operand is a zero, then Decimal('-Infinity') is",
      "returned and the DivisionByZero condition is raised. If the operand is",
      "an infinity then Decimal('Infinity') is returned."],
    method "logical_and" "(self, /, other, context=None)" [
      "Return the digit-wise 'and' of the two (logical) operands."],
    method "logical_invert" "(self, /, context=None)" [
      "Return the digit-wise inversion of the (logical) operand."],
    method "logical_or" "(self, /, other, context=None)" [
      "Return the digit-wise 'or' of the two (logical) operands."],
    method "logical_xor" "(self, /, other, context=None)" [
      "Return the digit-wise 'exclusive or' of the two (logical) operands."],
    method "max" "(self, /, other, context=None)" [
      "Maximum of self and other.  If one operand is a quiet NaN and the other is",
      "numeric, the numeric operand is returned."],
    method "max_mag" "(self, /, other, context=None)" [
      "Similar to the max() method, but the comparison is done using the absolute",
      "values of the operands."],
    method "min" "(self, /, other, context=None)" [
      "Minimum of self and other. If one operand is a quiet NaN and the other is",
      "numeric, the numeric operand is returned."],
    method "min_mag" "(self, /, other, context=None)" [
      "Similar to the min() method, but the comparison is done using the absolute",
      "values of the operands."],
    method "next_minus" "(self, /, context=None)" [
      "Return the largest number representable in the given context (or in the",
      "current default context if no context is given) that is smaller than the", "given operand."],
    method "next_plus" "(self, /, context=None)" [
      "Return the smallest number representable in the given context (or in the",
      "current default context if no context is given) that is larger than the", "given operand."],
    method "next_toward" "(self, /, other, context=None)" [
      "If the two operands are unequal, return the number closest to the first",
      "operand in the direction of the second operand.  If both operands are",
      "numerically equal, return a copy of the first operand with the sign set",
      "to be the same as the sign of the second operand."],
    method "normalize" "(self, /, context=None)" [
      "Normalize the number by stripping the rightmost trailing zeros and",
      "converting any result equal to Decimal('0') to Decimal('0e0').  Used",
      "for producing canonical values for members of an equivalence class.",
      "For example, Decimal('32.100') and Decimal('0.321000e+2') both normalize",
      "to the equivalent value Decimal('32.1')."],
    method "number_class" "(self, /, context=None)" [
      "Return a string describing the class of the operand.  The returned value",
      "is one of the following ten strings:", "",
      "    * '-Infinity', indicating that the operand is negative infinity.",
      "    * '-Normal', indicating that the operand is a negative normal number.",
      "    * '-Subnormal', indicating that the operand is negative and subnormal.",
      "    * '-Zero', indicating that the operand is a negative zero.",
      "    * '+Zero', indicating that the operand is a positive zero.",
      "    * '+Subnormal', indicating that the operand is positive and subnormal.",
      "    * '+Normal', indicating that the operand is a positive normal number.",
      "    * '+Infinity', indicating that the operand is positive infinity.",
      "    * 'NaN', indicating that the operand is a quiet NaN (Not a Number).",
      "    * 'sNaN', indicating that the operand is a signaling NaN."],
    method "quantize" "(self, /, exp, rounding=None, context=None)" [
      "Return a value equal to the first operand after rounding and having the",
      "exponent of the second operand.", "",
      "    >>> Decimal('1.41421356').quantize(Decimal('1.000'))", "    Decimal('1.414')", "",
      "Unlike other operations, if the length of the coefficient after the quantize",
      "operation would be greater than precision, then an InvalidOperation is signaled.",
      "This guarantees that, unless there is an error condition, the quantized exponent",
      "is always equal to that of the right-hand operand.", "",
      "Also unlike other operations, quantize never signals Underflow, even if the",
      "result is subnormal and inexact.", "",
      "If the exponent of the second operand is larger than that of the first, then",
      "rounding may be necessary. In this case, the rounding mode is determined by the",
      "rounding argument if given, else by the given context argument; if neither",
      "argument is given, the rounding mode of the current thread's context is used."],
    method "radix" "(self, /)" [
      "Return Decimal(10), the radix (base) in which the Decimal class does",
      "all its arithmetic. Included for compatibility with the specification."],
    accessor "real",
    method "remainder_near" "(self, /, other, context=None)" [
      "Return the remainder from dividing self by other.  This differs from",
      "self % other in that the sign of the remainder is chosen so as to minimize",
      "its absolute value. More precisely, the return value is self - n * other",
      "where n is the integer nearest to the exact value of self / other, and",
      "if two integers are equally near then the even one is chosen.", "",
      "If the result is zero then its sign will be the sign of self."],
    method "rotate" "(self, /, other, context=None)" [
      "Return the result of rotating the digits of the first operand by an amount",
      "specified by the second operand.  The second operand must be an integer in",
      "the range -precision through precision. The absolute value of the second",
      "operand gives the number of places to rotate. If the second operand is",
      "positive then rotation is to the left; otherwise rotation is to the right.",
      "The coefficient of the first operand is padded on the left with zeros to",
      "length precision if necessary. The sign and exponent of the first operand are",
      "unchanged."],
    method "same_quantum" "(self, /, other, context=None)" [
      "Test whether self and other have the same exponent or whether both are NaN.", "",
      "This operation is unaffected by context and is quiet: no flags are changed",
      "and no rounding is performed. As an exception, the C version may raise",
      "InvalidOperation if the second operand cannot be converted exactly."],
    method "scaleb" "(self, /, other, context=None)" [
      "Return the first operand with the exponent adjusted the second.  Equivalently,",
      "return the first operand multiplied by 10**other. The second operand must be",
      "an integer."],
    method "shift" "(self, /, other, context=None)" [
      "Return the result of shifting the digits of the first operand by an amount",
      "specified by the second operand.  The second operand must be an integer in",
      "the range -precision through precision. The absolute value of the second",
      "operand gives the number of places to shift. If the second operand is",
      "positive, then the shift is to the left; otherwise the shift is to the",
      "right. Digits shifted into the coefficient are zeros. The sign and exponent",
      "of the first operand are unchanged."],
    method "sqrt" "(self, /, context=None)" [
      "Return the square root of the argument to full precision. The result is",
      "correctly rounded using the ROUND_HALF_EVEN rounding mode."],
    method "to_eng_string" "(self, /, context=None)" [
      "Convert to an engineering-type string.  Engineering notation has an exponent",
      "which is a multiple of 3, so there are up to 3 digits left of the decimal",
      "place. For example, Decimal('123E+1') is converted to Decimal('1.23E+3').", "",
      "The value of context.capitals determines whether the exponent sign is lower",
      "or upper case. Otherwise, the context does not affect the operation."],
    method "to_integral" "(self, /, rounding=None, context=None)" [
      "Identical to the to_integral_value() method.  The to_integral() name has been",
      "kept for compatibility with older versions."],
    method "to_integral_exact" "(self, /, rounding=None, context=None)" [
      "Round to the nearest integer, signaling Inexact or Rounded as appropriate if",
      "rounding occurs.  The rounding mode is determined by the rounding parameter",
      "if given, else by the given context. If neither parameter is given, then the",
      "rounding mode of the current default context is used."],
    method "to_integral_value" "(self, /, rounding=None, context=None)" [
      "Round to the nearest integer without signaling Inexact or Rounded.  The",
      "rounding mode is determined by the rounding parameter if given, else by",
      "the given context. If neither parameter is given, then the rounding mode",
      "of the current default context is used."],
    value "__module__" "str"]

/-- The class `ABCMeta`. -/
def abcMetaClass : ClassTable where
  name := "ABCMeta"
  ancestors := ["type", "object"]
  documentation := [
    "Metaclass for defining Abstract Base Classes (ABCs).", "",
    "Use this metaclass to create an ABC.  An ABC can be subclassed",
    "directly, and then acts as a mix-in class.  You can also register",
    "unrelated concrete classes (even built-in classes) and unrelated",
    "ABCs as 'virtual subclasses' -- these and their descendants will",
    "be considered subclasses of the registering ABC by the built-in",
    "issubclass() function, but the registering ABC won't show up in",
    "their MRO (Method Resolution Order) nor will method",
    "implementations defined by the registering ABC be callable (not", "even via super())."]
  members := [
    value "__doc__" "str",
    defined "__instancecheck__" "(cls, instance)" ["Override for isinstance(instance, cls)."],
    value "__module__" "str",
    staticMethod "__new__" "(mcls, name, bases, namespace, /, **kwargs)" [
      "Create and return a new object.  See help(type) for accurate signature."],
    defined "__subclasscheck__" "(cls, subclass)" ["Override for issubclass(subclass, cls)."],
    defined "_abc_caches_clear" "(cls)" ["Clear the caches (for debugging or testing)."],
    defined "_abc_registry_clear" "(cls)" ["Clear the registry (for debugging or testing)."],
    defined "_dump_registry" "(cls, file=None)" ["Debug helper to print the ABC registry."],
    defined "register" "(cls, subclass)" [
      "Register a virtual subclass of an ABC.", "",
      "Returns the subclass, to allow usage as a class decorator."]]

/-- The modules of numbers. -/
def fractionModules : List ModuleTable := [numbersModule, fractionsModule]

/-- The classes of the modules of numbers. -/
def fractionClasses : List ClassTable := [
  numberKindClass, complexKindClass, realKindClass, rationalKindClass, integralKindClass,
  fractionClass, decimalClass, abcMetaClass]

end Playground.Reference
