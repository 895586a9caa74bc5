/-!
# White space

Separators of words: the characters that the Unicode character database calls white space, and the
four information separators, which its bidirectional classes treat as separators too.
-/

namespace Playground.Text

/-- White space of any kind. -/
def isBlank (c : Char) : Bool :=
  let n := c.toNat
  (9 ≤ n && n ≤ 13) || (28 ≤ n && n ≤ 32) || n == 0x85 || n == 0xA0 || n == 0x1680 ||
    (0x2000 ≤ n && n ≤ 0x200A) || n == 0x2028 || n == 0x2029 || n == 0x202F || n == 0x205F ||
    n == 0x3000

/-- White space around a numeral: the characters with the white space property. The information
separators are not among them. -/
def isSpace (c : Char) : Bool :=
  isBlank c && !(28 ≤ c.toNat && c.toNat ≤ 31)

/-- A text without the white space around it. -/
def trim (s : List Char) : List Char :=
  (s.dropWhile isBlank).reverse.dropWhile isBlank |>.reverse

/-- A numeral without the white space around it. -/
def trimSpace (s : List Char) : List Char :=
  (s.dropWhile isSpace).reverse.dropWhile isSpace |>.reverse

/-- The words of a text: its longest runs without white space. -/
def words (s : List Char) : List (List Char) :=
  (s.splitBy fun a b => isBlank a == isBlank b).filter fun run => run.any (!isBlank ·)

end Playground.Text
