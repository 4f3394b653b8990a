/-!
White space at the ends of a text. The class is Unicode's `White_Space` property, which is wider
than ASCII blanks: it holds the no-break space and the ideographic space too.
-/
namespace Wirelog.Text

/-- Unicode's `White_Space` property. -/
def isBlank (c : Char) : Bool :=
  let n := c.toNat
  (9 ≤ n && n ≤ 13) || n == 0x20 || n == 0x85 || n == 0xA0 || n == 0x1680 ||
    (0x2000 ≤ n && n ≤ 0x200A) || n == 0x2028 || n == 0x2029 || n == 0x202F || n == 0x205F ||
    n == 0x3000

/-- Drops the leading characters of a class. -/
def dropLead (p : Char → Bool) (s : List Char) : List Char :=
  s.dropWhile p

/-- Drops the trailing characters of a class. -/
def dropTail (p : Char → Bool) (s : List Char) : List Char :=
  (s.reverse.dropWhile p).reverse

/-- The characters without the blanks around them. -/
def trimList (s : List Char) : List Char :=
  dropTail isBlank (dropLead isBlank s)

/-- The text without the blanks around it. -/
def trim (s : String) : String :=
  String.ofList (trimList s.toList)

end Wirelog.Text
