/-! # Blank characters

Blanks are the characters with Unicode's `White_Space` property. `trim` cuts them off both ends of a
text, and `trim?` treats a text of blanks as no text at all.
-/
namespace PageExtract.Text

/-- Unicode's `White_Space` property. -/
def isBlank (c : Char) : Bool :=
  let n := c.toNat
  (0x9 ≤ n && n ≤ 0xD) || n == 0x20 || n == 0x85 || n == 0xA0 || n == 0x1680 ||
    (0x2000 ≤ n && n ≤ 0x200A) || n == 0x2028 || n == 0x2029 || n == 0x202F || n == 0x205F ||
    n == 0x3000

def trimChars (cs : List Char) : List Char :=
  ((cs.dropWhile isBlank).reverse.dropWhile isBlank).reverse

def trim (s : String) : String := String.ofList (trimChars s.toList)

def isBlankText (s : String) : Bool := s.toList.all isBlank

/-- The trimmed text, or nothing if no character is left. -/
def trim? (s : String) : Option String :=
  if isBlankText s then none else some (trim s)

end PageExtract.Text
