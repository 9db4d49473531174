/-! # Tokens of a selector

Comments leave no token. Of the tokens that no selector can hold only those are told apart that end
a text too early.
-/
namespace PageExtract.Css

inductive Token where
  | ident (name : String)
  | function (name : String)
  /-- The flag tells whether the name could stand as an identifier. -/
  | hash (named : Bool) (name : String)
  | text (value : String)
  /-- The value of an integer, and nothing for any other number. -/
  | number (signed : Bool) (value : Option Int)
  | dimension (value : Option Int) (unit : String)
  | delim (c : Char)
  /-- A character followed by `=`, such as `~=`. -/
  | comparison (c : Char)
  | space
  | colon
  | comma
  | opening (c : Char)
  | closing (c : Char)
  /-- A text or address that is broken off. -/
  | broken
  | other
  deriving DecidableEq

def isNewline (c : Char) : Bool := c == '\n' || c == '\r' || c == '\x0c'

def isSpace (c : Char) : Bool := isNewline c || c == ' ' || c == '\t'

def startsName (c : Char) : Bool := c.isAlpha || c == '_' || c == '\x00' || 0x80 ≤ c.toNat

def isNameChar (c : Char) : Bool := startsName c || c.isDigit || c == '-'

end PageExtract.Css
