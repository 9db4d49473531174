import PageExtract.Html.References
import PageExtract.Html.Token

/-! # Character references

A text is made of pieces: its references, and the characters between them. A name is read as far as
the longest entry reaches. In an attribute value a name without a semicolon stays as it is before
`=`, a letter or a digit. `decode` gives the characters that the pieces stand for, and `textTokens`
their tokens.
-/
namespace PageExtract.Html

def highControls : List (Nat × Nat) :=
  [(0x80, 0x20AC), (0x82, 0x201A), (0x83, 0x0192), (0x84, 0x201E), (0x85, 0x2026), (0x86, 0x2020),
   (0x87, 0x2021), (0x88, 0x02C6), (0x89, 0x2030), (0x8A, 0x0160), (0x8B, 0x2039), (0x8C, 0x0152),
   (0x8E, 0x017D), (0x91, 0x2018), (0x92, 0x2019), (0x93, 0x201C), (0x94, 0x201D), (0x95, 0x2022),
   (0x96, 0x2013), (0x97, 0x2014), (0x98, 0x02DC), (0x99, 0x2122), (0x9A, 0x0161), (0x9B, 0x203A),
   (0x9C, 0x0153), (0x9E, 0x017E), (0x9F, 0x0178)]

def numbered (n : Nat) : Char := Text.charOf ((highControls.lookup n).getD n)

structure Reading where
  text : List Char
  /-- How many characters were read for it. -/
  length : Nat
  /-- Whether a semicolon ends it. -/
  closed : Bool
  deriving DecidableEq

/-- A numeric reference from behind `offset` characters, its digits in the given base. -/
def readNumber (offset base : Nat) (isDigit : Char → Bool) (cs : List Char) : Option Reading :=
  let digits := cs.takeWhile isDigit
  if digits.isEmpty then none
  else
    let closed : Bool := (cs.drop digits.length).head? = some ';'
    some ⟨[numbered (Text.numberOf base digits)], offset + digits.length + closed.toNat, closed⟩

def readNumeric : List Char → Option Reading
  | 'x' :: cs => readNumber 2 16 Text.isHexDigit cs
  | 'X' :: cs => readNumber 2 16 Text.isHexDigit cs
  | cs => readNumber 1 10 Char.isDigit cs

def Reference.read (r : Reference) (cs : List Char) : Option Reading :=
  if r.name.isPrefixOf cs then
    if (cs.drop r.name.length).head? = some ';' then some ⟨r.text, r.name.length + 1, true⟩
    else if r.bare then some ⟨r.text, r.name.length, false⟩
    else none
  else none

def longer (best : Option Reading) (next : Option Reading) : Option Reading :=
  match best, next with
  | none, next => next
  | best, none => best
  | some b, some n => if b.length < n.length then some n else some b

def readNamed (inAttribute : Bool) (cs : List Char) : Option Reading :=
  match references.foldl (fun best r => longer best (r.read cs)) none with
  | none => none
  | some r =>
    match (cs.drop r.length).head? with
    | some c => if inAttribute ∧ ¬ r.closed ∧ (c = '=' ∨ c.isAlphanum) then none else some r
    | none => some r

def readReference (inAttribute : Bool) : List Char → Option Reading
  | '#' :: cs => readNumeric cs
  | c :: cs => if c.isAlpha then readNamed inAttribute (c :: cs) else none
  | [] => none

inductive Piece where
  | char (c : Char)
  | reference (r : Reading)
  deriving DecidableEq

def pieces (inAttribute : Bool) (cs : List Char) : List Piece :=
  match cs with
  | [] => []
  | '&' :: rest =>
    match readReference inAttribute rest with
    | some r => .reference r :: pieces inAttribute (rest.drop r.length)
    | none => .char '&' :: pieces inAttribute rest
  | c :: rest => .char c :: pieces inAttribute rest
termination_by cs.length
decreasing_by
  all_goals simp only [List.length_drop, List.length_cons]; omega

namespace Piece

def text : Piece → List Char
  | char c => [c]
  | reference r => r.text

/-- A missing semicolon leaves a gap. -/
def tokens : Piece → List Token
  | char c => [.char c]
  | reference r => if r.closed then chars r.text else .gap :: chars r.text

end Piece

def decode (inAttribute : Bool) (cs : List Char) : List Char :=
  (pieces inAttribute cs).flatMap Piece.text

def textTokens (cs : List Char) : List Token := (pieces false cs).flatMap Piece.tokens

end PageExtract.Html
