import PageExtract.Html.CharacterReference

/-! # Attributes of a tag

Attributes are read one character at a time, from behind the tag name to the `>` that ends the tag.
A slash between attributes means nothing. The first of two attributes with one name counts.
-/
namespace PageExtract.Html

abbrev Attributes := List (String × String)

/-- Where the reading stands. Names and values are kept backwards. -/
inductive AttributeState where
  | between
  | name (name : List Char)
  | afterName (name : List Char)
  | beforeValue (name : List Char)
  | value (name : List Char) (quote : Option Char) (value : List Char)
  deriving DecidableEq

def lowerName (c : Char) : Char := Text.withoutNul c.toLower

def Attributes.add (attributes : Attributes) (name value : List Char) : Attributes :=
  let name := String.ofList name.reverse
  if attributes.any (·.1 = name) then attributes
  else attributes ++ [(name, String.ofList (decode true value.reverse))]

def readAttributes (state : AttributeState) (found : Attributes) :
    List Char → Option (Attributes × List Char)
  | [] => none
  | c :: cs =>
    match state with
    | .between =>
      if c = '>' then some (found, cs)
      else if isSpace c ∨ c = '/' then readAttributes .between found cs
      else readAttributes (.name [lowerName c]) found cs
    | .name n =>
      if c = '>' then some (found.add n [], cs)
      else if isSpace c then readAttributes (.afterName n) found cs
      else if c = '/' then readAttributes .between (found.add n []) cs
      else if c = '=' then readAttributes (.beforeValue n) found cs
      else readAttributes (.name (lowerName c :: n)) found cs
    | .afterName n =>
      if c = '>' then some (found.add n [], cs)
      else if isSpace c then readAttributes (.afterName n) found cs
      else if c = '/' then readAttributes .between (found.add n []) cs
      else if c = '=' then readAttributes (.beforeValue n) found cs
      else readAttributes (.name [lowerName c]) (found.add n []) cs
    | .beforeValue n =>
      if c = '>' then some (found.add n [], cs)
      else if isSpace c then readAttributes (.beforeValue n) found cs
      else if c = '\x22' ∨ c = '\x27' then readAttributes (.value n (some c) []) found cs
      else readAttributes (.value n none [Text.withoutNul c]) found cs
    | .value n (some quote) v =>
      if c = quote then readAttributes .between (found.add n v) cs
      else readAttributes (.value n (some quote) (Text.withoutNul c :: v)) found cs
    | .value n none v =>
      if c = '>' then some (found.add n v, cs)
      else if isSpace c then readAttributes .between (found.add n v) cs
      else readAttributes (.value n none (Text.withoutNul c :: v)) found cs

theorem length_of_readAttributes {state : AttributeState} {found attributes : Attributes}
    {cs rest : List Char} (h : readAttributes state found cs = some (attributes, rest)) :
    rest.length < cs.length := by
  induction cs generalizing state found with
  | nil => simp [readAttributes] at h
  | cons c cs ih =>
    unfold readAttributes at h
    repeat' split at h
    all_goals first
      | exact Nat.lt_succ_of_lt (ih h)
      | (simp only [Option.some.injEq, Prod.mk.injEq] at h; simp [h.2])

end PageExtract.Html
