import PageExtract.Css.Component

/-! # Counting patterns

The argument of `:nth-child` and its kin: `even`, `odd`, an integer, or `An+B` in its many
spellings. It gives the two numbers `A` and `B`.
-/
namespace PageExtract.Css

abbrev Pattern := Int × Int

def lower (s : String) : String := s.map Char.toLower

def ended (p : Pattern) (rest : List Component) : Option Pattern :=
  if (Component.skipSpace rest).isEmpty then some p else none

def readUnsigned (a sign : Int) (cs : List Component) : Option Pattern :=
  match Component.skipSpace cs with
  | .token (.number false (some b)) :: rest => ended (a, sign * b) rest
  | _ => none

def readOffset (a : Int) (cs : List Component) : Option Pattern :=
  match Component.skipSpace cs with
  | .token (.delim '+') :: rest => readUnsigned a 1 rest
  | .token (.delim '-') :: rest => readUnsigned a (-1) rest
  | .token (.number true (some b)) :: rest => ended (a, b) rest
  | rest => ended (a, 0) rest

def readFromN (a : Int) (name : String) (rest : List Component) : Option Pattern :=
  match (lower name).toList with
  | ['n'] => readOffset a rest
  | ['n', '-'] => readUnsigned a (-1) rest
  | 'n' :: '-' :: digits =>
    if digits.all Char.isDigit then ended (a, clamp (-(Text.numberOf 10 digits : Int))) rest
    else none
  | _ => none

def readNamed (name : String) (rest : List Component) : Option Pattern :=
  if lower name = "even" then ended (2, 0) rest
  else if lower name = "odd" then ended (2, 1) rest
  else match name.toList with
    | '-' :: unsigned => readFromN (-1) (String.ofList unsigned) rest
    | _ => readFromN 1 name rest

/-- Directly behind a plus sign only an `n` may stand. -/
def readPattern (cs : List Component) : Option Pattern :=
  match Component.skipSpace cs with
  | .token (.number _ (some b)) :: rest => ended (0, b) rest
  | .token (.dimension (some a) unit) :: rest => readFromN a unit rest
  | .token (.ident name) :: rest => readNamed name rest
  | .token (.delim '+') :: .token (.ident name) :: rest => readFromN 1 name rest
  | _ => none

end PageExtract.Css
