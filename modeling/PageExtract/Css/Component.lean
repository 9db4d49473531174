import PageExtract.Css.Lexer

/-! # Nested blocks

Tokens between an opening bracket, or a function name, and the bracket that closes it form a block.
What is still open at the end closes there; a closing bracket that fits nothing stays as it is.
-/
namespace PageExtract.Css

inductive Component where
  | token (t : Token)
  | block (start : Token) (children : List Component)

namespace Component

def closer : Token → Char
  | .opening '[' => ']'
  | .opening '{' => '}'
  | _ => ')'

/-- A block that is being read: how it began, and what stands before it, the latest first. -/
abbrev Opened := Token × List Component

/-- Closes all blocks; `inside` holds the latest first. -/
def closeAll (inside : List Component) : List Opened → List Component
  | [] => inside.reverse
  | (start, before) :: outer => closeAll (.block start inside.reverse :: before) outer

def nest (inside : List Component) (opened : List Opened) : List Token → List Component
  | [] => closeAll inside opened
  | .function name :: ts => nest [] ((.function name, inside) :: opened) ts
  | .opening c :: ts => nest [] ((.opening c, inside) :: opened) ts
  | .closing c :: ts =>
    match opened with
    | (start, before) :: outer =>
      if closer start = c then nest (.block start inside.reverse :: before) outer ts
      else nest (.token (.closing c) :: inside) opened ts
    | [] => nest (.token (.closing c) :: inside) opened ts
  | t :: ts => nest (.token t :: inside) opened ts

def ofText (s : String) : List Component := nest [] [] (tokens s.toList)

def depth : List Component → Nat
  | [] => 0
  | token _ :: rest => depth rest
  | block _ children :: rest => max (depth children + 1) (depth rest)

def hasBroken : List Component → Bool
  | [] => false
  | token .broken :: _ => true
  | token (.closing _) :: _ => true
  | token _ :: rest => hasBroken rest
  | block _ children :: rest => hasBroken children || hasBroken rest

def isSpace : Component → Bool
  | token .space => true
  | _ => false

def skipSpace (cs : List Component) : List Component := cs.dropWhile isSpace

def splitCommas : List Component → List (List Component)
  | [] => [[]]
  | token .comma :: rest => [] :: splitCommas rest
  | c :: rest =>
    match splitCommas rest with
    | [] => [[c]]
    | part :: parts => (c :: part) :: parts

end Component

end PageExtract.Css
