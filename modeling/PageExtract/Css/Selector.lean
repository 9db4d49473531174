/-! # Selectors

A compound is a list of simple selectors that one element has to fit; the empty compound fits every
element. A selector joins compounds by combinators. A relative selector begins at an element that is
known already, its anchor.
-/
namespace PageExtract.Css

inductive Combinator where
  | child
  | descendant
  | nextSibling
  | laterSibling
  deriving DecidableEq

inductive Comparison where
  | equal
  | includes
  | dash
  | front
  | back
  | anywhere
  deriving DecidableEq

inductive AttributeTest where
  | present
  | compare (comparison : Comparison) (value : String) (ignoreCase : Bool)
  deriving DecidableEq

structure Counting where
  ofType : Bool
  fromEnd : Bool
  deriving DecidableEq

mutual

inductive Simple where
  | name (name : String)
  | id (id : String)
  | className (name : String)
  | attr (name : String) (test : AttributeTest)
  | root
  | scope
  | empty
  /-- The element's number, counted from one, is `a * n + b` for some natural `n`. -/
  | nth (counting : Counting) (a b : Int)
  | isNot (list : List Selector)
  | isAny (list : List Selector)
  /-- Some element behind or below fits, where `anchor` stands for the element itself. -/
  | has (list : List Relative)
  | anchor
  /-- Fits no element. -/
  | never

inductive Selector where
  | compound (parts : List Simple)
  | join (left : Selector) (combinator : Combinator) (parts : List Simple)

/-- A selector whose first compound is the anchor, and the combinator behind it. -/
inductive Relative where
  | starting (first : Combinator) (selector : Selector)

end

end PageExtract.Css
