import PageExtract.Css.Selector
import PageExtract.Css.Token
import PageExtract.Page.Element

/-! # Which elements a selector fits

An element fits a selector if it fits the last compound, and the combinator before that leads back
to an element that fits the rest. A search that fails says which other elements could still do, so
that the ways back are not all walked: where no ancestor fits, none fits for an earlier sibling
either.
-/
namespace PageExtract.Css

/-! ## Attributes -/

def foldCase (ignoreCase : Bool) (s : String) : List Char :=
  if ignoreCase then s.toList.map Char.toLower else s.toList

def listItems : List Char → List (List Char)
  | [] => [[]]
  | c :: cs =>
    if isSpace c then [] :: listItems cs
    else match listItems cs with
      | [] => [[c]]
      | item :: items => (c :: item) :: items

def isInfix (part : List Char) : List Char → Bool
  | [] => part.isEmpty
  | c :: cs => part.isPrefixOf (c :: cs) || isInfix part cs

/-- No value holds an empty part, except that it may equal it. -/
def Comparison.holds (found wanted : List Char) : Comparison → Bool
  | .equal => found = wanted
  | .dash => found = wanted || (wanted ++ ['-']).isPrefixOf found
  | .includes => !wanted.isEmpty && (listItems found).contains wanted
  | .front => !wanted.isEmpty && wanted.isPrefixOf found
  | .back => !wanted.isEmpty && wanted.isSuffixOf found
  | .anywhere => !wanted.isEmpty && isInfix wanted found

def AttributeTest.ofClass (name : String) : AttributeTest := .compare .includes name false

def AttributeTest.holds (found : String) : AttributeTest → Bool
  | .present => true
  | .compare comparison wanted ignoreCase =>
    comparison.holds (foldCase ignoreCase found) (foldCase ignoreCase wanted)

/-! ## Counting -/

def Counting.number (c : Counting) (e : Element) : Nat :=
  let siblings := if c.fromEnd then e.laterTags else e.earlierTags
  1 + siblings.countP fun tag => !c.ofType || tag.name = e.tag.name

/-- Whether `number` is `a * n + b` for some natural `n`; differences beyond 32 bits count as no. -/
def isNth (a b : Int) (number : Nat) : Bool :=
  let d : Int := number - b
  if d < -2147483648 ∨ 2147483647 < d then false
  else if a = 0 then d = 0
  else d.tmod a = 0 && 0 ≤ d.tdiv a

/-! ## Selectors -/

/-- The elements that a query is about, each given by its path: the one that `:scope` stands for, if
it is not the root, and, inside `:has`, the anchor. -/
structure Context where
  scope : Option (List Nat)
  anchor : Option (List Nat)

/-- Whether an element fits and, if not, which of the others that a combinator may lead to instead
could. -/
inductive Verdict where
  | fits
  | someOther
  /-- Neither the element nor a sibling of it. -/
  | noSibling
  | nothing
  deriving DecidableEq

namespace Combinator

def back (e : Element) : Combinator → List Element
  | child => e.parent?.toList
  | descendant => e.ancestors
  | nextSibling => e.previous?.toList
  | laterSibling => e.earlier

/-- Where ancestors run out, they run out for siblings and ancestors too; where siblings run out, an
ancestor may have more. -/
def exhausted : Combinator → Verdict
  | child | descendant => .nothing
  | nextSibling | laterSibling => .noSibling

def search (c : Combinator) (judge : Element → Verdict) : List Element → Verdict
  | [] => c.exhausted
  | x :: further =>
    match judge x, c with
    | .fits, _ => .fits
    | .nothing, _ => .nothing
    | verdict, nextSibling => verdict
    | _, child => .noSibling
    | .noSibling, laterSibling => .noSibling
    | _, _ => c.search judge further

end Combinator

def Combinator.ahead (e : Element) : Combinator → List Element
  | .child | .descendant => e.descendants
  | .nextSibling | .laterSibling => e.later.flatMap fun x => x :: x.descendants

mutual

def Simple.fits (context : Context) (e : Element) : Simple → Bool
  | .name name => e.tag.name = name
  | .id id => e.attr? "id" = some id
  | .className name => ((e.attr? "class").map (AttributeTest.ofClass name).holds).getD false
  | .attr name test => ((e.attr? name).map fun v => test.holds v).getD false
  | .root => e.above.isEmpty
  | .scope =>
    match context.scope with
    | some path => e.path = path
    | none => e.above.isEmpty
  | .empty => e.children.isEmpty
  | .nth counting a b => isNth a b (counting.number e)
  | .isNot list => !Selector.anyFits context e list
  | .isAny list => Selector.anyFits context e list
  | .has list => Relative.anyFits { context with anchor := some e.path } e list
  | .anchor => context.anchor = some e.path
  | .never => false

def Simple.allFit (context : Context) (e : Element) : List Simple → Bool
  | [] => true
  | s :: rest => s.fits context e && Simple.allFit context e rest

def Selector.judge (context : Context) (e : Element) : Selector → Verdict
  | .compound parts => if Simple.allFit context e parts then .fits else .someOther
  | .join left combinator parts =>
    if Simple.allFit context e parts then
      combinator.search (fun x => left.judge context x) (combinator.back e)
    else .someOther

def Selector.anyFits (context : Context) (e : Element) : List Selector → Bool
  | [] => false
  | s :: rest => s.judge context e = .fits || Selector.anyFits context e rest

def Relative.fits (context : Context) (e : Element) : Relative → Bool
  | .starting first selector => (first.ahead e).any fun x => selector.judge context x = .fits

def Relative.anyFits (context : Context) (e : Element) : List Relative → Bool
  | [] => false
  | r :: rest => r.fits context e || Relative.anyFits context e rest

end

end PageExtract.Css
