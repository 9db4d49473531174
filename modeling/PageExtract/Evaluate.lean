import PageExtract.Rule.Render
import PageExtract.Run
import PageExtract.Scope
import PageExtract.Text.Blank

/-! # What a rule finds

A rule finds at most one text in a scope. A selector without a match, a blank text and an absent
attribute find nothing; a rejected selector and a chain of operations that does not fit its
selection are failures, and end the run.
-/
namespace PageExtract

inductive ChainCause where
  | listUnmapped
  | singleMapped
  | alreadyRead (next : Rule.Op)
  | neverRead
  deriving DecidableEq

def ChainCause.message : ChainCause → String
  | .listUnmapped => "a list selection must be consumed by exactly one '>'"
  | .singleMapped => "'>' applied to a single node"
  | .alreadyRead next => "'" ++ next.render ++ "' applied after the selection was already read"
  | .neverRead => "selection is never read"

inductive EvalError where
  | rejected (rejection : Rejection)
  | malformed (selector : Rule.Quoted) (cause : ChainCause)
  deriving DecidableEq

def EvalError.describe : EvalError → String
  | .rejected rejection => rejection.describe
  | .malformed selector cause =>
    "Invalid op chain on " ++ selector.written ++ ": " ++ cause.message

abbrev Evaluation (ν α : Type) := Run (Call ν) EvalError α

namespace Evaluation
variable {ν : Type} [Scope ν]

def first (node : ν) (selector : String) : Evaluation ν (Option ν) :=
  .call (.first node selector) ((Scope.first node selector).mapError .rejected)

def all (node : ν) (selector : String) : Evaluation ν (List ν) :=
  .call (.all node selector) ((Scope.all node selector).mapError .rejected)

def text (node : ν) : Evaluation ν String := .call (.text node) (.ok (Scope.text node))

def attr (node : ν) (name : String) : Evaluation ν (Option String) :=
  .call (.attr node name) (.ok (Scope.attr node name))

def gather (read : ν → Evaluation ν (Option String)) : List ν → Evaluation ν (List String)
  | [] => pure []
  | node :: nodes => do
    let found ← read node
    let rest ← gather read nodes
    pure (found.toList ++ rest)

end Evaluation

/-- The texts found for the items of a list, joined by line feeds. -/
def fragments? (fragments : List String) : Option String :=
  if fragments.isEmpty then none else some (String.intercalate "\n" fragments)

namespace Rule
variable {ν : Type} [Scope ν]

def Op.read (selector : Quoted) (node : ν) : Op → Evaluation ν (Option String)
  | .text => do
    let text ← Evaluation.text node
    pure (Text.trim? text)
  | .attr name => do
    let value ← Evaluation.attr node name
    pure (value.bind Text.trim?)
  | .each _ _ => .fail (.malformed selector .singleMapped)

def readNode (selector : Quoted) (node : ν) : List Op → Evaluation ν (Option String)
  | [] => .fail (.malformed selector .neverRead)
  | [op] => op.read selector node
  | op :: next :: _ => do
    let _ ← op.read selector node
    .fail (.malformed selector (.alreadyRead next))

mutual

/-- A list selection is mapped by one `>`, which is checked before anything is asked for. -/
def evaluateSelection : Quoted → List Op → ν → Evaluation ν (Option String)
  | ⟨.single, text⟩, ops, scope => do
    match ← Evaluation.first scope text with
    | some node => readNode ⟨.single, text⟩ node ops
    | none => pure none
  | ⟨.triple, text⟩, [op], scope => evaluateItems text op scope
  | ⟨.triple, text⟩, _, _ => .fail (.malformed ⟨.triple, text⟩ .listUnmapped)

def evaluateItems : String → Op → ν → Evaluation ν (Option String)
  | text, .each (some sub) ops, scope => do
    let nodes ← Evaluation.all scope text
    let fragments ← Evaluation.gather (evaluateSelection sub ops) nodes
    pure (fragments? fragments)
  | text, .each none ops, scope => do
    let nodes ← Evaluation.all scope text
    let fragments ← Evaluation.gather (readNode ⟨.triple, text⟩ · ops) nodes
    pure (fragments? fragments)
  | text, _, _ => .fail (.malformed ⟨.triple, text⟩ .listUnmapped)

end

def Selection.evaluate (s : Selection) (scope : ν) : Evaluation ν (Option String) :=
  evaluateSelection s.selector s.ops scope

def evaluate : Rule → ν → Evaluation ν (Option String)
  | select s, scope => s.evaluate scope
  | orElse first second, scope => do
    match ← first.evaluate scope with
    | some value => pure (some value)
    | none => second.evaluate scope

end Rule

end PageExtract
