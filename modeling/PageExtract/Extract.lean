import PageExtract.Evaluate
import PageExtract.Rule.Parser

/-! # Running the text of a rule

`tryExtract` parses a rule as it is written and runs it, keeping every failure. `extract` cuts
blanks off the rule, never fails, and leaves a notice where it finds nothing.
-/
namespace PageExtract

inductive ExtractError where
  | unparsable (error : Rule.ParseError)
  | failed (error : EvalError)
  deriving DecidableEq

inductive Level where
  | debug
  | warn
  deriving DecidableEq

def Level.name : Level → String
  | .debug => "DEBUG"
  | .warn => "WARN"

inductive Notice where
  | noRule
  | noMatch
  | unparsable
  | rejected
  | malformed
  | incomplete
  | parsed
  deriving DecidableEq

namespace Notice

def level : Notice → Level
  | noRule | noMatch | incomplete | parsed => .debug
  | unparsable | rejected | malformed => .warn

def message : Notice → String
  | noRule => "no extraction rule configured"
  | noMatch => "rule matched nothing"
  | unparsable => "extraction rule does not parse"
  | rejected => "selector rejected by HTML engine"
  | malformed => "extraction rule is malformed"
  | incomplete => "domain rules need fixing"
  | parsed => "parsed"

def describe (n : Notice) : String := n.level.name ++ " " ++ n.message

end Notice

/-- A value, the calls made to find it, and the notices left on the way. -/
structure Extraction (κ α : Type) where
  value : α
  calls : List κ
  notices : List Notice

variable {ν : Type} [Scope ν]

def tryExtract (source : String) (scope : ν) : Run (Call ν) ExtractError (Option String) :=
  match Rule.parse source with
  | .error e => .fail (.unparsable e)
  | .ok rule => (rule.evaluate scope).mapError .failed

def settle : Except ExtractError (Option String) → Option String × List Notice
  | .ok (some value) => (some value, [])
  | .ok none => (none, [.noMatch])
  | .error (.unparsable _) => (none, [.unparsable])
  | .error (.failed (.rejected _)) => (none, [.rejected])
  | .error (.failed (.malformed _ _)) => (none, [.malformed])

def extract (source : Option String) (scope : ν) : Extraction (Call ν) (Option String) :=
  match source.bind Text.trim? with
  | none => ⟨none, [], [.noRule]⟩
  | some rule =>
    let run := tryExtract rule scope
    let (value, notices) := settle run.result
    ⟨value, run.calls, notices⟩

end PageExtract
