/-! # Scopes

A scope is a node that selectors can be resolved against. Queries search below the node. The order
of the calls a rule makes is part of its meaning, so `Call` names each of them.
-/
namespace PageExtract

structure Rejection where
  selector : String
  reason : String
  deriving DecidableEq

def Rejection.describe (r : Rejection) : String :=
  "Selector '" ++ r.selector ++ "' rejected: " ++ r.reason

class Scope (ν : Type) where
  /-- The first match below the node, in document order. -/
  first : ν → String → Except Rejection (Option ν)
  /-- Every match below the node, in document order. -/
  all : ν → String → Except Rejection (List ν)
  /-- The text of the node, as it stands. -/
  text : ν → String
  attr : ν → String → Option String

inductive Call (ν : Type) where
  | first (node : ν) (selector : String)
  | all (node : ν) (selector : String)
  | text (node : ν)
  | attr (node : ν) (name : String)

end PageExtract
