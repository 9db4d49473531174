import PageExtract.Rule.Token

/-! # Extraction rules

A rule is a tree of alternatives. Each alternative selects something and reads it with a chain of
operations. The types hold more than the rules that can be written: a chain may have any length, and
alternatives may nest on either side.
-/
namespace PageExtract

namespace Rule

inductive Op where
  /-- The text of the selected node, written `#`. -/
  | text
  /-- An attribute of the selected node, written `@'name'`. -/
  | attr (name : String)
  /-- What `ops` reads from each selected node, or from what `sub` selects below it, written `>`. -/
  | each (sub : Option Quoted) (ops : List Op)

mutual

def Op.decEq : (a b : Op) → Decidable (a = b)
  | .text, .text => isTrue rfl
  | .attr n, .attr m =>
    if h : n = m then isTrue (h ▸ rfl) else isFalse fun e => h (Op.attr.inj e)
  | .each s os, .each t ps =>
    if h : s = t then
      match Op.decEqList os ps with
      | isTrue h' => isTrue (h ▸ h' ▸ rfl)
      | isFalse h' => isFalse fun e => h' (Op.each.inj e).2
    else isFalse fun e => h (Op.each.inj e).1
  | .text, .attr _ => isFalse nofun
  | .text, .each _ _ => isFalse nofun
  | .attr _, .text => isFalse nofun
  | .attr _, .each _ _ => isFalse nofun
  | .each _ _, .text => isFalse nofun
  | .each _ _, .attr _ => isFalse nofun

def Op.decEqList : (as bs : List Op) → Decidable (as = bs)
  | [], [] => isTrue rfl
  | [], _ :: _ => isFalse nofun
  | _ :: _, [] => isFalse nofun
  | a :: as, b :: bs =>
    match Op.decEq a b with
    | isTrue h =>
      match Op.decEqList as bs with
      | isTrue h' => isTrue (h ▸ h' ▸ rfl)
      | isFalse h' => isFalse fun e => h' (List.cons.inj e).2
    | isFalse h => isFalse fun e => h (List.cons.inj e).1

end

instance : DecidableEq Op := Op.decEq

structure Selection where
  selector : Quoted
  ops : List Op
  deriving DecidableEq

end Rule

inductive Rule where
  | select (s : Rule.Selection)
  /-- The second rule is tried when the first gives nothing, written `first ? second`. -/
  | orElse (first second : Rule)
  deriving DecidableEq

namespace Rule

def alternatives : Rule → List Selection
  | select s => [s]
  | orElse first second => first.alternatives ++ second.alternatives

@[simp] theorem alternatives_select (s : Selection) : (select s).alternatives = [s] := rfl

@[simp] theorem alternatives_orElse (first second : Rule) :
    (orElse first second).alternatives = first.alternatives ++ second.alternatives := rfl

end Rule

end PageExtract
