import PageExtract.Proofs.Evaluation.Correspondence
import PageExtract.Proofs.Evaluation.Faults

/-! # A rejected query ends a run

Whatever the chains of a rule, its run is made of calls and of failures for malformed chains. Main
statement: a run ends with a rejection exactly if one of its queries is rejected, which is then the
last call, the first rejected one, and a query for a selector that is written in the rule.
-/
namespace PageExtract
variable {ν : Type} [Scope ν]

/-! ## Properties of all runs -/

namespace Evaluation.Closed
variable {P : {α : Type} → Evaluation ν α → Prop} (h : Closed P)
  (hfail : ∀ (q : Rule.Quoted) (cause : ChainCause),
    P (.fail (.malformed q cause) : Evaluation ν (Option String)))
include h hfail

theorem readOp (op : Rule.Op) (q : Rule.Quoted) (node : ν) : P (op.read q node) := by
  cases op with
  | text => exact h.bind (h.text node) fun _ => h.pure _
  | attr name => exact h.bind (h.attr node name) fun _ => h.pure _
  | each => exact hfail q .singleMapped

theorem readNode (ops : List Rule.Op) (q : Rule.Quoted) (node : ν) :
    P (Rule.readNode q node ops) := by
  rcases ops with _ | ⟨op, _ | ⟨next, more⟩⟩
  · exact hfail q .neverRead
  · exact h.readOp hfail op q node
  · apply h.bind (h.readOp hfail op q node)
    intro found
    exact hfail q (.alreadyRead next)

theorem evaluate_anySelection (s : Rule.Selection) (scope : ν) : P (s.evaluate scope) := by
  induction s.shape generalizing scope with
  | single text ops =>
    rw [Rule.evaluate_single]
    apply h.bind (h.first scope text)
    intro found
    cases found with
    | none => exact h.pure none
    | some node => exact h.readNode hfail ops ⟨.single, text⟩ node
  | nested text _ ih =>
    rw [Rule.evaluate_nested]
    exact h.items ih text scope
  | items text ops =>
    rw [Rule.evaluate_items]
    exact h.items (h.readNode hfail ops ⟨.triple, text⟩) text scope
  | unmapped text hops =>
    rw [Rule.evaluate_unmapped text hops]
    exact hfail ⟨.triple, text⟩ .listUnmapped

/-- What is kept by sequencing and holds of calls and of malformed chains holds of every run. -/
theorem evaluate_any (rule : Rule) (scope : ν) : P (rule.evaluate scope) := by
  induction rule with
  | select s => exact h.evaluate_anySelection hfail s scope
  | orElse first second ihFirst ihSecond =>
    rw [Rule.evaluate]
    apply h.bind ihFirst
    intro found
    cases found with
    | some value => exact h.pure (some value)
    | none => exact ihSecond

end Evaluation.Closed

/-! ## Rejected calls -/

namespace Evaluation.Faithful
variable {α : Type} {r : Evaluation ν α}

/-- A rejected call ends the run, and is the first of its kind. -/
theorem last_of_rejection (h : Faithful r) {c : Call ν} (hc : c ∈ r.calls) {fault : Rejection}
    (hf : c.rejection? = some fault) :
    r.result = .error (.rejected fault) ∧
      ∃ before, r.calls = before ++ [c] ∧ ∀ d ∈ before, d.rejection? = none := by
  cases h with
  | clean hcalls _ =>
    have hnone := hcalls c hc
    simp [hnone] at hf
  | rejected before last fault' hcalls hbefore hlast hresult =>
    rw [hcalls] at hc
    rcases List.mem_append.1 hc with hin | hin
    · have hnone := hbefore c hin
      simp [hnone] at hf
    · obtain rfl := List.mem_singleton.1 hin
      obtain rfl : fault' = fault := Option.some.inj (hlast.symm.trans hf)
      exact ⟨hresult, before, hcalls, hbefore⟩

theorem clean_of_ne (h : Faithful r) (hr : ∀ fault, r.result ≠ .error (.rejected fault)) :
    ∀ c ∈ r.calls, c.rejection? = none := by
  cases h with
  | clean hcalls _ => exact hcalls
  | rejected _ _ fault _ _ _ hresult => exact absurd hresult (hr fault)

end Evaluation.Faithful

/-! ## What a run asks for -/

def Call.selector? : Call ν → Option String
  | .first _ selector => some selector
  | .all _ selector => some selector
  | .text _ => none
  | .attr _ _ => none

theorem corresponds_eq (asked named : String → Prop) :
    Corresponds asked named (Eq : ν → ν → Prop) where
  first := by
    rintro a _ text rfl -
    refine .refl ?_ _
    rintro (_ | node)
    · exact .none
    · exact .some rfl
  all := by
    rintro a _ text rfl -
    exact .refl (fun nodes => List.forall₂_refl nodes) _
  text := by
    rintro a _ rfl
    rfl
  attr := by
    rintro a _ name rfl -
    rfl

namespace Rule

theorem faithful_evaluate (rule : Rule) (scope : ν) : (rule.evaluate scope).Faithful :=
  Evaluation.closed_faithful.evaluate_any
    (fun q cause => .clean (by simp) (by simp)) rule scope

/-- A run corresponds to itself, so it asks for no selector that is not written in the rule. -/
theorem selector_mem_of_mem_calls {rule : Rule} {scope : ν} {c : Call ν}
    (hc : c ∈ (rule.evaluate scope).calls) {text : String} (ht : c.selector? = some text) :
    text ∈ rule.selectorTexts := by
  have hrun := parallel_of_corresponds rule (corresponds_eq _ _) (rfl : scope = scope)
  cases List.forall₂_same.1 hrun.calls c hc with
  | first _ hmem =>
    obtain rfl := Option.some.inj ht
    exact hmem
  | all _ hmem =>
    obtain rfl := Option.some.inj ht
    exact hmem
  | text => cases ht
  | attr => cases ht

/-- A call with a rejection is a query. -/
theorem exists_selector_of_rejection {c : Call ν} {fault : Rejection}
    (h : c.rejection? = some fault) : ∃ text, c.selector? = some text := by
  cases c with
  | first _ selector => exact ⟨selector, rfl⟩
  | all _ selector => exact ⟨selector, rfl⟩
  | text => cases h
  | attr => cases h

/-- A run ends with a rejection exactly if one of its calls is rejected, with the rejection of that
call. The call is the last one, none before it is rejected, and it asks for a selector of the rule.
Runs with any other end have no rejected call. -/
theorem evaluate_rejected_iff (rule : Rule) (scope : ν) :
    (∀ fault, (rule.evaluate scope).result = .error (.rejected fault) ↔
      ∃ c ∈ (rule.evaluate scope).calls, c.rejection? = some fault) ∧
    (∀ c ∈ (rule.evaluate scope).calls, ∀ fault, c.rejection? = some fault →
      (∃ before, (rule.evaluate scope).calls = before ++ [c] ∧
        ∀ d ∈ before, d.rejection? = none) ∧
      ∃ text ∈ rule.selectorTexts, c.selector? = some text) ∧
    (∀ found, (rule.evaluate scope).result = .ok found →
      ∀ c ∈ (rule.evaluate scope).calls, c.rejection? = none) ∧
    ∀ q cause, (rule.evaluate scope).result = .error (.malformed q cause) →
      ∀ c ∈ (rule.evaluate scope).calls, c.rejection? = none := by
  have hfaithful := faithful_evaluate rule scope
  refine ⟨?_, ?_, ?_, ?_⟩
  · intro fault
    constructor
    · intro h
      obtain ⟨before, last, hcalls, -, hlast⟩ := hfaithful.rejected_iff.1 h
      exact ⟨last, by simp [hcalls], hlast⟩
    · rintro ⟨c, hc, hf⟩
      exact (hfaithful.last_of_rejection hc hf).1
  · intro c hc fault hf
    obtain ⟨text, ht⟩ := exists_selector_of_rejection hf
    exact ⟨(hfaithful.last_of_rejection hc hf).2, text, selector_mem_of_mem_calls hc ht, ht⟩
  · intro found h
    exact hfaithful.clean_of_ne (by simp [h])
  · intro q cause h
    exact hfaithful.clean_of_ne (by simp [h])

end Rule

end PageExtract
