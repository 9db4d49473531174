import PageExtract.Proofs.Evaluation.Alternatives
import PageExtract.Proofs.Evaluation.Faults

/-! # Malformed chains come to light

A chain is checked late: that of a single selection behind a match, that of an item once there is
one, that of an alternative once all before it have missed. Main statement: a rule ends with a
malformed chain on some scope exactly if one of its selections has such a chain. One scope shows
them all, in which every selector finds something and nothing is written.
-/
namespace PageExtract

/-- A scope of one blank node, which is found below itself by every selector. -/
inductive Wildcard where
  | blank

instance : Scope Wildcard where
  first node _ := .ok (some node)
  all node _ := .ok [node]
  text _ := ""
  attr _ _ := none

namespace Rule

/-- A chain that reads a node: one operation, which ends it. -/
def ReadsNode (ops : List Op) : Prop := ∃ op, ops = [op] ∧ op.Reads fun _ => True

section
variable {text : String} {ops : List Op}

theorem wellShaped_single_iff :
    Selection.WellShaped ⟨⟨.single, text⟩, ops⟩ ↔ ReadsNode ops := by
  constructor
  · intro h
    cases h with
    | single _ hop => exact ⟨_, rfl, hop⟩
  · rintro ⟨op, rfl, hop⟩
    exact .single trivial hop

theorem wellShaped_nested_iff {s : Selection} :
    Selection.WellShaped ⟨⟨.triple, text⟩, [.each (some s.selector) s.ops]⟩ ↔ s.WellShaped := by
  constructor
  · intro h
    obtain ⟨selector, ops⟩ := s
    cases h with
    | nested _ hs => exact hs
  · intro hs
    exact .nested trivial hs

theorem wellShaped_items_iff :
    Selection.WellShaped ⟨⟨.triple, text⟩, [.each none ops]⟩ ↔ ReadsNode ops := by
  constructor
  · intro h
    cases h with
    | items _ hop => exact ⟨_, rfl, hop⟩
  · rintro ⟨op, rfl, hop⟩
    exact .items trivial hop

theorem not_wellShaped_unmapped (h : ∀ sub inner, ops ≠ [.each sub inner]) :
    ¬ Selection.WellShaped ⟨⟨.triple, text⟩, ops⟩ := by
  intro hs
  cases hs with
  | nested => exact h _ _ rfl
  | items => exact h _ _ rfl

end

end Rule

/-! ## Runs on the blank node -/

namespace Wildcard

/-- An outcome that tells whether something fits: nothing is found if it does, and a malformed
chain if it does not. -/
structure Tells (outcome : Except EvalError (Option String)) (fits : Prop) : Prop where
  misses : fits → outcome = .ok none
  malformed : ¬ fits → ∃ q cause, outcome = .error (.malformed q cause)

theorem Tells.of_misses {outcome : Except EvalError (Option String)} {fits : Prop}
    (h : Tells outcome fits) (hmiss : outcome = .ok none) : fits := by
  by_contra hfits
  obtain ⟨q, cause, he⟩ := h.malformed hfits
  simp [hmiss] at he

theorem result_items (read : Wildcard → Evaluation Wildcard (Option String)) (text : String) :
    (Evaluation.items read text .blank).result =
      (read .blank).result.map fun found => fragments? found.toList := by
  rw [Evaluation.items, Run.result_bind]
  show (Evaluation.gather read [.blank] >>= fun fragments => pure (fragments? fragments)).result = _
  simp only [Evaluation.gather, Run.result_bind, Run.result_pure]
  cases (read .blank).result with
  | error e => rfl
  | ok found =>
    show Except.ok (fragments? (found.toList ++ [])) = _
    rw [List.append_nil]
    rfl

theorem Tells.items {read : Wildcard → Evaluation Wildcard (Option String)} {fits : Prop}
    (h : Tells (read .blank).result fits) (text : String) :
    Tells (Evaluation.items read text .blank).result fits := by
  rw [result_items]
  constructor
  · intro hfits
    rw [h.misses hfits]
    rfl
  · intro hfits
    obtain ⟨q, cause, he⟩ := h.malformed hfits
    exact ⟨q, cause, by rw [he]; rfl⟩

theorem tells_read (op : Rule.Op) (q : Rule.Quoted) :
    Tells (op.read q Wildcard.blank).result (op.Reads fun _ => True) := by
  cases op with
  | text => exact ⟨fun _ => rfl, fun h => absurd trivial h⟩
  | attr => exact ⟨fun _ => rfl, fun h => absurd trivial h⟩
  | each => exact ⟨False.elim, fun _ => ⟨q, .singleMapped, rfl⟩⟩

theorem tells_readNode (q : Rule.Quoted) (ops : List Rule.Op) :
    Tells (Rule.readNode q Wildcard.blank ops).result (Rule.ReadsNode ops) := by
  constructor
  · rintro ⟨op, rfl, hop⟩
    exact (tells_read op q).misses hop
  · intro h
    rcases ops with _ | ⟨op, _ | ⟨next, more⟩⟩
    · exact ⟨q, .neverRead, rfl⟩
    · exact (tells_read op q).malformed fun hop => h ⟨op, rfl, hop⟩
    · -- the first operation runs before the second one is refused
      rw [Rule.readNode, Run.result_bind]
      by_cases hop : op.Reads fun _ => True
      · rw [(tells_read op q).misses hop]
        exact ⟨q, .alreadyRead next, rfl⟩
      · obtain ⟨q', cause, he⟩ := (tells_read op q).malformed hop
        rw [he]
        exact ⟨q', cause, rfl⟩

theorem tells_selection (s : Rule.Selection) :
    Tells (s.evaluate Wildcard.blank).result s.WellShaped := by
  induction s.shape with
  | single text ops =>
    rw [Rule.evaluate_single, Rule.wellShaped_single_iff]
    exact tells_readNode ⟨.single, text⟩ ops
  | nested text _ ih =>
    rw [Rule.evaluate_nested, Rule.wellShaped_nested_iff]
    exact ih.items text
  | items text ops =>
    rw [Rule.evaluate_items, Rule.wellShaped_items_iff]
    exact Tells.items (tells_readNode ⟨.triple, text⟩ ops) text
  | unmapped text hops =>
    rw [Rule.evaluate_unmapped text hops]
    exact ⟨fun hs => absurd hs (Rule.not_wellShaped_unmapped hops), fun _ => ⟨_, _, rfl⟩⟩

/-- The well-shaped alternatives find nothing, so the first malformed one is reached. -/
theorem tells_rule (rule : Rule) :
    Tells (rule.evaluate Wildcard.blank).result (∀ s ∈ rule.alternatives, s.WellShaped) := by
  rcases Rule.evaluate_search_alternatives rule Wildcard.blank with
    ⟨before, s, after, hsplit, -, hstop, hresult, -⟩ | ⟨hmiss, hresult, -⟩
  · have hs : ¬ s.WellShaped := fun h => hstop ((tells_selection s).misses h)
    rw [hresult]
    refine ⟨fun hall => absurd (hall s ?_) hs, fun _ => (tells_selection s).malformed hs⟩
    simp [hsplit]
  · refine ⟨fun _ => hresult, fun hall => absurd ?_ hall⟩
    intro s hs
    exact (tells_selection s).of_misses (hmiss s hs)

end Wildcard

namespace Rule

/-- A rule ends with a malformed chain on some scope exactly if one of its alternatives has one. -/
theorem exists_malformed_iff (rule : Rule) :
    (∃ (ν : Type) (_ : Scope ν) (scope : ν) (q : Quoted) (cause : ChainCause),
      (rule.evaluate scope).result = .error (.malformed q cause)) ↔
    ∃ s ∈ rule.alternatives, ¬ s.WellShaped := by
  constructor
  · rintro ⟨ν, _, scope, q, cause, he⟩
    by_contra hnone
    push Not at hnone
    exact Evaluation.closed_wellBehaved.evaluate hnone scope q cause he
  · rintro ⟨s, hs, hshape⟩
    have hsome : ¬ ∀ t ∈ rule.alternatives, t.WellShaped := fun hall => hshape (hall s hs)
    obtain ⟨q, cause, he⟩ := (Wildcard.tells_rule rule).malformed hsome
    exact ⟨Wildcard, inferInstance, .blank, q, cause, he⟩

end Rule

end PageExtract
