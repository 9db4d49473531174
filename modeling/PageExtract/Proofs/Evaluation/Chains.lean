import PageExtract.Evaluate

/-! # The four ways to run a selection

Whatever its chain, a selection reads its first match, maps a nested selection or a chain over its
items, or is refused before anything is asked for. The equations here stand for the definition of
the evaluator in what follows.
-/
namespace PageExtract

/-- What `read` finds for the items of a list selection, joined. -/
def Evaluation.items {ν : Type} [Scope ν] (read : ν → Evaluation ν (Option String)) (text : String)
    (scope : ν) : Evaluation ν (Option String) := do
  let nodes ← Evaluation.all scope text
  let fragments ← Evaluation.gather read nodes
  pure (fragments? fragments)

namespace Rule

/-- The cases of a selection. Only behind a list selection is the chain looked into. -/
inductive Selection.Shape : Selection → Prop
  | single (text : String) (ops : List Op) : Shape ⟨⟨.single, text⟩, ops⟩
  | nested (text : String) {s : Selection} (h : s.Shape) :
      Shape ⟨⟨.triple, text⟩, [.each (some s.selector) s.ops]⟩
  | items (text : String) (ops : List Op) : Shape ⟨⟨.triple, text⟩, [.each none ops]⟩
  | unmapped (text : String) {ops : List Op} (h : ∀ sub inner, ops ≠ [.each sub inner]) :
      Shape ⟨⟨.triple, text⟩, ops⟩

theorem Selection.shape (s : Selection) : s.Shape := by
  obtain ⟨⟨quote, text⟩, ops⟩ := s
  cases quote with
  | single => exact .single text ops
  | triple =>
    by_cases h : ∃ sub inner, ops = [.each sub inner]
    · obtain ⟨sub, inner, rfl⟩ := h
      cases sub with
      | none => exact .items text inner
      | some sub => exact .nested text (Selection.shape ⟨sub, inner⟩)
    · refine .unmapped text ?_
      rintro sub inner rfl
      exact h ⟨sub, inner, rfl⟩
termination_by sizeOf s.ops

section
variable {ν : Type} [Scope ν]

theorem evaluate_single (text : String) (ops : List Op) (scope : ν) :
    Selection.evaluate ⟨⟨.single, text⟩, ops⟩ scope = (do
      match ← Evaluation.first scope text with
      | some node => readNode ⟨.single, text⟩ node ops
      | none => pure none) := by
  unfold Selection.evaluate evaluateSelection
  rfl

/-- A rule for the text of its first match finds that text, trimmed. -/
theorem result_evaluate_text {text : String} {scope node : ν}
    (hfirst : Scope.first scope text = .ok (some node)) :
    (evaluate (.select ⟨⟨.single, text⟩, [.text]⟩) scope).result =
      .ok (Text.trim? (Scope.text node)) := by
  have hcall : (Evaluation.first scope text).result = .ok (some node) := by
    rw [Evaluation.first, hfirst]
    rfl
  rw [evaluate, evaluate_single, Run.bind_of_ok hcall]
  rfl

theorem evaluate_nested (text : String) (s : Selection) (scope : ν) :
    Selection.evaluate ⟨⟨.triple, text⟩, [.each (some s.selector) s.ops]⟩ scope =
      Evaluation.items s.evaluate text scope := by
  rw [Selection.evaluate, evaluateSelection, evaluateItems]
  rfl

theorem evaluate_items (text : String) (ops : List Op) (scope : ν) :
    Selection.evaluate ⟨⟨.triple, text⟩, [.each none ops]⟩ scope =
      Evaluation.items (fun node => readNode ⟨.triple, text⟩ node ops) text scope := by
  rw [Selection.evaluate, evaluateSelection, evaluateItems]
  rfl

theorem evaluate_unmapped (text : String) {ops : List Op}
    (h : ∀ sub inner, ops ≠ [.each sub inner]) (scope : ν) :
    Selection.evaluate ⟨⟨.triple, text⟩, ops⟩ scope =
      .fail (.malformed ⟨.triple, text⟩ .listUnmapped) := by
  rw [Selection.evaluate]
  rcases ops with _ | ⟨op, _ | ⟨next, ops⟩⟩
  · rw [evaluateSelection]
    simp
  · rw [evaluateSelection]
    cases op with
    | each sub inner => exact absurd rfl (h sub inner)
    | text => rw [evaluateItems] <;> simp
    | attr => rw [evaluateItems] <;> simp
  · rw [evaluateSelection]
    simp

end

end Rule

end PageExtract
