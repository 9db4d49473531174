import PageExtract.Proofs.Evaluation.Leaves
import PageExtract.Proofs.Extraction.Agreement

/-! # Values are clean

What a run finds is a trimmed text, or joined from what other runs found. Main statement: no value
is empty or has a blank at its ends, whatever a scope answers and however deep the lists nest.
-/
namespace PageExtract
open Text

/-! ## What results satisfy -/

namespace Run
variable {κ ε α β : Type}

/-- Every result of the run has the property; a failure has none to show. -/
def Yields (r : Run κ ε α) (P : α → Prop) : Prop := ∀ ⦃a⦄, r.result = .ok a → P a

namespace Yields
variable {P : α → Prop} {Q : β → Prop}

theorem pure {a : α} (h : P a) : (pure a : Run κ ε α).Yields P := by
  rintro _ ⟨⟩
  exact h

theorem fail (e : ε) : (fail e : Run κ ε α).Yields P := by
  rintro _ ⟨⟩

theorem any (r : Run κ ε α) : r.Yields fun _ => True := fun _ _ => trivial

theorem bind {r : Run κ ε α} {f : α → Run κ ε β} (h : r.Yields P)
    (hf : ∀ a, P a → (f a).Yields Q) : (r >>= f).Yields Q := by
  intro b hb
  obtain ⟨a, ha, hfa⟩ := result_bind_eq_ok_iff.1 hb
  exact hf a (h ha) hfa

end Yields

def FindsOnly (r : Run κ ε (Option String)) (P : String → Prop) : Prop :=
  r.Yields fun found => ∀ value, found = some value → P value

theorem findsOnly_none {P : String → Prop} :
    (Pure.pure none : Run κ ε (Option String)).FindsOnly P :=
  .pure (by simp)

theorem found_eq_some_iff {r : Run κ ε (Option α)} {a : α} :
    r.found = some a ↔ r.result = .ok (some a) := by
  unfold found
  cases r.result <;> simp

end Run

/-! ## Properties of all values -/

theorem yields_gather {ν : Type} {P : String → Prop} {read : ν → Evaluation ν (Option String)}
    (hread : ∀ node, (read node).FindsOnly P) (nodes : List ν) :
    (Evaluation.gather read nodes).Yields fun found => ∀ s ∈ found, P s := by
  induction nodes with
  | nil => exact .pure (by simp)
  | cons node nodes ih =>
    rw [Evaluation.gather]
    refine (hread node).bind ?_
    intro found hfound
    refine ih.bind ?_
    intro rest hrest
    refine .pure ?_
    intro s hs
    rcases List.mem_append.1 hs with hs | hs
    · exact hfound s (Option.mem_toList.1 hs)
    · exact hrest s hs

/-- A property of trimmed texts that joining keeps. -/
structure Joinable (P : String → Prop) : Prop where
  trimmed {raw s : String} (h : trim? raw = some s) : P s
  joined {s t : String} (hs : P s) (ht : P t) : P (s ++ "\n" ++ t)

namespace Joinable
variable {ν : Type} [Scope ν] {P : String → Prop} (h : Joinable P)
include h

omit [Scope ν] in
theorem of_fragments? {fragments : List String} (hall : ∀ s ∈ fragments, P s) :
    ∀ value, fragments? fragments = some value → P value := by
  induction fragments with
  | nil => simp
  | cons s rest ih =>
    obtain ⟨hs, hrest⟩ := List.forall_mem_cons.1 hall
    have hsplit : fragments? (s :: rest) =
        Option.merge (fun s t => s ++ "\n" ++ t) (some s) (fragments? rest) :=
      fragments?_append [s] rest
    intro value hv
    rw [hsplit] at hv
    cases hjoin : fragments? rest with
    | none =>
      obtain rfl : s = value := by simpa [hjoin] using hv
      exact hs
    | some t =>
      obtain rfl : s ++ "\n" ++ t = value := by simpa [hjoin] using hv
      exact h.joined hs (ih hrest t hjoin)

theorem findsOnly_items {read : ν → Evaluation ν (Option String)}
    (hread : ∀ node, (read node).FindsOnly P) (text : String) (scope : ν) :
    (Evaluation.items read text scope).FindsOnly P := by
  refine .bind (.any _) ?_
  intro nodes _
  refine (yields_gather hread nodes).bind ?_
  intro fragments hfragments
  exact .pure (h.of_fragments? hfragments)

theorem findsOnly_readOp (op : Rule.Op) (q : Rule.Quoted) (node : ν) :
    (op.read q node).FindsOnly P := by
  cases op with
  | text =>
    refine .bind (.any _) ?_
    intro text _
    exact .pure fun value => h.trimmed
  | attr name =>
    refine .bind (.any _) ?_
    intro answer _
    refine .pure ?_
    intro value hv
    obtain ⟨raw, -, htrim⟩ := Option.bind_eq_some_iff.1 hv
    exact h.trimmed htrim
  | each => exact .fail _

theorem findsOnly_readNode (q : Rule.Quoted) (ops : List Rule.Op) (node : ν) :
    (Rule.readNode q node ops).FindsOnly P := by
  rcases ops with _ | ⟨op, _ | ⟨next, more⟩⟩
  · exact .fail _
  · exact h.findsOnly_readOp op q node
  · refine (h.findsOnly_readOp op q node).bind ?_
    intro found _
    exact .fail _

theorem findsOnly_selection (s : Rule.Selection) (scope : ν) : (s.evaluate scope).FindsOnly P := by
  induction s.shape generalizing scope with
  | single text ops =>
    rw [Rule.evaluate_single]
    refine .bind (.any _) ?_
    intro found _
    cases found with
    | none => exact Run.findsOnly_none
    | some node => exact h.findsOnly_readNode ⟨.single, text⟩ ops node
  | nested text _ ih =>
    rw [Rule.evaluate_nested]
    exact h.findsOnly_items ih text scope
  | items text ops =>
    rw [Rule.evaluate_items]
    exact h.findsOnly_items (h.findsOnly_readNode ⟨.triple, text⟩ ops) text scope
  | unmapped text hops =>
    rw [Rule.evaluate_unmapped text hops]
    exact .fail _

/-- What holds of trimmed texts and is kept by joining holds of every value. -/
theorem findsOnly_evaluate (rule : Rule) (scope : ν) : (rule.evaluate scope).FindsOnly P := by
  induction rule with
  | select s => exact h.findsOnly_selection s scope
  | orElse first second ihFirst ihSecond =>
    rw [Rule.evaluate]
    refine ihFirst.bind ?_
    intro found hfound
    cases found with
    | some value => exact .pure hfound
    | none => exact ihSecond

theorem findsOnly_tryExtract (source : String) (scope : ν) :
    (tryExtract source scope).FindsOnly P := by
  cases hp : Rule.parse source with
  | error e =>
    rw [tryExtract_of_error hp]
    exact .fail _
  | ok rule =>
    intro found hfound
    exact h.findsOnly_evaluate rule scope ((tryExtract_eq_ok_iff hp).1 hfound)

theorem of_extract {source : Option String} {scope : ν} {value : String}
    (hv : (extract source scope).value = some value) : P value := by
  cases source with
  | none => cases hv
  | some source =>
    rw [value_extract, Run.found_eq_some_iff] at hv
    exact h.findsOnly_tryExtract (trim source) scope hv value rfl

end Joinable

/-! ## Clean values -/

theorem joinable_clean : Joinable Clean where
  trimmed := clean_of_trim?
  joined hs ht := hs.append ht "\n"

/-- Neither a rule, nor the text of a rule, nor the rules of a domain find a text that is empty or
has a blank at its ends. -/
theorem clean_of_found {ν : Type} [Scope ν] (scope : ν) :
    (∀ (rule : Rule) (value : String),
      (rule.evaluate scope).result = .ok (some value) → Clean value) ∧
    (∀ (source : Option String) (value : String),
      (extract source scope).value = some value → Clean value) ∧
    ∀ (d : DomainRules) (field : Field) (value : String),
      (d.extract scope).value.text field = some value → Clean value := by
  refine ⟨?_, ?_, ?_⟩
  · intro rule value hv
    exact joinable_clean.findsOnly_evaluate rule scope hv value rfl
  · intro source value hv
    exact joinable_clean.of_extract hv
  · intro d field value hv
    rw [text_extract] at hv
    exact joinable_clean.of_extract hv

def paddedList : TaggedTree :=
  .node "ul" "" [] [.node "li" "\u00a0a " [] [], .node "li" " " [] [], .node "li" "b\n" [] []]

def listItems : Rule.Selection := ⟨⟨.triple, "li"⟩, [.each none [.text]]⟩

theorem clean_of_found_paddedList :
    ((Rule.select listItems).evaluate paddedList).result = .ok (some "a\nb") ∧
      (extract (some "\u00a0D'''li'''>#\n") paddedList).value = some "a\nb" ∧ Clean "a\nb" := by
  have hall : Scope.all paddedList "li" =
      .ok [.node "li" "\u00a0a " [] [], .node "li" " " [] [], .node "li" "b\n" [] []] := by
    simp [paddedList, Scope.all, TaggedTree.select, TaggedTree.children, TaggedTree.nodes,
      TaggedTree.tag]
  have hr : ((Rule.select listItems).evaluate paddedList).result = .ok (some "a\nb") := by
    rw [Rule.evaluate, listItems, Rule.evaluate_items, Evaluation.items, Evaluation.all, hall]
    decide +kernel
  have ht : trim "\u00a0D'''li'''>#\n" = "D'''li'''>#" := by decide +kernel
  have hp : Rule.parse "D'''li'''>#" = .ok (.select listItems) := by decide +kernel
  have hv : (extract (some "\u00a0D'''li'''>#\n") paddedList).value = some "a\nb" := by
    rw [value_extract, ht, Run.found_eq_some_iff]
    exact (tryExtract_eq_ok_iff hp).2 hr
  exact ⟨hr, hv, (clean_of_found paddedList).2.1 _ _ hv⟩

end PageExtract
