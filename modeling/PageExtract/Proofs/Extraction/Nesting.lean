import PageExtract.Proofs.Extraction.Composition
import PageExtract.Proofs.Rule.Canonical

/-! # The nesting of alternatives is not written

A rule is written without brackets, so its text tells the alternatives and their order, not how they
nest. Main statement: the text of any rule whose alternatives can be written is read as the same
alternatives nested to the right, and the rule that is read makes the same runs.
-/
namespace PageExtract.Rule

theorem alternatives_ne_nil (rule : Rule) : rule.alternatives ≠ [] := by
  cases rule with
  | select s => simp
  | orElse first second => simp [alternatives_ne_nil first]

theorem exists_last_alternative (rule : Rule) :
    ∃ before last, rule.alternatives = before ++ [last] :=
  (List.eq_nil_or_concat' _).resolve_left rule.alternatives_ne_nil

theorem render_eq_intercalate (rule : Rule) :
    rule.render = String.intercalate " ? " (rule.alternatives.map Selection.render) := by
  induction rule with
  | select s => simp [render]
  | orElse first second ihFirst ihSecond =>
    have hf : first.alternatives.map Selection.render ≠ [] := by simp [alternatives_ne_nil first]
    have hs : second.alternatives.map Selection.render ≠ [] := by simp [alternatives_ne_nil second]
    rw [render, ihFirst, ihSecond, alternatives_orElse, List.map_append,
      String.intercalate_append_of_ne_nil hf hs]

theorem chain_append (selections more : List Selection) (rule : Rule) :
    chain (selections ++ more) rule = chain selections (chain more rule) := by
  rw [chain, List.foldr_append]
  rfl

/-- The linear form of a rule derives its alternatives nested to the right. -/
theorem derives_chain_of_alternatives {rule : Rule} (h : ∀ s ∈ rule.alternatives, s.WellFormed)
    {before : List Selection} {last : Selection} (hsplit : rule.alternatives = before ++ [last]) :
    Derives rule.kinds (chain before (select last)) := by
  induction rule generalizing before last with
  | select s =>
    obtain ⟨rfl, rfl⟩ : before = [] ∧ s = last := by
      cases before <;> simp_all
    exact derives_of_wellFormed (.term (h s (by simp)))
  | orElse first second ihFirst ihSecond =>
    rw [alternatives_orElse] at h hsplit
    obtain ⟨hfirst, hsecond⟩ := List.forall_mem_append.1 h
    obtain ⟨front, a, ha⟩ := first.exists_last_alternative
    obtain ⟨back, b, hb⟩ := second.exists_last_alternative
    have hd := derives_chain (ihFirst hfirst ha) (ihSecond hsecond hb)
    -- the last alternative of both rules is the last one of the second
    rw [hb, ← List.append_assoc] at hsplit
    obtain ⟨rfl, rfl⟩ := List.append_singleton_inj.1 hsplit
    simpa [Rule.kinds, ha, chain_append] using hd

theorem parse_render_of_alternatives {rule : Rule} (h : ∀ s ∈ rule.alternatives, s.WellFormed)
    {before : List Selection} {last : Selection} (hsplit : rule.alternatives = before ++ [last]) :
    parse rule.render = .ok (chain before (select last)) := by
  have hs : Scans (rule.render.toList ++ []) (rule.kinds ++ [.finish]) := scans_render h .finish
  rw [List.append_nil] at hs
  exact parse_eq_ok_iff_scans.2 ⟨rule.kinds, hs, derives_chain_of_alternatives h hsplit⟩

/-- The text of a rule is that of its alternatives with ` ? ` between them. Where each of them
occurs in some rule that can be written, the text is read as the alternatives nested to the right,
the text of each alternative as this alternative alone, and nothing but the nesting is lost: the
rule that is read makes the same calls with the same result. -/
theorem render_alternatives (rule : Rule) :
    rule.render = String.intercalate " ? " (rule.alternatives.map Selection.render) ∧
    ((∀ s ∈ rule.alternatives, ∃ source written, parse source = .ok written ∧
        s ∈ written.alternatives) →
      ∃ before last, rule.alternatives = before ++ [last] ∧
        parse rule.render = .ok (chain before (select last)) ∧
        (chain before (select last)).RightNested ∧
        (chain before (select last)).alternatives = rule.alternatives ∧
        (∀ s ∈ rule.alternatives, parse s.render = .ok (select s)) ∧
        ∀ (ν : Type) [Scope ν] (scope : ν),
          (chain before (select last)).evaluate scope = rule.evaluate scope) := by
  refine ⟨render_eq_intercalate rule, fun h => ?_⟩
  have hwritten : ∀ s ∈ rule.alternatives, s.WellFormed := by
    intro s hs
    obtain ⟨source, written, hp, hmem⟩ := h s hs
    exact (wellFormed_of_parse hp).of_mem hmem
  obtain ⟨before, last, hsplit⟩ := rule.exists_last_alternative
  have halternatives : (chain before (select last)).alternatives = rule.alternatives := by
    rw [alternatives_chain, alternatives_select, hsplit]
  refine ⟨before, last, hsplit, parse_render_of_alternatives hwritten hsplit,
    rightNested_chain before trivial, halternatives, ?_, ?_⟩
  · intro s hs
    exact parse_render_of_wellFormed (.term (hwritten s hs))
  · intro ν _ scope
    exact evaluate_congr halternatives scope

def leftNested : Rule :=
  .orElse
    (.orElse (.select ⟨⟨.single, "h1"⟩, [.text]⟩)
      (.select ⟨⟨.triple, "''p"⟩, [.each (some ⟨.single, "a"⟩) [.attr "href"]]⟩))
    (.select ⟨⟨.single, "b ? c"⟩, [.text]⟩)

theorem render_alternatives_leftNested :
    leftNested.render = "D'h1'# ? D'''''p'''>'a'@'href' ? D'b ? c'#" ∧
    ∃ rule, parse leftNested.render = .ok rule ∧ rule ≠ leftNested ∧ rule.RightNested ∧
      rule.alternatives = leftNested.alternatives ∧
      ∀ page : TaggedTree, rule.evaluate page = leftNested.evaluate page := by
  have hrender : leftNested.render = "D'h1'# ? D'''''p'''>'a'@'href' ? D'b ? c'#" := by
    decide +kernel
  have hwritten : ∀ s ∈ leftNested.alternatives, ∃ source written, parse source = .ok written ∧
      s ∈ written.alternatives := by
    have hall : ∀ s ∈ leftNested.alternatives, parse s.render = .ok (select s) := by decide +kernel
    intro s hs
    exact ⟨s.render, select s, hall s hs, by simp⟩
  obtain ⟨before, last, -, hp, hnested, halternatives, -, hrun⟩ :=
    (render_alternatives leftNested).2 hwritten
  refine ⟨hrender, _, hp, ?_, hnested, halternatives, hrun TaggedTree⟩
  intro heq
  rw [heq] at hnested
  obtain ⟨⟨s, hs⟩, -⟩ := hnested
  cases hs

end PageExtract.Rule
