import PageExtract.Proofs.Evaluation.Alternatives
import PageExtract.Proofs.Evaluation.Faults
import PageExtract.Proofs.Rule.Spelling
import PageExtract.TaggedTree

/-! # Rules with a `?` between them

Main statement: two texts of rules with `?` between them are the text of one rule, which tries the
alternatives of the first before those of the second. A value or failure of the first rule stays.
-/
namespace PageExtract.Rule

/-! ## The tokens of two texts -/

/-- The tokens of a text, then those of a text behind it that starts with no quote. -/
theorem Scans.append {cs ds : List Char} {kinds more : List Kind}
    (h : Scans cs (kinds ++ [.finish])) (hd : ds.head? ≠ some '\x27') (hmore : Scans ds more) :
    Scans (cs ++ ds) (kinds ++ more) := by
  generalize hall : kinds ++ [.finish] = all at h
  induction h generalizing kinds with
  | finish =>
    obtain rfl : kinds = [] := by simpa using hall
    exact hmore
  | skip hc _ ih => exact .skip hc (ih hall)
  | @mark c _ kind _ hc _ ih =>
    cases kinds with
    | nil =>
      obtain rfl : .finish = kind := (List.cons.inj hall).1
      exact absurd rfl (Kind.ne_finish_of_ofChar? hc)
    | cons _ kinds =>
      obtain ⟨rfl, hrest⟩ := List.cons.inj hall
      exact .mark hc (ih hrest)
  | @quoted q cs _ hq seam _ ih =>
    cases kinds with
    | nil => cases (List.cons.inj hall).1
    | cons _ kinds =>
      obtain ⟨rfl, hrest⟩ := List.cons.inj hall
      rw [List.append_assoc]
      refine .quoted hq (fun hempty => ?_) (ih hrest)
      -- at the end of the first text, the seam is with the second one
      cases cs with
      | nil => exact hd
      | cons => exact seam hempty

theorem scans_append_question {first second before behind : String} {kinds more : List Kind}
    (hf : Scans first.toList (kinds ++ [.finish])) (hs : Scans second.toList more)
    (hbefore : Separates before) (hbehind : Separates behind) :
    Scans (first ++ before ++ "?" ++ behind ++ second).toList (kinds ++ .question :: more) := by
  have hmark : Scans ('?' :: (behind.toList ++ second.toList)) (.question :: more) :=
    .mark rfl ((scans_gap_iff hbehind).2 hs)
  have hgap := (scans_gap_iff hbefore).2 hmark
  have hhead : (before.toList ++ '?' :: (behind.toList ++ second.toList)).head? ≠ some '\x27' := by
    have hquote := hbefore.head?_ne_quote
    cases h : before.toList with
    | nil => simp
    | cons c cs => simpa [h] using hquote
  simpa [String.toList_append] using hf.append hhead hgap

/-! ## One rule of two -/

/-- The selections are tried one after the other, before the rule. -/
def chain (selections : List Selection) (rule : Rule) : Rule :=
  selections.foldr (fun s more => orElse (select s) more) rule

@[simp] theorem chain_nil (rule : Rule) : chain [] rule = rule := rfl

@[simp] theorem chain_cons (s : Selection) (selections : List Selection) (rule : Rule) :
    chain (s :: selections) rule = orElse (select s) (chain selections rule) := rfl

@[simp] theorem alternatives_chain (selections : List Selection) (rule : Rule) :
    (chain selections rule).alternatives = selections ++ rule.alternatives := by
  induction selections with
  | nil => rfl
  | cons s selections ih => rw [chain_cons, alternatives_orElse, ih]; rfl

theorem rightNested_chain (selections : List Selection) {rule : Rule} (h : rule.RightNested) :
    (chain selections rule).RightNested := by
  induction selections with
  | nil => exact h
  | cons s selections ih => exact ⟨⟨s, rfl⟩, ih⟩

theorem derives_chain {kinds more : List Kind} {first second : Rule} (h : Derives kinds first)
    (hmore : Derives more second) :
    Derives (kinds ++ .question :: more) (chain first.alternatives second) := by
  induction h with
  | term h => exact .chain h hmore
  | chain h _ ih =>
    rw [List.cons_append, List.append_assoc]
    exact .chain h ih

theorem parse_append_question {first second before behind : String} {r s : Rule}
    (hr : parse first = .ok r) (hs : parse second = .ok s) (hbefore : Separates before)
    (hbehind : Separates behind) :
    parse (first ++ before ++ "?" ++ behind ++ second) = .ok (chain r.alternatives s) := by
  obtain ⟨kinds, hscan, hd⟩ := parse_eq_ok_iff_scans.1 hr
  obtain ⟨more, hscan', hd'⟩ := parse_eq_ok_iff_scans.1 hs
  refine parse_eq_ok_iff_scans.2 ⟨_, ?_, derives_chain hd hd'⟩
  rw [List.append_assoc, List.cons_append]
  exact scans_append_question hscan hscan' hbefore hbehind

/-! ## What it finds -/

/-- Rules with the same alternatives make the same runs. -/
theorem evaluate_congr {ν : Type} [Scope ν] {r s : Rule} (h : r.alternatives = s.alternatives)
    (scope : ν) : r.evaluate scope = s.evaluate scope := by
  rw [evaluate_eq_firstHit, evaluate_eq_firstHit, h]

/-- Texts of rules compose with `?` between them. The second rule runs only where the first one
neither finds a value nor fails, so it never takes a value away. -/
theorem parse_append_question_evaluate {first second before behind : String} {r s : Rule}
    (hr : parse first = .ok r) (hs : parse second = .ok s) (hbefore : Separates before)
    (hbehind : Separates behind) :
    ∃ rule, parse (first ++ before ++ "?" ++ behind ++ second) = .ok rule ∧ rule.RightNested ∧
      rule.alternatives = r.alternatives ++ s.alternatives ∧
      ∀ (ν : Type) [Scope ν] (scope : ν),
        rule.evaluate scope = (orElse r s).evaluate scope ∧
        ((r.evaluate scope).result ≠ .ok none → rule.evaluate scope = r.evaluate scope) ∧
        ((r.evaluate scope).result = .ok none →
          (rule.evaluate scope).result = (s.evaluate scope).result) ∧
        ∀ value, (tryExtract first scope).result = .ok (some value) →
          (tryExtract (first ++ before ++ "?" ++ behind ++ second) scope).result =
            .ok (some value) := by
  have hp := parse_append_question hr hs hbefore hbehind
  have hnested : s.RightNested := (wellFormed_iff.1 (wellFormed_of_parse hs)).1
  refine ⟨_, hp, rightNested_chain _ hnested, alternatives_chain _ _, ?_⟩
  intro ν _ scope
  have hrun : (chain r.alternatives s).evaluate scope = (orElse r s).evaluate scope :=
    evaluate_congr (alternatives_chain _ _) scope
  have hkept : ¬ (r.evaluate scope).Misses →
      (chain r.alternatives s).evaluate scope = r.evaluate scope := by
    intro h
    rw [hrun, evaluate_orElse, Run.orElse_of_not_misses h]
  refine ⟨hrun, hkept, ?_, ?_⟩
  · intro h
    rw [hrun, evaluate_orElse, Run.orElse_of_misses h]
  · intro value hvalue
    have hfound : (r.evaluate scope).result = .ok (some value) :=
      (tryExtract_eq_ok_iff hr).1 hvalue
    have hne : ¬ (r.evaluate scope).Misses := by simp [Run.Misses, hfound]
    rw [tryExtract_eq_ok_iff hp, hkept hne, hfound]

/-- A rule with a fallback of its own, and one behind a line break. -/
theorem parse_append_question_evaluate_fallback :
    ∃ r s rule, parse "D'h1'#?D'h2'#" = .ok r ∧ parse "D'''p'''>@'id'" = .ok s ∧
      parse "D'h1'#?D'h2'#\n?\t D'''p'''>@'id'" = .ok rule ∧
      rule.alternatives = [⟨⟨.single, "h1"⟩, [.text]⟩, ⟨⟨.single, "h2"⟩, [.text]⟩,
        ⟨⟨.triple, "p"⟩, [.each none [.attr "id"]]⟩] ∧
      ∀ page : TaggedTree, (r.evaluate page).result ≠ .ok none →
        rule.evaluate page = r.evaluate page := by
  have hr : parse "D'h1'#?D'h2'#" = .ok (.orElse (.select ⟨⟨.single, "h1"⟩, [.text]⟩)
      (.select ⟨⟨.single, "h2"⟩, [.text]⟩)) := by
    decide +kernel
  have hs : parse "D'''p'''>@'id'" =
      .ok (.select ⟨⟨.triple, "p"⟩, [.each none [.attr "id"]]⟩) := by
    decide +kernel
  have hbefore : Separates "\n" := by simp [Separates, isSeparator]
  have hbehind : Separates "\t " := by simp [Separates, isSeparator]
  obtain ⟨rule, hp, -, halternatives, hrun⟩ :=
    parse_append_question_evaluate hr hs hbefore hbehind
  refine ⟨_, _, rule, hr, hs, hp, by simpa using halternatives, ?_⟩
  intro page
  exact (hrun TaggedTree page).2.1

end PageExtract.Rule
