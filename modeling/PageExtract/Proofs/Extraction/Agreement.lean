import PageExtract.CommandLine.Outcome
import PageExtract.Proofs.Extraction.DomainRules
import PageExtract.Proofs.Rule.Margins
import PageExtract.TaggedTree

/-! # Whether the ways to run a rule agree

A rule is validated and tried as it is written, but extracted once trimmed. Main statement: the two
agree on every scope but where the trimmed rule finds a value and the rule as written does not
parse, for a blank at its ends that separates no tokens.
-/
namespace PageExtract
open Rule Text

def Run.found {κ ε α : Type} (r : Run κ ε (Option α)) : Option α :=
  match r.result with
  | .ok value => value
  | .error _ => none

def ExtractedContent.text (c : ExtractedContent) : Field → Option String
  | .title => c.title
  | .content => c.content
  | .thumbnail => c.thumbnail

/-- The rules whose margins hold no other blanks than separators. -/
def Separated (source : String) : Prop := ∀ c ∈ margins source, isSeparator c = true

section
variable {ν : Type} [Scope ν]

theorem text_extract (d : DomainRules) (field : Field) (scope : ν) :
    (d.extract scope).value.text field = (extract (d.rule field) scope).value := by
  cases field <;> rfl

omit [Scope ν] in
theorem fst_settle (r : Run (Call ν) ExtractError (Option String)) :
    (settle r.result).1 = r.found := by
  unfold Run.found
  rcases r.result with (_ | _ | _) | (_ | _) <;> rfl

theorem found_of_parse_error {source : String} {e : ParseError} (h : parse source = .error e)
    (scope : ν) : (tryExtract source scope).found = none := by
  rw [tryExtract, h]
  rfl

theorem parse_empty : parse "" = .error ⟨.emptyRule, Place.origin⟩ := by
  decide +kernel

/-- Extracting a rule is trying the trimmed rule and dropping its failures. -/
theorem value_extract (source : String) (scope : ν) :
    (extract (some source) scope).value = (tryExtract (trim source) scope).found := by
  by_cases h : trim source = ""
  · rw [h, found_of_parse_error parse_empty]
    simp [extract, trim?_eq, h]
  · simp [extract, trim?_of_ne h, fst_settle]

theorem parse_error_of_not_separated {source : String} (h : ¬ Separated source) :
    ∃ e, parse source = .error e := by
  cases hp : parse source with
  | error e => exact ⟨e, rfl⟩
  | ok rule => exact absurd (parse_eq_ok_iff_trim.1 hp).1 h

theorem found_trim_of_separated {source : String} (h : Separated source) (scope : ν) :
    (tryExtract (trim source) scope).found = (tryExtract source scope).found := by
  cases ht : parse (trim source) with
  | ok rule =>
    have hp : parse source = .ok rule := parse_eq_ok_iff_trim.2 ⟨h, ht⟩
    rw [tryExtract, tryExtract, ht, hp]
  | error e =>
    cases hp : parse source with
    | ok rule =>
      have htrim : parse (trim source) = .ok rule := (parse_eq_ok_iff_trim.1 hp).2
      simp [htrim] at ht
    | error e' => rw [found_of_parse_error ht, found_of_parse_error hp]

theorem value_extract_eq_iff {source : String} {scope : ν} :
    (extract (some source) scope).value = (tryExtract source scope).found ↔
      Separated source ∨ (tryExtract (trim source) scope).found = none := by
  rw [value_extract]
  by_cases h : Separated source
  · simp [h, found_trim_of_separated h]
  · obtain ⟨e, he⟩ := parse_error_of_not_separated h
    simp [h, found_of_parse_error he]

/-- What validation and the command line reject are the rules that do not parse. -/
theorem rejected_of_fault? {d : DomainRules} {field : Field} {source : String}
    (hd : d.rule field = some source) (hf : (d.fault? field).isSome) :
    ∃ e, parse source = .error e := by
  obtain ⟨e, he⟩ := Option.isSome_iff_exists.1 hf
  obtain ⟨source', ⟨hrule, -⟩, hp, -⟩ := DomainRules.fault?_eq_some_iff.1 he
  obtain rfl : source = source' := Option.some.inj (hd.symm.trans hrule)
  exact ⟨e.error, hp⟩

/-- Extracting a rule and trying it agree unless the trimmed rule finds a value that the rule as
written does not, for a blank at its ends that is no separator. Under the same condition a rule that
validation rejects finds nothing. -/
theorem extract_agrees_iff (source : String) (scope : ν) :
    ((extract (some source) scope).value = (tryExtract source scope).found ↔
      Separated source ∨ (tryExtract (trim source) scope).found = none) ∧
    (¬ Separated source → ∃ e, (tryExtract source scope).result = .error (.unparsable e)) ∧
    ∀ (d : DomainRules) (field : Field), d.rule field = some source → (d.fault? field).isSome →
      (∃ e, (CommandLine.check source).result = .error (.badRule e)) ∧
      ((d.extract scope).value.text field = none ↔
        Separated source ∨ (tryExtract (trim source) scope).found = none) := by
  refine ⟨value_extract_eq_iff, ?_, ?_⟩
  · intro h
    obtain ⟨e, he⟩ := parse_error_of_not_separated h
    refine ⟨e, ?_⟩
    rw [tryExtract, he]
    rfl
  · intro d field hd hf
    obtain ⟨e, he⟩ := rejected_of_fault? hd hf
    have hcheck : (CommandLine.check source).result = .error (.badRule e) := by
      rw [CommandLine.check, he]
      rfl
    refine ⟨⟨e, hcheck⟩, ?_⟩
    rw [text_extract, hd, ← value_extract_eq_iff, found_of_parse_error he]

end

/-- A no-break space before a rule is a blank, and no separator. -/
theorem extract_ne_tryExtract_noBreakSpace :
    ∃ page : TaggedTree, (extract (some "\u00a0D'h1'#") page).value = some "Title" ∧
      (tryExtract "\u00a0D'h1'#" page).found = none := by
  refine ⟨.node "page" "" [] [.node "h1" "Title" [] []], ?_, ?_⟩
  · have ht : trim "\u00a0D'h1'#" = "D'h1'#" := by decide +kernel
    have hp : parse "D'h1'#" = .ok (.select ⟨⟨.single, "h1"⟩, [.text]⟩) := by decide +kernel
    have hfirst : (TaggedTree.node "page" "" [] [.node "h1" "Title" [] []]).select "h1" =
        .ok [.node "h1" "Title" [] []] := by
      simp [TaggedTree.select, TaggedTree.children, TaggedTree.nodes, TaggedTree.tag]
    rw [value_extract, ht, tryExtract, hp]
    simp only [Rule.evaluate, Selection.evaluate, evaluateSelection, Evaluation.first, Scope.first,
      hfirst]
    decide +kernel
  · have hp : parse "\u00a0D'h1'#" = .error ⟨.lexical (.unexpected '\u00a0'), Place.origin⟩ := by
      decide +kernel
    exact found_of_parse_error hp _

end PageExtract
