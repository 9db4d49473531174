import PageExtract.Proofs.Evaluation.Faults
import PageExtract.Proofs.Extraction.Agreement

/-! # Validated rules run as they were validated

Rules are validated as written and run once trimmed. Main statement: where the rules of a domain are
valid, each field runs the very rule that was validated, and comes out empty only for a miss or a
rejected query. Rules that are not valid are reported by the first field that does not parse.
-/
namespace PageExtract
open Rule Text

section
variable {ν : Type} [Scope ν]

/-- An extraction that runs a rule makes its calls and finds its value, or nothing where a query is
rejected. -/
structure Extraction.RunsRule (x : Extraction (Call ν) (Option String)) (rule : Rule) (scope : ν) :
    Prop where
  calls : x.calls = (rule.evaluate scope).calls
  value : (rule.evaluate scope).result = .ok x.value ∨
    x.value = none ∧ ∃ fault, (rule.evaluate scope).result = .error (.rejected fault)
  notices : Notice.unparsable ∉ x.notices ∧ Notice.malformed ∉ x.notices

/-- The extraction of each field runs the rule that the field was validated with. -/
structure RunsAsValidated (d : DomainRules) (scope : ν) : Prop where
  value : ∀ field, (d.extract scope).value.text field = (extract (d.rule field) scope).value
  calls : (d.extract scope).calls =
    [Field.title, .content, .thumbnail].flatMap fun field => (extract (d.rule field) scope).calls
  /-- Nothing is asked for a field without a rule. -/
  unset : ∀ field, (∀ source, ¬ d.Configures field source) →
    extract (d.rule field) scope = ⟨none, [], [.noRule]⟩
  runs : ∀ field source, d.Configures field source →
    ∃ rule, parse source = .ok rule ∧ parse (trim source) = .ok rule ∧
      (extract (d.rule field) scope).RunsRule rule scope

theorem extract_of_not_configures {d : DomainRules} {field : Field}
    (h : ∀ source, ¬ d.Configures field source) (scope : ν) :
    extract (d.rule field) scope = ⟨none, [], [.noRule]⟩ := by
  have hrule : (d.rule field).bind trim? = none := by
    cases hd : d.rule field with
    | none => rfl
    | some source =>
      have hblank : trim source = "" := by
        by_contra hne
        exact h source ⟨hd, hne⟩
      simp [trim?_eq, hblank]
  rw [extract, hrule]

theorem runsRule_extract {source : String} {rule : Rule} (hne : trim source ≠ "")
    (hp : parse (trim source) = .ok rule) (scope : ν) :
    (extract (some source) scope).RunsRule rule scope := by
  have hextract : extract (some source) scope =
      ⟨(settle ((rule.evaluate scope).result.mapError .failed)).1, (rule.evaluate scope).calls,
        (settle ((rule.evaluate scope).result.mapError .failed)).2⟩ := by
    simp [extract, trim?_of_ne hne, tryExtract_of_ok hp]
  rw [hextract]
  rcases result_of_parse hp scope with ⟨found, hr⟩ | ⟨fault, hr⟩
  · rw [hr]
    refine ⟨rfl, .inl ?_, ?_⟩
    · rw [hr]
      cases found <;> rfl
    · cases found <;> simp [settle, Except.mapError]
  · rw [hr]
    exact ⟨rfl, .inr ⟨rfl, fault, hr⟩, by simp [settle, Except.mapError]⟩

theorem runsAsValidated_of_validate {d : DomainRules} (h : d.validate = .ok ()) (scope : ν) :
    RunsAsValidated d scope := by
  refine ⟨fun field => text_extract d field scope, ?_, ?_, ?_⟩
  · simp [DomainRules.extract, DomainRules.rule]
  · intro field hfield
    exact extract_of_not_configures hfield scope
  · intro field source hs
    obtain ⟨rule, hp⟩ := DomainRules.validate_eq_ok_iff.1 h field source hs
    have htrim : parse (trim source) = .ok rule := (parse_eq_ok_iff_trim.1 hp).2
    refine ⟨rule, hp, htrim, ?_⟩
    rw [hs.1]
    exact runsRule_extract hs.2 htrim scope

end

/-- Valid rules are run as they were validated. Rules are not valid exactly if one of them does not
parse, and the first such field is reported. -/
theorem validate_extract (d : DomainRules) :
    (d.validate = .ok () → ∀ (ν : Type) [Scope ν] (scope : ν), RunsAsValidated d scope) ∧
    ((∃ e, d.validate = .error e) ↔
      ∃ field source e, d.Configures field source ∧ parse source = .error e) ∧
    ∀ e, d.validate = .error e ↔
      ∃ before after source, [Field.title, .content, .thumbnail] = before ++ e.field :: after ∧
        (∀ field ∈ before, d.Parses field) ∧ d.Configures e.field source ∧
        parse source = .error e.error ∧ e.domain = d.domain := by
  refine ⟨fun hd ν _ scope => runsAsValidated_of_validate hd scope, ?_,
    fun e => DomainRules.validate_eq_error_iff⟩
  constructor
  · rintro ⟨e, he⟩
    obtain ⟨-, -, source, -, -, hs, hp, -⟩ := DomainRules.validate_eq_error_iff.1 he
    exact ⟨e.field, source, e.error, hs, hp⟩
  · rintro ⟨field, source, e, hs, hp⟩
    cases hv : d.validate with
    | error e => exact ⟨e, rfl⟩
    | ok u =>
      obtain ⟨rule, hok⟩ := DomainRules.validate_eq_ok_iff.1 hv field source hs
      simp [hok] at hp

def paddedTitle : DomainRules :=
  ⟨"example.com", some "\r\n D'h1'#\t", some " \u00a0", none⟩

def titled : TaggedTree := .node "page" "" [] [.node "h1" "Title" [] []]

theorem result_evaluate_titled :
    (Rule.evaluate (.select ⟨⟨.single, "h1"⟩, [.text]⟩) titled).result = .ok (some "Title") := by
  have hfirst : Scope.first titled "h1" = .ok (some (.node "h1" "Title" [] [])) := by
    simp [Scope.first, Except.map, titled, TaggedTree.select, TaggedTree.children,
      TaggedTree.nodes, TaggedTree.tag]
  rw [result_evaluate_text hfirst]
  decide +kernel

/-- A rule of blanks counts as absent. -/
theorem not_configures_content_paddedTitle (source : String) :
    ¬ paddedTitle.Configures .content source := by
  rintro ⟨hsource, hne⟩
  obtain rfl : " \u00a0" = source := Option.some.inj hsource
  exact hne (by decide +kernel)

theorem validate_extract_paddedTitle :
    paddedTitle.validate = .ok () ∧
      (paddedTitle.extract titled).value = ⟨some "Title", none, none⟩ ∧
      (extract (paddedTitle.rule .content) titled).calls = [] := by
  have hvalid : paddedTitle.validate = .ok () := by decide +kernel
  have hruns : RunsAsValidated paddedTitle titled :=
    (validate_extract paddedTitle).1 hvalid TaggedTree titled
  have hcontent : extract (paddedTitle.rule .content) titled = ⟨none, [], [.noRule]⟩ :=
    hruns.unset .content not_configures_content_paddedTitle
  have hthumbnail : extract (paddedTitle.rule .thumbnail) titled = ⟨none, [], [.noRule]⟩ := by
    refine hruns.unset .thumbnail ?_
    rintro source ⟨hsource, -⟩
    cases hsource
  have htitle : (extract (paddedTitle.rule .title) titled).value = some "Title" := by
    obtain ⟨rule, hp, -, hrule⟩ := hruns.runs .title _ ⟨rfl, by decide +kernel⟩
    have hparse : parse "\r\n D'h1'#\t" = .ok (.select ⟨⟨.single, "h1"⟩, [.text]⟩) := by
      decide +kernel
    obtain rfl := Except.ok.inj (hp.symm.trans hparse)
    rcases hrule.value with hvalue | ⟨-, fault, hfault⟩
    · exact Except.ok.inj (hvalue.symm.trans result_evaluate_titled)
    · simp [result_evaluate_titled] at hfault
  refine ⟨hvalid, ?_, by rw [hcontent]⟩
  have hfields : (paddedTitle.extract titled).value =
      ⟨(extract (paddedTitle.rule .title) titled).value,
        (extract (paddedTitle.rule .content) titled).value,
        (extract (paddedTitle.rule .thumbnail) titled).value⟩ := rfl
  rw [hfields, htitle, hcontent, hthumbnail]

end PageExtract
