import PageExtract.DomainRules
import PageExtract.Proofs.Text.Trim

/-! # Validating the rules of a domain

Rules are valid exactly if each field that has one has one that parses. Otherwise the first field
that does not is reported.
-/
namespace PageExtract
open Rule Text

namespace DomainRules

/-- The field has a rule that does not only hold blanks. -/
def Configures (d : DomainRules) (field : Field) (source : String) : Prop :=
  d.rule field = some source ∧ trim source ≠ ""

def Parses (d : DomainRules) (field : Field) : Prop :=
  ∀ source, d.Configures field source → ∃ rule, parse source = .ok rule

theorem filter_rule_eq_some_iff {d : DomainRules} {field : Field} {source : String} :
    (d.rule field).filter (!isBlankText ·) = some source ↔ d.Configures field source := by
  rw [Option.filter_eq_some_iff, Configures, ne_eq, trim_eq_empty_iff]
  simp

theorem fault?_eq_some_iff {d : DomainRules} {field : Field} {e : RuleError} :
    d.fault? field = some e ↔
      ∃ source, d.Configures field source ∧ parse source = .error e.error ∧
        e.domain = d.domain ∧ e.field = field := by
  simp only [← filter_rule_eq_some_iff, fault?]
  cases (d.rule field).filter (!isBlankText ·) with
  | none => simp
  | some source =>
    cases hp : parse source with
    | ok rule => simp [hp]
    | error e' =>
      rcases e with ⟨domain, f, error⟩
      simp [hp, and_comm, and_assoc, eq_comm]

theorem fault?_eq_none_iff {d : DomainRules} {field : Field} :
    d.fault? field = none ↔ d.Parses field := by
  simp only [Parses, ← filter_rule_eq_some_iff, fault?]
  cases (d.rule field).filter (!isBlankText ·) with
  | none => simp
  | some source => cases hp : parse source <;> simp [hp]

theorem validate_eq_ok_iff {d : DomainRules} :
    d.validate = .ok () ↔ ∀ field, d.Parses field := by
  have hall : d.validate = .ok () ↔ Field.all.findSome? d.fault? = none := by
    unfold validate
    cases Field.all.findSome? d.fault? <;> simp
  rw [hall, List.findSome?_eq_none_iff]
  constructor
  · intro h field
    exact fault?_eq_none_iff.1 (h field field.mem_all)
  · intro h field _
    exact fault?_eq_none_iff.2 (h field)

/-- The first field that does not parse is reported, with its own parse error. -/
theorem validate_eq_error_iff {d : DomainRules} {e : RuleError} :
    d.validate = .error e ↔
      ∃ before after source, Field.all = before ++ e.field :: after ∧
        (∀ field ∈ before, d.Parses field) ∧ d.Configures e.field source ∧
        parse source = .error e.error ∧ e.domain = d.domain := by
  have hfirst : d.validate = .error e ↔ Field.all.findSome? d.fault? = some e := by
    unfold validate
    cases Field.all.findSome? d.fault? <;> simp
  rw [hfirst, List.findSome?_eq_some_iff]
  constructor
  · rintro ⟨before, field, after, hsplit, hfault, hbefore⟩
    obtain ⟨source, hs, hp, hd, rfl⟩ := fault?_eq_some_iff.1 hfault
    exact ⟨before, after, source, hsplit, fun f hf => fault?_eq_none_iff.1 (hbefore f hf), hs, hp,
      hd⟩
  · rintro ⟨before, after, source, hsplit, hbefore, hs, hp, hd⟩
    exact ⟨before, e.field, after, hsplit, fault?_eq_some_iff.2 ⟨source, hs, hp, hd, rfl⟩,
      fun f hf => fault?_eq_none_iff.2 (hbefore f hf)⟩

end DomainRules

end PageExtract
