import PageExtract.CommandLine.Outcome
import PageExtract.Proofs.Json.Record

/-! # Rules and results are decoded as they were written

Main statement: the rules of a domain and what they found are read back from their JSON texts, so
what the command for a whole rule file prints decodes to what the rules found on the page.
-/
namespace PageExtract

theorem DomainRules.fits_toRecord (d : DomainRules) : d.toRecord.Fits DomainRules.shape where
  nodup := by simp [toRecord]
  known := by
    intro m hm
    simp only [toRecord, List.mem_cons, List.not_mem_nil, or_false] at hm
    rcases hm with rfl | rfl | rfl | rfl <;> simp [shape]

theorem ExtractedContent.fits_toRecord (c : ExtractedContent) :
    c.toRecord.Fits ExtractedContent.shape where
  nodup := by simp [toRecord]
  known := by
    intro m hm
    simp only [toRecord, List.mem_cons, List.not_mem_nil, or_false] at hm
    rcases hm with rfl | rfl | rfl <;> simp [shape]

section
variable {behind : String} (hbehind : Json.Blanks behind.toList)
include hbehind

theorem DomainRules.ofJson_toJson (d : DomainRules) : ofJson (d.toJson ++ behind) = .ok d := by
  rw [ofJson, toJson, Json.readRecord_compact d.fits_toRecord behind hbehind]
  rfl

theorem ExtractedContent.ofJson_toJson (c : ExtractedContent) :
    ofJson (c.toJson ++ behind) = .ok c := by
  rw [ofJson, toJson, Json.readRecord_compact c.fits_toRecord behind hbehind]
  rfl

theorem ExtractedContent.ofJson_toPrettyJson (c : ExtractedContent) :
    ofJson (c.toPrettyJson ++ behind) = .ok c := by
  rw [ofJson, toPrettyJson, Json.readRecord_pretty c.fits_toRecord behind hbehind]
  rfl

end

section
open CommandLine
variable {ν : Type} [Scope ν] (foreign : Foreign ν)

/-- The command for a rule file prints what the rules found. Where it has no rules or no page, it
fails and prints nothing. -/
theorem CommandLine.run_content (files : Files) (verbose : Bool) (rules page : String) :
    (∃ d html, files.domainRules foreign rules = .ok d ∧ files.text page = .ok html ∧
      (Invocation.run foreign files ⟨verbose, .content rules page⟩).code = 0 ∧
      (Invocation.run foreign files ⟨verbose, .content rules page⟩).printed =
        (d.extract (foreign.page html)).value.toPrettyJson ++ "\n") ∨
    ((∀ d html, files.domainRules foreign rules = .ok d → files.text page ≠ .ok html) ∧
      (Invocation.run foreign files ⟨verbose, .content rules page⟩).code = 1 ∧
      (Invocation.run foreign files ⟨verbose, .content rules page⟩).printed = "") := by
  simp only [Invocation.run, Command.run, extractAll]
  cases files.domainRules foreign rules with
  | error failure => exact .inr ⟨by simp, rfl, rfl⟩
  | ok d =>
    cases files.text page with
    | error failure => exact .inr ⟨by simp, rfl, rfl⟩
    | ok html => exact .inl ⟨d, html, rfl, rfl, rfl, rfl⟩

/-- Whatever texts the rules of a domain and a result hold, and whatever they lack, they are decoded
as they were written. However pages are read, the command for a rule file prints one text that
decodes to what the rules found on the page, or nothing where it has no rules or no page. -/
theorem decoded_as_written (d : DomainRules) (c : ExtractedContent) (files : Files)
    (verbose : Bool) (rules page : String) :
    DomainRules.ofJson d.toJson = .ok d ∧
    ExtractedContent.ofJson c.toJson = .ok c ∧
    ExtractedContent.ofJson c.toPrettyJson = .ok c ∧
    ((∃ e html, files.domainRules foreign rules = .ok e ∧ files.text page = .ok html ∧
        (Invocation.run foreign files ⟨verbose, .content rules page⟩).code = 0 ∧
        ExtractedContent.ofJson
            (Invocation.run foreign files ⟨verbose, .content rules page⟩).printed =
          .ok (e.extract (foreign.page html)).value) ∨
      ((∀ e html, files.domainRules foreign rules = .ok e → files.text page ≠ .ok html) ∧
        (Invocation.run foreign files ⟨verbose, .content rules page⟩).code = 1 ∧
        (Invocation.run foreign files ⟨verbose, .content rules page⟩).printed = "")) := by
  have hempty : Json.Blanks "".toList := Json.blanks_nil
  have hfeed : Json.Blanks "\n".toList := by simp [Json.Blanks, Json.isBlank]
  refine ⟨by simpa using d.ofJson_toJson hempty, by simpa using c.ofJson_toJson hempty,
    by simpa using c.ofJson_toPrettyJson hempty, ?_⟩
  rcases CommandLine.run_content foreign files verbose rules page with
    ⟨e, html, he, hhtml, hcode, hprinted⟩ | hfailed
  · left
    refine ⟨e, html, he, hhtml, hcode, ?_⟩
    rw [hprinted]
    exact ExtractedContent.ofJson_toPrettyJson hfeed _
  · exact .inr hfailed

end

end PageExtract
