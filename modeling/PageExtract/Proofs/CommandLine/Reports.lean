import PageExtract.CommandLine.Report
import PageExtract.Proofs.Extraction.CleanValues
import PageExtract.Proofs.Extraction.Decoding
import PageExtract.Proofs.Extraction.Validation
import PageExtract.Proofs.Page.Queries
import PageExtract.Proofs.Rule.Canonical

/-! # A command reports a whole result or one failure

What a command gives and why it fails is said without the order in which it works: a result needs
every file that the command names, and a failure is the first thing on the way that is wrong. Main
statement: however pages are read, a run either prints the whole result and exits with zero, or
prints nothing, reports one failure and exits with one.
-/
namespace PageExtract.CommandLine
open Text

/-! ## Files -/

def Files.Reads (files : Files) (path text : String) : Prop := files path = .file text.toUTF8

inductive Files.Unread (files : Files) (path : String) : Failure → Prop
  | missing (h : files path = .missing) : files.Unread path (.missingFile path)
  | unreadable {reason : String} (h : files path = .unreadable reason) :
      files.Unread path (.unreadableFile path reason)
  | notText {content : ByteArray} (h : files path = .file content)
      (hbytes : ∀ text : String, content ≠ text.toUTF8) :
      files.Unread path (.unreadableFile path "stream did not contain valid UTF-8")

theorem fromUTF8?_eq_some_iff {bytes : ByteArray} {s : String} :
    String.fromUTF8? bytes = some s ↔ bytes = s.toUTF8 := by
  constructor
  · intro h
    unfold String.fromUTF8? at h
    split at h
    · rw [← Option.some.inj h]
      rfl
    · cases h
  · rintro rfl
    rw [String.fromUTF8?, String.toUTF8_eq_toByteArray, dif_pos s.isValidUTF8]
    rfl

section
variable {files : Files} {path : String}

theorem Files.Reads.text_eq {s : String} (h : files.Reads path s) : files.text path = .ok s := by
  have htext : String.fromUTF8? s.toUTF8 = some s := fromUTF8?_eq_some_iff.2 rfl
  rw [Files.text, h]
  simp only [htext]

theorem Files.Unread.text_eq {failure : Failure} (h : files.Unread path failure) :
    files.text path = .error failure := by
  cases h with
  | missing h => rw [Files.text, h]
  | unreadable h => rw [Files.text, h]
  | @notText content h hbytes =>
    have hnone : String.fromUTF8? content = none := by
      refine Option.eq_none_iff_forall_ne_some.2 fun s hs => ?_
      exact hbytes s (fromUTF8?_eq_some_iff.1 hs)
    rw [Files.text, h]
    simp only [hnone]

/-- A path can be read, or there is a reason why not. -/
theorem Files.reads_or_unread (files : Files) (path : String) :
    (∃ text, files.Reads path text) ∨ ∃ failure, files.Unread path failure := by
  cases h : files path with
  | missing => exact .inr ⟨_, .missing h⟩
  | unreadable reason => exact .inr ⟨_, .unreadable h⟩
  | file content =>
    by_cases hbytes : ∃ text : String, content = text.toUTF8
    · obtain ⟨text, rfl⟩ := hbytes
      exact .inl ⟨text, h⟩
    · exact .inr ⟨_, .notText h fun text ht => hbytes ⟨text, ht⟩⟩

end

/-! ## Results and failures -/

/-- The files hold rules of a domain that all parse, and a page. -/
structure Files.Supplies (files : Files) (rules page : String) (d : DomainRules) (html : String) :
    Prop where
  decoded : ∃ json, files.Reads rules json ∧ DomainRules.ofJson json = .ok d
  parses : ∀ field, d.Parses field
  read : files.Reads page html

section
variable {ν : Type} [Scope ν] (foreign : Foreign ν) (files : Files)

/-- What a command has to give. A rule or a record that is printed reads back as it was. -/
inductive Command.Gives : Command → Result → Prop
  | canonical {source : String} {rule : Rule} (h : Rule.parse source = .ok rule)
      (hback : Rule.parse rule.render = .ok rule) : Gives (.check source) ⟨rule.render, none⟩
  | value {source page html value : String} (hpage : files.Reads page html)
      (hvalue : (PageExtract.extract (some source) (foreign.page html)).value = some value)
      (hclean : Clean value) : Gives (.extract source page) ⟨value, none⟩
  | complete {rules page html : String} {d : DomainRules} {found : ExtractedContent}
      (h : files.Supplies rules page d html)
      (hfound : (d.extract (foreign.page html)).value = found)
      (hback : ExtractedContent.ofJson found.toPrettyJson = .ok found)
      (hboth : found.title ≠ none ∧ found.content ≠ none) :
      Gives (.content rules page) ⟨found.toPrettyJson, none⟩
  | incomplete {rules page html : String} {d : DomainRules} {found : ExtractedContent}
      (h : files.Supplies rules page d html)
      (hfound : (d.extract (foreign.page html)).value = found)
      (hback : ExtractedContent.ofJson found.toPrettyJson = .ok found)
      (hmissing : found.title = none ∨ found.content = none) :
      Gives (.content rules page) ⟨found.toPrettyJson, some (incompleteWarning d.domain)⟩

/-- Why a command fails. What stands in front of the reason is all right. -/
inductive Command.Fails : Command → Failure → Prop
  | badRule {source : String} {e : Rule.ParseError} (h : Rule.parse source = .error e) :
      Fails (.check source) (.badRule e)
  | noPage {source page : String} {failure : Failure} (h : files.Unread page failure) :
      Fails (.extract source page) failure
  | nothingFound {source page html : String} (hpage : files.Reads page html)
      (h : (PageExtract.extract (some source) (foreign.page html)).value = none) :
      Fails (.extract source page) (.nothingFound page)
  | noRules {rules page : String} {failure : Failure} (h : files.Unread rules failure) :
      Fails (.content rules page) failure
  | undecoded {rules page json : String} {fault : Json.Fault} (hrules : files.Reads rules json)
      (h : DomainRules.ofJson json = .error fault) :
      Fails (.content rules page) (.badRules rules (foreign.complaint json fault))
  | invalid {rules page json : String} {d : DomainRules} {e : RuleError}
      (hrules : files.Reads rules json) (hd : DomainRules.ofJson json = .ok d)
      (h : d.validate = .error e) : Fails (.content rules page) (.badDomainRule e)
  | noContentPage {rules page json : String} {d : DomainRules} {failure : Failure}
      (hrules : files.Reads rules json) (hd : DomainRules.ofJson json = .ok d)
      (hparses : ∀ field, d.Parses field) (h : files.Unread page failure) :
      Fails (.content rules page) failure

end

theorem isCrawlable_iff {found : ExtractedContent} :
    found.isCrawlable = true ↔ found.title ≠ none ∧ found.content ≠ none := by
  rw [ExtractedContent.isCrawlable, Bool.and_eq_true, Option.isSome_iff_ne_none,
    Option.isSome_iff_ne_none]

theorem not_isCrawlable_iff {found : ExtractedContent} :
    ¬ found.isCrawlable = true ↔ found.title = none ∨ found.content = none := by
  rw [isCrawlable_iff, not_and_or, not_not, not_not]

theorem reads_back (found : ExtractedContent) :
    ExtractedContent.ofJson found.toPrettyJson = .ok found := by
  have hempty : Json.Blanks "".toList := Json.blanks_nil
  simpa using found.ofJson_toPrettyJson hempty

section
variable {ν : Type} {foreign : Foreign ν} {files : Files} {rules page html : String}
  {d : DomainRules}

theorem Files.Supplies.domainRules_eq (h : files.Supplies rules page d html) :
    files.domainRules foreign rules = .ok d := by
  obtain ⟨⟨json, hread, hd⟩, hparses, -⟩ := h
  simp only [Files.domainRules, hread.text_eq, hd, DomainRules.validate_eq_ok_iff.2 hparses]

variable [Scope ν]

/-- Where everything is supplied there is a result, with a warning if something was not found. -/
theorem Files.Supplies.exists_gives (h : files.Supplies rules page d html) :
    ∃ result, (Command.content rules page).Gives foreign files result := by
  have hback := reads_back (d.extract (foreign.page html)).value
  by_cases hfound : (d.extract (foreign.page html)).value.isCrawlable = true
  · exact ⟨_, .complete h rfl hback (isCrawlable_iff.1 hfound)⟩
  · exact ⟨_, .incomplete h rfl hback (not_isCrawlable_iff.1 hfound)⟩

end

section
variable {ν : Type} [Scope ν] {foreign : Foreign ν} {files : Files} {c : Command}

theorem Command.Gives.result_eq {result : Result} (h : c.Gives foreign files result) :
    (c.run foreign files).result = .ok result := by
  cases h with
  | canonical h _ => simp only [Command.run, CommandLine.check, h]
  | value hpage hvalue _ => simp only [Command.run, extractOne, hpage.text_eq, hvalue]
  | complete h hfound _ hboth =>
    simp only [Command.run, extractAll, h.domainRules_eq, h.read.text_eq, hfound,
      isCrawlable_iff.2 hboth, if_true]
  | incomplete h hfound _ hmissing =>
    simp only [Command.run, extractAll, h.domainRules_eq, h.read.text_eq, hfound,
      if_neg (not_isCrawlable_iff.2 hmissing)]

/-- An empty text is no rule, no value and no record. -/
theorem Command.Gives.text_ne_empty {result : Result} (h : c.Gives foreign files result) :
    result.text ≠ "" := by
  have hrecord : ∀ found, ExtractedContent.ofJson "" ≠ .ok found := by
    intro found hfound
    cases hfound
  have hrule : ∀ rule, Rule.parse "" ≠ .ok rule := by
    intro rule hok
    rw [parse_empty] at hok
    cases hok
  cases h with
  | @canonical _ rule _ hback => exact fun hempty => hrule rule (hempty ▸ hback)
  | value _ _ hclean => exact hclean.ne_empty
  | @complete _ _ _ _ found _ _ hback _ => exact fun hempty => hrecord found (hempty ▸ hback)
  | @incomplete _ _ _ _ found _ _ hback _ => exact fun hempty => hrecord found (hempty ▸ hback)

/-- The command for a rule file fails before it finds anything. -/
theorem Command.Fails.content_eq {rules page : String} {failure : Failure}
    (h : (Command.content rules page).Fails foreign files failure) :
    (Command.content rules page).run foreign files = .failed failure := by
  cases h with
  | noRules h => simp only [Command.run, extractAll, Files.domainRules, h.text_eq]
  | undecoded hrules h => simp only [Command.run, extractAll, Files.domainRules, hrules.text_eq, h]
  | invalid hrules hd h =>
    simp only [Command.run, extractAll, Files.domainRules, hrules.text_eq, hd, h]
  | noContentPage hrules hd hparses h =>
    simp only [Command.run, extractAll, Files.domainRules, hrules.text_eq, hd,
      DomainRules.validate_eq_ok_iff.2 hparses, h.text_eq]

theorem Command.Fails.result_eq {failure : Failure} (h : c.Fails foreign files failure) :
    (c.run foreign files).result = .error failure := by
  cases c with
  | check source =>
    cases h with
    | badRule h => simp only [Command.run, CommandLine.check, h, Outcome.failed]
  | extract source page =>
    cases h with
    | noPage h => simp only [Command.run, extractOne, h.text_eq, Outcome.failed]
    | nothingFound hpage h => simp only [Command.run, extractOne, hpage.text_eq, h]
  | content rules page =>
    rw [h.content_eq]
    rfl

/-- A command that does not fail gives a result. -/
theorem Command.gives_or_fails (foreign : Foreign ν) (files : Files) (c : Command) :
    (∃ result, c.Gives foreign files result) ∨ ∃ failure, c.Fails foreign files failure := by
  cases c with
  | check source =>
    cases h : Rule.parse source with
    | ok rule =>
      have hback := Rule.parse_render_of_wellFormed (Rule.wellFormed_of_parse h)
      exact .inl ⟨_, .canonical h hback⟩
    | error e => exact .inr ⟨_, .badRule h⟩
  | extract source page =>
    rcases files.reads_or_unread page with ⟨html, hpage⟩ | ⟨failure, hpage⟩
    · cases h : (PageExtract.extract (some source) (foreign.page html)).value with
      | some value => exact .inl ⟨_, .value hpage h (joinable_clean.of_extract h)⟩
      | none => exact .inr ⟨_, .nothingFound hpage h⟩
    · exact .inr ⟨_, .noPage hpage⟩
  | content rules page =>
    rcases files.reads_or_unread rules with ⟨json, hrules⟩ | ⟨failure, hrules⟩
    · cases hd : DomainRules.ofJson json with
      | error fault => exact .inr ⟨_, .undecoded hrules hd⟩
      | ok d =>
        cases hvalid : d.validate with
        | error e => exact .inr ⟨_, .invalid hrules hd hvalid⟩
        | ok u =>
          have hparses := DomainRules.validate_eq_ok_iff.1 hvalid
          rcases files.reads_or_unread page with ⟨html, hpage⟩ | ⟨failure, hpage⟩
          · exact .inl (Files.Supplies.exists_gives ⟨⟨json, hrules, hd⟩, hparses, hpage⟩)
          · exact .inr ⟨_, .noContentPage hrules hd hparses hpage⟩
    · exact .inr ⟨_, .noRules hrules⟩

theorem Command.Gives.exists_supplies {rules page : String} {result : Result}
    (h : (Command.content rules page).Gives foreign files result) :
    ∃ d html, files.Supplies rules page d html := by
  cases h with
  | complete h => exact ⟨_, _, h⟩
  | incomplete h => exact ⟨_, _, h⟩

end

/-! ## Notices -/

/-- A rule that parses, or none at all, leaves no notice of a rule that does not parse or is
malformed. -/
theorem sound_of_parses {ν : Type} [Scope ν] {d : DomainRules} (h : ∀ field, d.Parses field)
    (scope : ν) (field : Field) :
    Notice.unparsable ∉ (PageExtract.extract (d.rule field) scope).notices ∧
      Notice.malformed ∉ (PageExtract.extract (d.rule field) scope).notices := by
  have hruns : RunsAsValidated d scope :=
    runsAsValidated_of_validate (DomainRules.validate_eq_ok_iff.2 h) scope
  by_cases hset : ∃ source, d.Configures field source
  · obtain ⟨source, hsource⟩ := hset
    obtain ⟨rule, -, -, hrule⟩ := hruns.runs field source hsource
    exact hrule.notices
  · rw [hruns.unset field fun source hsource => hset ⟨source, hsource⟩]
    simp

theorem sound_extract {ν : Type} [Scope ν] {d : DomainRules} (h : ∀ field, d.Parses field)
    (scope : ν) :
    Notice.unparsable ∉ (d.extract scope).notices ∧
      Notice.malformed ∉ (d.extract scope).notices := by
  have hfield := sound_of_parses h scope
  have htitle := hfield .title
  have hcontent := hfield .content
  have hthumbnail := hfield .thumbnail
  simp only [DomainRules.rule] at htitle hcontent hthumbnail
  simp only [DomainRules.extract, List.mem_append, not_or]
  split <;> simp [htitle, hcontent, hthumbnail]

section
variable {ν : Type} [Scope ν] {foreign : Foreign ν} {files : Files} {i : Invocation}

theorem exists_of_mem_notices {rules page : String} {n : Notice}
    (h : n ∈ ((Command.content rules page).run foreign files).notices) :
    ∃ d html, files.Supplies rules page d html ∧ n ∈ (d.extract (foreign.page html)).notices := by
  rcases (Command.content rules page).gives_or_fails foreign files with ⟨_, hg⟩ | ⟨_, hf⟩
  · obtain ⟨d, html, hs⟩ := hg.exists_supplies
    simp only [Command.run, extractAll, hs.domainRules_eq, hs.read.text_eq] at h
    exact ⟨d, html, hs, h⟩
  · rw [hf.content_eq] at h
    cases h

theorem notices_subset : (i.run foreign files).notices ⊆ (i.command.run foreign files).notices := by
  have hnotices : (i.run foreign files).notices =
      (i.command.run foreign files).notices.filter (shows i.verbose) := by
    rw [Invocation.run, Outcome.report]
    split <;> rfl
  rw [hnotices]
  exact List.filter_subset_self _

theorem message_of_ne {n : Notice} (hunparsable : n ≠ .unparsable) (hmalformed : n ≠ .malformed) :
    n.message ≠ "extraction rule does not parse" ∧ n.message ≠ "extraction rule is malformed" := by
  cases n <;> simp_all [Notice.message]

/-- Only rules that all parse are run, and these leave no such notice. -/
theorem sound_notices {rules page : String} (hc : i.command = .content rules page) :
    ∀ n ∈ (i.run foreign files).notices,
      n.message ≠ "extraction rule does not parse" ∧
        n.message ≠ "extraction rule is malformed" := by
  intro n hn
  have hrun : n ∈ ((Command.content rules page).run foreign files).notices :=
    hc ▸ notices_subset hn
  obtain ⟨d, html, hs, hextract⟩ := exists_of_mem_notices hrun
  obtain ⟨hunparsable, hmalformed⟩ := sound_extract hs.parses (foreign.page html)
  refine message_of_ne ?_ ?_
  · rintro rfl
    exact hunparsable hextract
  · rintro rfl
    exact hmalformed hextract

/-! ## Reports -/

theorem report_of_gives {result : Result} (h : i.command.Gives foreign files result) :
    (i.run foreign files).code = 0 ∧ (i.run foreign files).printed = result.text ++ "\n" ∧
      (i.run foreign files).messages = result.warning.toList := by
  rw [Invocation.run, Outcome.report, h.result_eq]
  exact ⟨rfl, rfl, rfl⟩

theorem report_of_fails {failure : Failure} (h : i.command.Fails foreign files failure) :
    (i.run foreign files).code = 1 ∧ (i.run foreign files).printed = "" ∧
      (i.run foreign files).messages = [failure.message] := by
  rw [Invocation.run, Outcome.report, h.result_eq]
  exact ⟨rfl, rfl, rfl⟩

theorem report_cases (foreign : Foreign ν) (files : Files) (i : Invocation) :
    ((i.run foreign files).code = 0 ∧ ∃ result, i.command.Gives foreign files result ∧
        result.text ≠ "" ∧ (i.run foreign files).printed = result.text ++ "\n" ∧
        (i.run foreign files).messages = result.warning.toList) ∨
      (i.run foreign files).code = 1 ∧ (i.run foreign files).printed = "" ∧
        ∃ failure, i.command.Fails foreign files failure ∧
          (i.run foreign files).messages = [failure.message] := by
  rcases i.command.gives_or_fails foreign files with ⟨result, hg⟩ | ⟨failure, hf⟩
  · obtain ⟨hcode, hprinted, hmessages⟩ := report_of_gives hg
    exact .inl ⟨hcode, result, hg, hg.text_ne_empty, hprinted, hmessages⟩
  · obtain ⟨hcode, hprinted, hmessages⟩ := report_of_fails hf
    exact .inr ⟨hcode, hprinted, failure, hf, hmessages⟩

theorem code_eq_zero_iff {rules page : String} (hc : i.command = .content rules page) :
    (i.run foreign files).code = 0 ↔ ∃ d html, files.Supplies rules page d html := by
  constructor
  · intro hcode
    rcases report_cases foreign files i with ⟨-, result, hg, -⟩ | ⟨hfailed, -⟩
    · rw [hc] at hg
      exact hg.exists_supplies
    · rw [hfailed] at hcode
      cases hcode
  · rintro ⟨d, html, hs⟩
    obtain ⟨result, hg⟩ : ∃ result, i.command.Gives foreign files result := by
      rw [hc]
      exact hs.exists_gives
    exact (report_of_gives hg).1

end

/-- However pages are read, a command prints its whole result and exits with zero, or prints
nothing, reports what is wrong and exits with one. The command for a rule file does the former
exactly if its files supply rules that parse and a page, and then has nothing to say about rules
that do not parse. -/
theorem run_all_or_nothing {ν : Type} [Scope ν] (foreign : Foreign ν) (files : Files)
    (args : List String) {i : Invocation} (h : Invocation.ofArguments args = .ok i) :
    ((runWith foreign files args).code = 0 ∧ (∃ result, i.command.Gives foreign files result ∧
          result.text ≠ "" ∧ (runWith foreign files args).printed = result.text ++ "\n" ∧
          (runWith foreign files args).messages = result.warning.toList) ∨
      (runWith foreign files args).code = 1 ∧ (runWith foreign files args).printed = "" ∧
        ∃ failure, i.command.Fails foreign files failure ∧
          (runWith foreign files args).messages = [failure.message]) ∧
    ((runWith foreign files args).code = 1 ↔ (runWith foreign files args).printed = "") ∧
    ∀ rules page, i.command = .content rules page →
      ((runWith foreign files args).code = 0 ↔ ∃ d html, files.Supplies rules page d html) ∧
      ∀ n ∈ (runWith foreign files args).notices,
        n.message ≠ "extraction rule does not parse" ∧
          n.message ≠ "extraction rule is malformed" := by
  have hrun : runWith foreign files args = i.run foreign files := by rw [runWith, h]
  rw [hrun]
  refine ⟨report_cases foreign files i, ?_,
    fun rules page hc => ⟨code_eq_zero_iff hc, sound_notices hc⟩⟩
  rcases report_cases foreign files i with ⟨hcode, _, -, -, hprinted, -⟩ | ⟨hcode, hprinted, -⟩
  · simp [hcode, hprinted]
  · simp [hcode, hprinted]

/-- A rule for the title with blanks around it, and a blank rule for the content. -/
def paddedFiles : Files := fun path =>
  if path = "rules.json" then .file paddedTitle.toJson.toUTF8
  else if path = "page.html" then .file "<h1>Title</h1>".toUTF8
  else .missing

theorem paddedFiles_supplies :
    paddedFiles.Supplies "rules.json" "page.html" paddedTitle "<h1>Title</h1>" where
  decoded := by
    have hempty : Json.Blanks "".toList := Json.blanks_nil
    exact ⟨paddedTitle.toJson, rfl, by simpa using paddedTitle.ofJson_toJson hempty⟩
  parses := DomainRules.validate_eq_ok_iff.1 (by decide +kernel)
  read := rfl

def titlePage : Page :=
  ⟨⟨"html", []⟩, [.element ⟨"head", []⟩ [],
    .element ⟨"body", []⟩ [.element ⟨"h1", []⟩ [.text "Title"]]]⟩

def titleElement : Element :=
  ⟨⟨"h1", []⟩, [.text "Title"],
    [⟨⟨"body", []⟩, [], []⟩, ⟨⟨"html", []⟩, [.element ⟨"head", []⟩ []], []⟩]⟩

theorem page_paddedFiles : (libraries Page.ofHtml).page "<h1>Title</h1>" = .page titlePage := by
  have hpage : Page.ofHtml "<h1>Title</h1>" = titlePage := by with_unfolding_all rfl
  exact congrArg PageNode.page hpage

theorem result_evaluate_titlePage :
    (Rule.evaluate (.select ⟨⟨.single, "h1"⟩, [.text]⟩) (PageNode.page titlePage)).result =
      .ok (some "Title") := by
  have hread : SelectorEngine.read "h1" = .ok [Css.Selector.compound [.name "h1"]] := by
    with_unfolding_all rfl
  have hfirst : Scope.first (PageNode.page titlePage) "h1" =
      .ok (some (.element titleElement)) := by
    rw [PageNode.first_of_name hread]
    simp [titlePage, titleElement, PageNode.candidates, Page.elements, Page.root,
      Element.descendants, Element.elementsFrom]
  have htext : Scope.text (PageNode.element titleElement) = "Title" := by
    simp [Scope.text, PageNode.text, Element.text, titleElement, Node.allText]
  rw [Rule.result_evaluate_text hfirst, htext]
  decide +kernel

theorem extract_paddedTitle {ν : Type} [Scope ν] {scope : ν}
    (h : (Rule.evaluate (.select ⟨⟨.single, "h1"⟩, [.text]⟩) scope).result = .ok (some "Title")) :
    (paddedTitle.extract scope).value = ⟨some "Title", none, none⟩ := by
  have htitle : (PageExtract.extract (paddedTitle.rule .title) scope).value = some "Title" := by
    have hp : Rule.parse (trim "\r\n D'h1'#\t") = .ok (.select ⟨⟨.single, "h1"⟩, [.text]⟩) := by
      decide +kernel
    have hruns := runsRule_extract (by decide +kernel) hp scope
    rcases hruns.value with hvalue | ⟨-, fault, hfault⟩
    · exact Except.ok.inj (hvalue.symm.trans h)
    · cases h.symm.trans hfault
  have hcontent : (PageExtract.extract (paddedTitle.rule .content) scope).value = none :=
    congrArg Extraction.value (extract_of_not_configures not_configures_content_paddedTitle scope)
  have hfields : (paddedTitle.extract scope).value =
      ⟨(PageExtract.extract (paddedTitle.rule .title) scope).value,
        (PageExtract.extract (paddedTitle.rule .content) scope).value, none⟩ := rfl
  rw [hfields, htitle, hcontent]

theorem run_all_or_nothing_paddedFiles :
    (run paddedFiles ["content", "-r", "rules.json", "page.html"]).code = 0 ∧
      (run paddedFiles ["content", "-r", "rules.json", "page.html"]).printed =
        "\x7b\n  \"title\": \"Title\",\n  \"content\": null,\n  \"thumbnail\": null\n\x7d\n" ∧
      (run paddedFiles ["content", "-r", "rules.json", "page.html"]).messages =
        ["Warning: rules for 'example.com' did not extract both title and content"] ∧
      (run paddedFiles ["extract", "D'h1'#", "absent.html"]).code = 1 := by
  have hcontent : Invocation.ofArguments ["content", "-r", "rules.json", "page.html"] =
      .ok ⟨false, .content "rules.json" "page.html"⟩ := by decide +kernel
  have hextract : Invocation.ofArguments ["extract", "D'h1'#", "absent.html"] =
      .ok ⟨false, .extract "D'h1'#" "absent.html"⟩ := by decide +kernel
  have hvalue : (paddedTitle.extract ((libraries Page.ofHtml).page "<h1>Title</h1>")).value =
      ⟨some "Title", none, none⟩ := by
    rw [page_paddedFiles]
    exact extract_paddedTitle result_evaluate_titlePage
  obtain ⟨hreport, -, hsupplied⟩ :=
    run_all_or_nothing (libraries Page.ofHtml) paddedFiles _ hcontent
  have hcode := (hsupplied _ _ rfl).1.2 ⟨_, _, paddedFiles_supplies⟩
  rcases hreport with ⟨-, result, hg, -, hprinted, hmessages⟩ | ⟨hfailed, -⟩
  · have hgives : (Command.content "rules.json" "page.html").Gives (libraries Page.ofHtml)
        paddedFiles _ := .incomplete paddedFiles_supplies hvalue (reads_back _) (.inr rfl)
    obtain rfl := Except.ok.inj (hg.result_eq.symm.trans hgives.result_eq)
    refine ⟨hcode, hprinted.trans ?_, hmessages, ?_⟩
    · decide +kernel
    · rcases (run_all_or_nothing (libraries Page.ofHtml) paddedFiles _ hextract).1 with
        ⟨-, result, hg, -⟩ | hfailed
      · cases hg with
        | value hpage _ _ => cases hpage
      · exact hfailed.1
  · rw [hcode] at hfailed
    cases hfailed

end PageExtract.CommandLine
