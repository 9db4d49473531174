import PageExtract.CommandLine.Arguments
import PageExtract.CommandLine.Help
import PageExtract.DomainRules.Json

/-! # Running a command

A command reads the files it needs, and ends with a result or with one failure. The report on it is
what a caller sees: the exit code, what was printed, the messages, and the notices on the way that
the option to log more lets through. How a page is read is up to whoever runs the command.
-/
namespace PageExtract.CommandLine

/-- What a run takes from other libraries: a reader of pages, which never fails, and the words for
what is wrong with a JSON text. -/
structure Foreign (ν : Type) where
  page : String → ν
  complaint (json : String) (fault : Json.Fault) : String

inductive Entry where
  | missing
  | unreadable (reason : String)
  | file (content : ByteArray)

def folder : Entry := .unreadable "Is a directory (os error 21)"

abbrev Files := String → Entry

inductive Failure where
  | badRule (error : Rule.ParseError)
  | missingFile (path : String)
  | unreadableFile (path reason : String)
  | nothingFound (path : String)
  | badRules (path complaint : String)
  | badDomainRule (error : RuleError)
  deriving DecidableEq

def Failure.message : Failure → String
  | badRule error => error.describe
  | missingFile path => "Error: file not found: " ++ path
  | unreadableFile path reason => "Error reading " ++ path ++ ": " ++ reason
  | nothingFound path => "No content extracted from " ++ path
  | badRules path complaint => "Error parsing " ++ path ++ ": " ++ complaint
  | badDomainRule error => error.describe

structure Result where
  text : String
  warning : Option String
  deriving DecidableEq

structure Outcome where
  result : Except Failure Result
  notices : List Notice

def Outcome.failed (failure : Failure) : Outcome := ⟨.error failure, []⟩

def Files.text (files : Files) (path : String) : Except Failure String :=
  match files path with
  | .missing => .error (.missingFile path)
  | .unreadable reason => .error (.unreadableFile path reason)
  | .file content =>
    match String.fromUTF8? content with
    | some text => .ok text
    | none => .error (.unreadableFile path "stream did not contain valid UTF-8")

def check (rule : String) : Outcome :=
  match Rule.parse rule with
  | .error error => .failed (.badRule error)
  | .ok rule => ⟨.ok ⟨rule.render, none⟩, rule.alternatives.map fun _ => .parsed⟩

section
variable {ν : Type} (foreign : Foreign ν)

def Files.domainRules (files : Files) (path : String) : Except Failure DomainRules :=
  match files.text path with
  | .error failure => .error failure
  | .ok json =>
    match DomainRules.ofJson json with
    | .error fault => .error (.badRules path (foreign.complaint json fault))
    | .ok rules =>
      match rules.validate with
      | .error error => .error (.badDomainRule error)
      | .ok () => .ok rules

variable [Scope ν]

def extractOne (files : Files) (rule path : String) : Outcome :=
  match files.text path with
  | .error failure => .failed failure
  | .ok html =>
    let found := PageExtract.extract (some rule) (foreign.page html)
    match found.value with
    | some value => ⟨.ok ⟨value, none⟩, found.notices⟩
    | none => ⟨.error (.nothingFound path), found.notices⟩

def incompleteWarning (domain : String) : String :=
  "Warning: rules for '" ++ domain ++ "' did not extract both title and content"

/-- Rules that find nothing are no failure: the result then says so. -/
def extractAll (files : Files) (rules path : String) : Outcome :=
  match files.domainRules foreign rules with
  | .error failure => .failed failure
  | .ok rules =>
    match files.text path with
    | .error failure => .failed failure
    | .ok html =>
      let found := rules.extract (foreign.page html)
      let warning := if found.value.isCrawlable then none else some (incompleteWarning rules.domain)
      ⟨.ok ⟨found.value.toPrettyJson, warning⟩, found.notices⟩

def Command.run (files : Files) : Command → Outcome
  | .check rule => CommandLine.check rule
  | .extract rule page => extractOne foreign files rule page
  | .content rules page => extractAll foreign files rules page

def Command.paths : Command → List String
  | .check _ => []
  | .extract _ page => [page]
  | .content rules page => [rules, page]

theorem Command.run_congr {files others : Files} (c : Command)
    (h : ∀ path ∈ c.paths, files path = others path) :
    c.run foreign files = c.run foreign others := by
  cases c with
  | check rule => rfl
  | extract rule page => simp_all [paths, run, extractOne, Files.text]
  | content rules page => simp_all [paths, run, extractAll, Files.domainRules, Files.text]

end

/-! ## Reports -/

structure Report where
  code : Nat
  printed : String
  messages : List String
  notices : List Notice
  deriving DecidableEq

/-- Warnings are always logged, all else only on demand. -/
def shows (verbose : Bool) (n : Notice) : Bool := verbose || n.level = .warn

def Outcome.report (verbose : Bool) (o : Outcome) : Report :=
  let notices := o.notices.filter (shows verbose)
  match o.result with
  | .ok result => ⟨0, result.text ++ "\n", result.warning.toList, notices⟩
  | .error failure => ⟨1, "", [failure.message], notices⟩

def Halt.report : Halt → Report
  | .version => ⟨0, programName ++ " " ++ CommandLine.version ++ "\n", [], []⟩
  | .help topic => ⟨0, topic.text, [], []⟩
  | .misuse cause =>
    ⟨2, "", ["error: " ++ cause.message, "Usage: " ++ Topic.program.usage], []⟩

section
variable {ν : Type} [Scope ν] (foreign : Foreign ν)

def Invocation.run (files : Files) (i : Invocation) : Report :=
  (i.command.run foreign files).report i.verbose

def runWith (files : Files) (args : List String) : Report :=
  match Invocation.ofArguments args with
  | .ok i => i.run foreign files
  | .error halt => halt.report

end

end PageExtract.CommandLine
