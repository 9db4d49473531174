import PageExtract.Extract

/-! # The rules of a domain

A domain has up to three rules: for the title, the content and the thumbnail of its pages. They are
validated as written, and run one after the other on one page.
-/
namespace PageExtract

inductive Field where
  | title
  | content
  | thumbnail
  deriving DecidableEq

namespace Field

def name : Field → String
  | title => "title"
  | content => "content"
  | thumbnail => "thumbnail"

def all : List Field := [title, content, thumbnail]

theorem mem_all (f : Field) : f ∈ all := by cases f <;> decide

end Field

structure DomainRules where
  domain : String
  title : Option String
  content : Option String
  thumbnail : Option String
  deriving DecidableEq

structure ExtractedContent where
  title : Option String
  content : Option String
  thumbnail : Option String
  deriving DecidableEq

def ExtractedContent.empty : ExtractedContent := ⟨none, none, none⟩

/-- A page without a thumbnail is still of use. -/
def ExtractedContent.isCrawlable (c : ExtractedContent) : Bool := c.title.isSome && c.content.isSome

structure RuleError where
  domain : String
  field : Field
  error : Rule.ParseError
  deriving DecidableEq

def RuleError.describe (e : RuleError) : String :=
  "Invalid " ++ e.field.name ++ " rule for '" ++ e.domain ++ "': " ++ e.error.describe

namespace DomainRules

def empty : DomainRules := ⟨"", none, none, none⟩

def rule (d : DomainRules) : Field → Option String
  | .title => d.title
  | .content => d.content
  | .thumbnail => d.thumbnail

/-- The failure of one field: a rule of blanks counts as absent. -/
def fault? (d : DomainRules) (field : Field) : Option RuleError :=
  match (d.rule field).filter (!Text.isBlankText ·) with
  | none => none
  | some source =>
    match Rule.parse source with
    | .ok _ => none
    | .error e => some ⟨d.domain, field, e⟩

def validate (d : DomainRules) : Except RuleError Unit :=
  match Field.all.findSome? d.fault? with
  | some e => .error e
  | none => .ok ()

def extract {ν : Type} [Scope ν] (d : DomainRules) (scope : ν) :
    Extraction (Call ν) ExtractedContent :=
  let title := PageExtract.extract d.title scope
  let content := PageExtract.extract d.content scope
  let thumbnail := PageExtract.extract d.thumbnail scope
  let found : ExtractedContent := ⟨title.value, content.value, thumbnail.value⟩
  ⟨found, title.calls ++ content.calls ++ thumbnail.calls,
    title.notices ++ content.notices ++ thumbnail.notices ++
      if found.isCrawlable then [] else [.incomplete]⟩

end DomainRules

end PageExtract
