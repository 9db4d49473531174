import PageExtract.CommandLine.Outcome
import PageExtract.Css.Engine
import PageExtract.Html.Document

/-! # Running a command on pages

The libraries that the program runs with: the reader of pages, and one short complaint for each kind
of fault in JSON.
-/
namespace PageExtract.CommandLine

def complaint : Json.Fault → String
  | .malformed => "not well-formed JSON"
  | .mismatch => "JSON of another shape than expected"
  | .truncated => "the text ends early"

def libraries (read : String → Page) : Foreign PageNode where
  page html := .page (read html)
  complaint _ fault := complaint fault

def run (files : Files) (args : List String) : Report := runWith (libraries Page.ofHtml) files args

end PageExtract.CommandLine
