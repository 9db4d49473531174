import PageExtract.Html.Token

/-! # Document types

A document type is read for one thing: whether the page asks for the old rules, under which a table
may stand inside a paragraph. It does so unless it names `html` and is well formed, and also where
an identifier is one of those that early versions of the language went by, in any case.
-/
namespace PageExtract.Html

def dropSpaces (cs : List Char) : List Char := cs.dropWhile isSpace

def lower (cs : List Char) : List Char := cs.map Char.toLower

def readQuotedId : List Char → Option (List Char × List Char)
  | quote :: cs =>
    if quote = '\x22' ∨ quote = '\x27' then
      let text := cs.takeWhile (· != quote)
      match cs.drop text.length with
      | _ :: rest => some (text, rest)
      | [] => none
    else none
  | [] => none

/-- The identifiers that early versions of the language went by, in lower case. -/
structure EarlyTypes where
  publicStarts : List String
  publicIds : List String
  /-- Starts that count only where no system identifier follows. -/
  lonePublicStarts : List String
  systemIds : List String

namespace EarlyTypes

def unknown : EarlyTypes := ⟨[], [], [], []⟩

def beginsWithAny (ids : List String) (id : List Char) : Bool :=
  ids.any fun start => start.toList.isPrefixOf (lower id)

variable (early : EarlyTypes)

def hasSystemId (id : List Char) : Bool := early.systemIds.contains (String.ofList (lower id))

def hasPublicId (id : List Char) : Bool :=
  early.publicIds.contains (String.ofList (lower id)) || beginsWithAny early.publicStarts id

def askBehindPublic (cs : List Char) : Bool :=
  match readQuotedId (dropSpaces cs) with
  | none => true
  | some (publicId, rest) =>
    match dropSpaces rest with
    | [] => early.hasPublicId publicId || beginsWithAny early.lonePublicStarts publicId
    | rest =>
      match readQuotedId rest with
      | none => true
      | some (systemId, _) => early.hasPublicId publicId || early.hasSystemId systemId

def askBehindSystem (cs : List Char) : Bool :=
  match readQuotedId (dropSpaces cs) with
  | none => true
  | some (systemId, _) => early.hasSystemId systemId

/-- Whether a document type asks for the old rules, by what stands behind the word `doctype`. -/
def askForOldRules : Option (List Char) → Bool
  | none => true
  | some cs =>
    let cs := dropSpaces cs
    let name := cs.takeWhile (! isSpace ·)
    let rest := dropSpaces (cs.drop name.length)
    let keyword := lower (rest.take 6)
    if lower name ≠ ['h', 't', 'm', 'l'] then true
    else if rest = [] then false
    else if keyword = ['p', 'u', 'b', 'l', 'i', 'c'] then early.askBehindPublic (rest.drop 6)
    else if keyword = ['s', 'y', 's', 't', 'e', 'm'] then early.askBehindSystem (rest.drop 6)
    else true

end EarlyTypes

end PageExtract.Html
