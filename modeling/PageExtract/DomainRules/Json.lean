import PageExtract.DomainRules
import PageExtract.Json.Record

/-! # Rules and results as JSON

The rules of a domain and what they found are flat records. Anything may be missing from the rules;
an array of results has to hold all of them.
-/
namespace PageExtract

namespace DomainRules

def shape : Json.Shape where
  slots := [⟨"domain", false⟩, ⟨"title", true⟩, ⟨"content", true⟩, ⟨"thumbnail", true⟩]
  partialArrays := true

def toRecord (d : DomainRules) : Json.Record :=
  [("domain", some d.domain), ("title", d.title), ("content", d.content),
    ("thumbnail", d.thumbnail)]

def ofRecord (r : Json.Record) : DomainRules where
  domain := (r.lookup "domain").join.getD ""
  title := (r.lookup "title").join
  content := (r.lookup "content").join
  thumbnail := (r.lookup "thumbnail").join

theorem ofRecord_toRecord (d : DomainRules) : ofRecord d.toRecord = d := rfl

def toJson (d : DomainRules) : String := d.toRecord.compact

def ofJson (text : String) : Except Json.Fault DomainRules :=
  (Json.readRecord shape text.toList).map ofRecord

end DomainRules

namespace ExtractedContent

def shape : Json.Shape where
  slots := [⟨"title", true⟩, ⟨"content", true⟩, ⟨"thumbnail", true⟩]
  partialArrays := false

def toRecord (c : ExtractedContent) : Json.Record :=
  [("title", c.title), ("content", c.content), ("thumbnail", c.thumbnail)]

def ofRecord (r : Json.Record) : ExtractedContent where
  title := (r.lookup "title").join
  content := (r.lookup "content").join
  thumbnail := (r.lookup "thumbnail").join

theorem ofRecord_toRecord (c : ExtractedContent) : ofRecord c.toRecord = c := rfl

def toJson (c : ExtractedContent) : String := c.toRecord.compact

def toPrettyJson (c : ExtractedContent) : String := c.toRecord.pretty

def ofJson (text : String) : Except Json.Fault ExtractedContent :=
  (Json.readRecord shape text.toList).map ofRecord

end ExtractedContent

namespace Field

def ofName? : String → Option Field
  | "title" => some title
  | "content" => some content
  | "thumbnail" => some thumbnail
  | _ => none

@[simp] theorem ofName?_name (f : Field) : ofName? f.name = some f := by cases f <;> rfl

def toJson (f : Field) : String := Json.quote f.name

def readName (cs : List Char) : Json.Reply Field :=
  match Json.readText cs with
  | .error fault => .error fault
  | .ok (name, rest) =>
    match ofName? (String.ofList name) with
    | some field => .ok (field, rest)
    | none => .error .mismatch

def readNull (cs : List Char) : Except Json.Fault (List Char) :=
  match Json.skipBlanks cs with
  | 'n' :: rest => Json.readWord ['u', 'l', 'l'] rest
  | rest => .error (Json.otherValue rest)

def readTagged (cs : List Char) : Json.Reply Field :=
  match readName cs with
  | .error fault => .error fault
  | .ok (field, rest) =>
    match (Json.readColon rest).bind readNull with
    | .error fault => .error fault
    | .ok rest =>
      match Json.skipBlanks rest with
      | [] => .error .truncated
      | '}' :: rest => .ok (field, rest)
      | _ => .error .malformed

/-- A field is written as its name, or as an object that gives null to its name. -/
def ofJson (text : String) : Except Json.Fault Field :=
  Json.finish <| match Json.skipBlanks text.toList with
    | [] => .error .truncated
    | '\x22' :: rest => readName rest
    | '{' :: rest =>
      match Json.skipBlanks rest with
      | [] => .error .truncated
      | '\x22' :: rest => readTagged rest
      | _ => .error .malformed
    | _ => .error .malformed

end Field

end PageExtract
