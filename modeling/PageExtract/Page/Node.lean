/-! # Nodes of a page

A page is a tree of elements and texts. Comments are not kept.
-/
namespace PageExtract

/-- The name of an element and its attributes, each name once. -/
structure Tag where
  name : String
  attributes : List (String × String)
  deriving DecidableEq

def Tag.attr? (t : Tag) (name : String) : Option String := t.attributes.lookup name

def Tag.merge (t u : Tag) : Tag :=
  ⟨t.name, t.attributes ++ u.attributes.filter fun a => (t.attr? a.1).isNone⟩

inductive Node where
  | text (s : String)
  | element (tag : Tag) (children : List Node)

namespace Node

def tag? : Node → Option Tag
  | text _ => none
  | element tag _ => some tag

def allText : List Node → String
  | [] => ""
  | text s :: rest => s ++ allText rest
  | element _ children :: rest => allText children ++ allText rest

/-- Adds a character behind a list of nodes that holds the latest first. -/
def pushChar (c : Char) : List Node → List Node
  | text s :: rest => text (s.push c) :: rest
  | nodes => text (String.singleton c) :: nodes

end Node

structure Page where
  tag : Tag
  children : List Node

end PageExtract
