import PageExtract.Scope

/-! # Tagged trees

The simplest scope: a tree of nodes with a tag, a text of their own and attributes. A selector is a
tag, and matches the nodes below the scope that carry it; one that starts with `!` is rejected.
-/
namespace PageExtract

inductive TaggedTree where
  | node (tag text : String) (attributes : List (String × String)) (children : List TaggedTree)

namespace TaggedTree

def tag : TaggedTree → String
  | node tag _ _ _ => tag

def text : TaggedTree → String
  | node _ text _ _ => text

def attributes : TaggedTree → List (String × String)
  | node _ _ attributes _ => attributes

def children : TaggedTree → List TaggedTree
  | node _ _ _ children => children

def nodes : List TaggedTree → List TaggedTree
  | [] => []
  | node tag text attributes children :: rest =>
    node tag text attributes children :: (nodes children ++ nodes rest)

def select (t : TaggedTree) (selector : String) : Except Rejection (List TaggedTree) :=
  if selector.toList.head? = some '!' then .error ⟨selector, "unsupported"⟩
  else .ok ((nodes t.children).filter (·.tag = selector))

instance : Scope TaggedTree where
  first t selector := (t.select selector).map List.head?
  all := select
  text := text
  attr t name := t.attributes.lookup name

end TaggedTree

end PageExtract
