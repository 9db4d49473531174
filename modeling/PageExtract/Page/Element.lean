import PageExtract.Page.Node

/-! # Elements in their page

An element is a place in a page: its own tag and children, and one crumb for each element around it.
From a crumb the siblings and the parent are found again, so an element needs no page beside it.
-/
namespace PageExtract

/-- One step down: the tag of the parent, and the siblings on both sides, the nearest before first.
-/
structure Crumb where
  parent : Tag
  before : List Node
  after : List Node

structure Element where
  tag : Tag
  children : List Node
  /-- The innermost crumb first. -/
  above : List Crumb

def Page.root (p : Page) : Element := ⟨p.tag, p.children, []⟩

namespace Element

def path (e : Element) : List Nat := (e.above.map (·.before.length)).reverse

def text (e : Element) : String := Node.allText e.children

def attr? (e : Element) (name : String) : Option String := e.tag.attr? name

def parent? (e : Element) : Option Element :=
  match e.above with
  | [] => none
  | crumb :: above =>
    some ⟨crumb.parent, crumb.before.reverse ++ .element e.tag e.children :: crumb.after, above⟩

/-- The elements around a node, the nearest first: `node` stands where the first crumb leads. -/
def ancestorsFrom (node : Node) : List Crumb → List Element
  | [] => []
  | crumb :: above =>
    let children := crumb.before.reverse ++ node :: crumb.after
    ⟨crumb.parent, children, above⟩ :: ancestorsFrom (.element crumb.parent children) above

def ancestors (e : Element) : List Element := ancestorsFrom (.element e.tag e.children) e.above

def siblingsBefore (parent : Tag) (above : List Crumb) (after : List Node) :
    List Node → List Element
  | [] => []
  | .text s :: before => siblingsBefore parent above (.text s :: after) before
  | .element tag children :: before =>
    ⟨tag, children, ⟨parent, before, after⟩ :: above⟩ ::
      siblingsBefore parent above (.element tag children :: after) before

def siblingsAfter (parent : Tag) (above : List Crumb) (before : List Node) :
    List Node → List Element
  | [] => []
  | .text s :: after => siblingsAfter parent above (.text s :: before) after
  | .element tag children :: after =>
    ⟨tag, children, ⟨parent, before, after⟩ :: above⟩ ::
      siblingsAfter parent above (.element tag children :: before) after

def earlier (e : Element) : List Element :=
  match e.above with
  | [] => []
  | crumb :: above =>
    siblingsBefore crumb.parent above (.element e.tag e.children :: crumb.after) crumb.before

def later (e : Element) : List Element :=
  match e.above with
  | [] => []
  | crumb :: above =>
    siblingsAfter crumb.parent above (.element e.tag e.children :: crumb.before) crumb.after

def nearestBefore (parent : Tag) (above : List Crumb) (after : List Node) :
    List Node → Option Element
  | [] => none
  | .text s :: before => nearestBefore parent above (.text s :: after) before
  | .element tag children :: before => some ⟨tag, children, ⟨parent, before, after⟩ :: above⟩

def previous? (e : Element) : Option Element :=
  match e.above with
  | [] => none
  | crumb :: above =>
    nearestBefore crumb.parent above (.element e.tag e.children :: crumb.after) crumb.before

theorem head?_siblingsBefore (parent : Tag) (above : List Crumb) (after before : List Node) :
    (siblingsBefore parent above after before).head? = nearestBefore parent above after before := by
  fun_induction nearestBefore parent above after before <;> simp_all [siblingsBefore]

theorem head?_earlier (e : Element) : e.earlier.head? = e.previous? := by
  rw [earlier, previous?]
  split
  · rfl
  · exact head?_siblingsBefore ..

def earlierTags (e : Element) : List Tag :=
  match e.above with
  | [] => []
  | crumb :: _ => crumb.before.filterMap Node.tag?

def laterTags (e : Element) : List Tag :=
  match e.above with
  | [] => []
  | crumb :: _ => crumb.after.filterMap Node.tag?

/-- The elements in a list of trees that stand behind `before` below `parent`, in document order. -/
def elementsFrom (parent : Tag) (above : List Crumb) (before : List Node) :
    List Node → List Element
  | [] => []
  | .text s :: after => elementsFrom parent above (.text s :: before) after
  | .element tag children :: after =>
    let crumbs := ⟨parent, before, after⟩ :: above
    ⟨tag, children, crumbs⟩ ::
      (elementsFrom tag crumbs [] children ++
        elementsFrom parent above (.element tag children :: before) after)

def descendants (e : Element) : List Element := elementsFrom e.tag e.above [] e.children

end Element

def Page.elements (p : Page) : List Element := p.root :: p.root.descendants

end PageExtract
