import PageExtract.Page.Element
import PageExtract.Scope

/-! # Pages as scopes

Queries can be asked of a page and of its elements. A page looks at all its elements, the root among
them; an element looks at those below it, though a selector may refer to elements around it. How a
selector is read, and which elements it fits, is up to the engine that a page is queried with.
-/
namespace PageExtract

class SelectorEngine where
  Selectors : Type
  /-- Fails with the reason why a text is no selector. -/
  read : String → Except String Selectors
  /-- `scope` is the element that a query starts from, and nothing where it starts from the page. -/
  fits (selectors : Selectors) (scope : Option Element) (e : Element) : Bool

section
variable [SelectorEngine]
open SelectorEngine

/-- `Matches` says what selectors mean, given the element that `:scope` stands for. Where a query
starts from the page that is the root. -/
structure SelectorEngine.Means (Matches : Selectors → Element → Element → Prop) : Prop where
  element {p : Page} {list : Selectors} {scope e : Element} (hscope : scope ∈ p.elements)
    (he : e ∈ p.elements) : fits list (some scope) e ↔ Matches list scope e
  page {p : Page} {list : Selectors} {e : Element} (he : e ∈ p.elements) :
    fits list none e ↔ Matches list p.root e

end

inductive PageNode where
  | page (p : Page)
  | element (e : Element)

namespace PageNode

def candidates : PageNode → List Element
  | page p => p.elements
  | element e => e.descendants

def scope? : PageNode → Option Element
  | page _ => none
  | element e => some e

def text : PageNode → String
  | page p => p.root.text
  | element e => e.text

/-- A page has no attributes; its root may. -/
def attr? : PageNode → String → Option String
  | page _, _ => none
  | element e, name => e.attr? name

section
variable [SelectorEngine]

def fits (n : PageNode) (selectors : SelectorEngine.Selectors) (e : Element) : Bool :=
  SelectorEngine.fits selectors n.scope? e

def selectors (selector : String) : Except Rejection SelectorEngine.Selectors :=
  (SelectorEngine.read selector).mapError fun reason => ⟨selector, reason⟩

def first (n : PageNode) (selector : String) : Except Rejection (Option PageNode) :=
  (selectors selector).map fun list => (n.candidates.find? (n.fits list)).map element

def all (n : PageNode) (selector : String) : Except Rejection (List PageNode) :=
  (selectors selector).map fun list => (n.candidates.filter (n.fits list)).map element

instance : Scope PageNode where
  first := first
  all := all
  text := text
  attr := attr?

end

end PageNode

end PageExtract
