import PageExtract.Html.Doctype
import PageExtract.Html.OpenElements

/-! # The state of page building

The builder takes tokens one by one. Its mode says which part of the page it is in; the open
elements and the formatting elements say where the next node goes.
-/
namespace PageExtract.Html

inductive Mode where
  | initial
  | beforeHtml
  | beforeHead
  | inHead
  | afterHead
  | inBody
  /-- Inside an element whose content is text; the mode to go back to. -/
  | inText (back : Mode)
  | inTable
  | inCaption
  | inColumnGroup
  | inTableBody
  | inRow
  | inCell
  | afterBody
  | afterAfterBody
  deriving DecidableEq

/-- An element that is opened again where it was closed too early, or a border that this stops at.
-/
inductive Formatting where
  | marker
  | element (id : Nat) (tag : Tag)
  deriving DecidableEq

structure Builder where
  frames : Frames
  /-- The latest first. -/
  formatting : List Formatting
  mode : Mode
  /-- The form that is open, or the last one in a table. -/
  form : Option Nat
  nextId : Nat
  /-- The page asks for the old rules. -/
  oldRules : Bool
  /-- A line feed that comes next is dropped. -/
  skipFeed : Bool
  early : EarlyTypes

/-- A token has been used, or it is to be looked at again in a new mode. -/
inductive Step where
  | done (b : Builder)
  | again (b : Builder)

namespace Builder

def start (early : EarlyTypes) : Builder := ⟨[], [], .initial, none, 0, false, false, early⟩

def currentIs (b : Builder) (name : String) : Bool :=
  match b.frames with
  | f :: _ => f.name = name
  | [] => false

def currentIn (b : Builder) (names : List String) : Bool :=
  match b.frames with
  | f :: _ => names.contains f.name
  | [] => false

def setMode (b : Builder) (mode : Mode) : Builder := { b with mode := mode }

def onChildren (b : Builder) (change : List Node → List Node) : Builder :=
  match b.frames with
  | f :: rest => { b with frames := { f with children := change f.children } :: rest }
  | [] => b

def insertChar (b : Builder) (c : Char) : Builder := b.onChildren (Node.pushChar c)

def insert (b : Builder) (tag : Tag) : Builder :=
  { b with frames := ⟨b.nextId, tag, [], [], false⟩ :: b.frames, nextId := b.nextId + 1 }

def insertVoid (b : Builder) (tag : Tag) : Builder := b.onChildren (.element tag [] :: ·)

def insertText (b : Builder) (tag : Tag) : Builder :=
  { b.insert tag with mode := .inText b.mode }

def pop (b : Builder) : Builder := { b with frames := b.frames.pop }

def popThrough (b : Builder) (name : String) : Builder :=
  { b with frames := b.frames.popThrough (·.name = name) }

def popWhile (b : Builder) (p : String → Bool) : Builder := { b with frames := b.frames.popWhile p }

def closeImplied (b : Builder) (except : String) : Builder :=
  b.popWhile fun name => name != except && impliedEnds.contains name

def inScope (b : Builder) (name : String) : Bool := b.frames.has scopeBarrier name

def inButtonScope (b : Builder) (name : String) : Bool := b.frames.has buttonBarrier name

def inTableScope (b : Builder) (name : String) : Bool := b.frames.has tableBarrier name

def closeParagraph (b : Builder) : Builder :=
  if b.inButtonScope "p" then (b.closeImplied "p").popThrough "p" else b

/-- The attributes of a repeated tag are added to the element that is open already. -/
def mergeInto (b : Builder) (tag : Tag) : Builder :=
  { b with
    frames := b.frames.map fun f =>
      if f.name = tag.name then { f with tag := f.tag.merge tag } else f }

end Builder

end PageExtract.Html
