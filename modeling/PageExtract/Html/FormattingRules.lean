import PageExtract.Html.Builder

/-! # Formatting elements

Elements such as `b` reach over the end of the paragraph they were opened in: before the next
content they are opened again. An end tag that crosses a block closes the element around the block
and opens a copy inside it.
-/
namespace PageExtract.Html

namespace Formatting

def isMarker : Formatting → Bool
  | marker => true
  | element _ _ => false

def hasId (id : Nat) : Formatting → Bool
  | marker => false
  | element i _ => i = id

def hasTag (tag : Tag) : Formatting → Bool
  | marker => false
  | element _ t =>
    t.name = tag.name && t.attributes.length = tag.attributes.length &&
      t.attributes.all fun a => tag.attributes.contains a

def recent (entries : List Formatting) : List Formatting := entries.takeWhile (! ·.isMarker)

/-- Of equal elements behind the latest marker no more than three are kept. -/
def push (id : Nat) (tag : Tag) (entries : List Formatting) : List Formatting :=
  let equal := (recent entries).filter (hasTag tag)
  match equal.drop 2 with
  | element oldest _ :: _ => element id tag :: entries.filter (! hasId oldest ·)
  | _ => element id tag :: entries

def clear (entries : List Formatting) : List Formatting := (entries.dropWhile (! ·.isMarker)).tail

def find? (name : String) (entries : List Formatting) : Option (Nat × Tag) :=
  (recent entries).findSome? fun
    | element id tag => if tag.name = name then some (id, tag) else none
    | marker => none

def erase (id : Nat) (entries : List Formatting) : List Formatting := entries.filter (! hasId id ·)

def replace (old new : Nat) (tag : Tag) (entries : List Formatting) : List Formatting :=
  entries.map fun e => if e.hasId old then element new tag else e

def insertAfter (id new : Nat) (tag : Tag) (entries : List Formatting) : List Formatting :=
  entries.flatMap fun e => if e.hasId id then [element new tag, e] else [e]

end Formatting

namespace Builder

def reopen (b : Builder) : Builder :=
  let closed := b.formatting.takeWhile fun
    | .marker => false
    | .element id _ => !b.frames.isOpen id
  let rest := b.formatting.drop closed.length
  closed.foldr (fun entry b =>
    match entry with
    | .marker => b
    | .element _ tag =>
      { b.insert tag with formatting := .element b.nextId tag :: b.formatting })
    { b with formatting := rest }

def insertFormatting (b : Builder) (tag : Tag) : Builder :=
  { b.insert tag with formatting := Formatting.push b.nextId tag b.formatting }

def insertMarked (b : Builder) (tag : Tag) : Builder :=
  { b.insert tag with formatting := .marker :: b.formatting }

def clearFormatting (b : Builder) : Builder :=
  { b with formatting := Formatting.clear b.formatting }

/-- An end tag of no special meaning: it closes the innermost element of its name, unless a special
element is inside. -/
def endOther (b : Builder) (name : String) : Builder :=
  match b.frames.find? fun f => !f.givenUp && (f.name = name || special.contains f.name) with
  | some f =>
    if f.name = name then
      { b.closeImplied name with frames := (b.closeImplied name).frames.popThrough (·.id = f.id) }
    else b
  | none => b

structure Copies where
  frames : Frames
  formatting : List Formatting
  nextId : Nat
  /-- Where the copy of the formatting element goes in the list: behind this element. -/
  bookmark : Nat
  count : Nat

def Copies.step (c : Copies) (f : Frame) : Copies :=
  let listed := c.formatting.any (·.hasId f.id)
  if listed && c.count < 3 then
    { frames := c.frames ++ [⟨c.nextId, f.tag, [], [], false⟩]
      formatting := Formatting.replace f.id c.nextId f.tag c.formatting
      nextId := c.nextId + 1
      bookmark := if c.frames.isEmpty then c.nextId else c.bookmark
      count := c.count + 1 }
  else { c with formatting := Formatting.erase f.id c.formatting, count := c.count + 1 }

/-- Closes the formatting element `f` around the block and opens a copy of it inside the block.
`inner` are the elements inside the block, `between` those between the two. -/
def splitAround (b : Builder) (inner : Frames) (block : Frame) (between : Frames) (f outer : Frame)
    (rest : Frames) : Builder :=
  let copies := between.foldl Copies.step ⟨[], b.formatting, b.nextId, f.id, 0⟩
  let closed :=
    match between with
    | [] => f
    | n :: ns => (ns ++ [f]).foldl (fun inner outer => outer.absorb inner) n
  let copy : Frame := ⟨copies.nextId, f.tag, block.children, [], false⟩
  { b with
    frames := inner ++ copy :: { block with children := [] } :: copies.frames ++
      outer.absorb closed :: rest
    formatting := Formatting.erase f.id
      (Formatting.insertAfter copies.bookmark copies.nextId f.tag copies.formatting)
    nextId := copies.nextId + 1 }

def endFormattingOnce (b : Builder) (name : String) : Step :=
  match Formatting.find? name b.formatting with
  | none => .done (b.endOther name)
  | some (id, _) =>
    if !b.frames.isOpen id then .done { b with formatting := Formatting.erase id b.formatting }
    else if !b.frames.anyInside scopeBarrier (·.id = id) then .done b
    else
      let inside := b.frames.takeWhile (·.id ≠ id)
      let around := b.frames.drop inside.length
      let between := (inside.reverse.takeWhile fun f =>
        f.givenUp || !special.contains f.name).reverse
      match inside.reverse.drop between.length, around with
      | block :: inner, f :: outer :: rest =>
        .again (b.splitAround inner.reverse block between f outer rest)
      | _, _ =>
        .done { b with
          frames := b.frames.popThrough (·.id = id)
          formatting := Formatting.erase id b.formatting }

def endFormattingRounds (name : String) : Nat → Builder → Builder
  | 0, b => b
  | n + 1, b =>
    match b.endFormattingOnce name with
    | .done b => b
    | .again b => endFormattingRounds name n b

def endFormatting (b : Builder) (name : String) : Builder :=
  match b.frames with
  | f :: _ =>
    if f.name = name ∧ !b.formatting.any (·.hasId f.id) then b.pop
    else endFormattingRounds name 8 b
  | [] => b

/-- A second `a` closes the first, which is not opened again. -/
def closeAnchor (b : Builder) : Builder :=
  match Formatting.find? "a" b.formatting with
  | none => b
  | some (id, _) =>
    let b := b.endFormatting "a"
    { b with formatting := Formatting.erase id b.formatting, frames := b.frames.giveUp id }

end Builder

end PageExtract.Html
