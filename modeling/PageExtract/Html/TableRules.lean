import PageExtract.Html.BodyRules

/-! # Inside tables

Rows, groups of rows and cells open and close on their own where their tags are left out. What
belongs into no part of a table is put where the table is being built.
-/
namespace PageExtract.Html.Builder

def tableParts : List String :=
  ["caption", "col", "colgroup", "tbody", "td", "tfoot", "th", "thead", "tr"]

def strayInTable : List String := "body" :: "html" :: tableParts

def rowGroups : List String := ["tbody", "tfoot", "thead"]

def tableHolders : List String := "table" :: "tr" :: rowGroups

def backTo (b : Builder) (names : List String) : Builder := b.popWhile (! names.contains ·)

def backToTable (b : Builder) : Builder := b.backTo tableBarrier

def backToGroup (b : Builder) : Builder := b.backTo ["tbody", "tfoot", "thead", "html", "template"]

def backToRow (b : Builder) : Builder := b.backTo ["tr", "html", "template"]

def modeFor : Frames → Mode
  | [] => .inBody
  | f :: rest =>
    if f.givenUp then modeFor rest
    else match f.name with
      | "td" => .inCell
      | "th" => .inCell
      | "tr" => .inRow
      | "tbody" => .inTableBody
      | "tfoot" => .inTableBody
      | "thead" => .inTableBody
      | "caption" => .inCaption
      | "colgroup" => .inColumnGroup
      | "table" => .inTable
      | "head" => .inHead
      | "body" => .inBody
      | "html" => .afterHead
      | _ => modeFor rest

def closeTable (b : Builder) : Builder :=
  let b := b.popThrough "table"
  b.setMode (modeFor b.frames)

def startInTable (b : Builder) (tag : Tag) : Step :=
  let name := tag.name
  if name = "caption" then .done ((b.backToTable.insertMarked tag).setMode .inCaption)
  else if name = "colgroup" then .done ((b.backToTable.insert tag).setMode .inColumnGroup)
  else if name = "col" then
    .again ((b.backToTable.insert (empty "colgroup")).setMode .inColumnGroup)
  else if rowGroups.contains name then .done ((b.backToTable.insert tag).setMode .inTableBody)
  else if ["td", "th", "tr"].contains name then
    .again ((b.backToTable.insert (empty "tbody")).setMode .inTableBody)
  else if name = "table" then
    (if b.inTableScope "table" then .again b.closeTable else .done b)
  else if name = "style" ∨ name = "script" then .done (b.insertText tag)
  else if name = "input" ∧ ((tag.attr? "type").map String.toLower) = some "hidden" then
    .done (b.insertVoid tag)
  else if name = "form" then
    .done (if b.form.isSome then b else { b.insertVoid tag with
      form := some b.nextId
      nextId := b.nextId + 1 })
  else .done (b.startInBody tag)

/-- White space between the parts of a table stays where it is. -/
def onTable (b : Builder) (t : Token) : Step :=
  match t with
  | .char c =>
    if isSpace c ∧ b.currentIn tableHolders then .done (b.insertChar c) else b.onBody t
  | .start tag => b.startInTable tag
  | .stop name =>
    if name = "table" then .done (if b.inTableScope "table" then b.closeTable else b)
    else if strayInTable.contains name then .done b
    else b.onBody t
  | _ => b.onBody t

def leaveCaption (b : Builder) : Builder :=
  (((b.closeImplied "").popThrough "caption").clearFormatting).setMode .inTable

def onCaption (b : Builder) (t : Token) : Step :=
  let left : Step := if b.inTableScope "caption" then .again b.leaveCaption else .done b
  match t with
  | .start tag => if tableParts.contains tag.name then left else b.onBody t
  | .stop name =>
    if name = "caption" then .done (if b.inTableScope "caption" then b.leaveCaption else b)
    else if name = "table" then left
    else if strayInTable.contains name then .done b
    else b.onBody t
  | _ => b.onBody t

def onColumnGroup (b : Builder) (t : Token) : Step :=
  let inGroup := b.currentIs "colgroup"
  let left : Step := if inGroup then .again (b.pop.setMode .inTable) else .done b
  match t with
  | .char c => if isSpace c then .done (b.insertChar c) else left
  | .gap => .done b
  | .doctype _ => .done b
  | .start tag =>
    if tag.name = "html" then .done (b.mergeInto tag)
    else if tag.name = "col" then .done (b.insertVoid tag)
    else left
  | .stop name =>
    if name = "colgroup" then .done (if inGroup then b.pop.setMode .inTable else b)
    else if name = "col" then .done b
    else left
  | .finish => b.onBody t

def leaveGroup (b : Builder) : Builder := (b.backToGroup.pop).setMode .inTable

def onTableBody (b : Builder) (t : Token) : Step :=
  let left : Step :=
    if b.frames.anyInside tableBarrier (fun f => rowGroups.contains f.name) then .again b.leaveGroup
    else .done b
  match t with
  | .start tag =>
    if tag.name = "tr" then .done ((b.backToGroup.insert tag).setMode .inRow)
    else if tag.name = "th" ∨ tag.name = "td" then
      .again ((b.backToGroup.insert (empty "tr")).setMode .inRow)
    else if ["caption", "col", "colgroup", "tbody", "tfoot", "thead"].contains tag.name then left
    else b.onTable t
  | .stop name =>
    if rowGroups.contains name then .done (if b.inTableScope name then b.leaveGroup else b)
    else if name = "table" then left
    else if strayInTable.contains name then .done b
    else b.onTable t
  | _ => b.onTable t

def leaveRow (b : Builder) : Builder := (b.backToRow.pop).setMode .inTableBody

def onRow (b : Builder) (t : Token) : Step :=
  let left : Step := if b.inTableScope "tr" then .again b.leaveRow else .done b
  match t with
  | .start tag =>
    if tag.name = "th" ∨ tag.name = "td" then
      .done ((b.backToRow.insertMarked tag).setMode .inCell)
    else if tableParts.contains tag.name then left
    else b.onTable t
  | .stop name =>
    if name = "tr" then .done (if b.inTableScope "tr" then b.leaveRow else b)
    else if name = "table" then left
    else if rowGroups.contains name then (if b.inTableScope name then left else .done b)
    else if strayInTable.contains name then .done b
    else b.onTable t
  | _ => b.onTable t

def leaveCell (b : Builder) : Builder :=
  let b := b.closeImplied ""
  let frames := b.frames.popThrough fun f => f.name = "td" || f.name = "th"
  ({ b with frames := frames }.clearFormatting).setMode .inRow

def onCell (b : Builder) (t : Token) : Step :=
  match t with
  | .start tag =>
    if tableParts.contains tag.name then
      (if b.inTableScope "td" ∨ b.inTableScope "th" then .again b.leaveCell else .done b)
    else b.onBody t
  | .stop name =>
    if name = "td" ∨ name = "th" then
      .done (if b.inTableScope name then
        (((b.closeImplied "").popThrough name).clearFormatting).setMode .inRow else b)
    else if name = "table" ∨ name = "tr" ∨ rowGroups.contains name then
      (if b.inTableScope name then .again b.leaveCell else .done b)
    else if strayInTable.contains name then .done b
    else b.onBody t
  | _ => b.onBody t

end PageExtract.Html.Builder
