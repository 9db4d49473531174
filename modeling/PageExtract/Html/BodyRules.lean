import PageExtract.Html.HeadRules

/-! # Inside the body

What a start tag closes before it opens its element, what an end tag closes, and which of them are
dropped. Every tag that is not named here opens an ordinary element.
-/
namespace PageExtract.Html.Builder

def blocks : List String :=
  ["address", "article", "aside", "blockquote", "center", "details", "dialog", "dir", "div", "dl",
   "fieldset", "figcaption", "figure", "footer", "header", "hgroup", "main", "menu", "nav", "ol",
   "search", "section", "summary", "ul"]

def formattingNames : List String :=
  ["b", "big", "code", "em", "font", "i", "s", "small", "strike", "strong", "tt", "u"]

def misplaced : List String :=
  ["caption", "col", "colgroup", "frame", "frameset", "head", "tbody", "td", "tfoot", "th", "thead",
   "tr"]

/-- Closes an item of a list that is open further out, unless a block other than `address`, `div`
and `p` is inside it. -/
def closeItem (b : Builder) (names : List String) : Builder :=
  match b.frames.find? fun f => !f.givenUp && (names.contains f.name ||
      (special.contains f.name && !(["address", "div", "p"].contains f.name))) with
  | some f => if names.contains f.name then (b.closeImplied f.name).popThrough f.name else b
  | none => b

def insertItem (b : Builder) (names : List String) (tag : Tag) : Builder :=
  ((b.closeItem names).closeParagraph).insert tag

def insertHeading (b : Builder) (tag : Tag) : Builder :=
  let b := b.closeParagraph
  (if b.currentIn headings then b.pop else b).insert tag

def insertForm (b : Builder) (tag : Tag) : Builder :=
  if b.form.isSome then b else { b.closeParagraph.insert tag with form := some b.nextId }

def insertButton (b : Builder) (tag : Tag) : Builder :=
  let b := if b.inScope "button" then (b.closeImplied "").popThrough "button" else b
  b.reopen.insert tag

def insertNobr (b : Builder) (tag : Tag) : Builder :=
  let b := b.reopen
  (if b.inScope "nobr" then (b.endFormatting "nobr").reopen else b).insertFormatting tag

def insertTable (b : Builder) (tag : Tag) : Builder :=
  ((if b.oldRules then b else b.closeParagraph).insert tag).setMode .inTable

def hasBody (b : Builder) : Bool := b.frames.any (·.name = "body")

def startInBody (b : Builder) (tag : Tag) : Builder :=
  match b.headContent? tag with
  | some b => b
  | none =>
    let name := tag.name
    if name = "html" then b.mergeInto tag
    else if name = "body" then (if b.hasBody then b.mergeInto tag else b)
    else if blocks.contains name ∨ name = "p" then b.closeParagraph.insert tag
    else if headings.contains name then b.insertHeading tag
    else if name = "pre" ∨ name = "listing" then
      { b.closeParagraph.insert tag with skipFeed := true }
    else if name = "form" then b.insertForm tag
    else if name = "li" then b.insertItem ["li"] tag
    else if name = "dd" ∨ name = "dt" then b.insertItem ["dd", "dt"] tag
    else if name = "plaintext" then b.closeParagraph.insert tag
    else if name = "button" then b.insertButton tag
    else if name = "a" then b.closeAnchor.reopen.insertFormatting tag
    else if formattingNames.contains name then b.reopen.insertFormatting tag
    else if name = "nobr" then b.insertNobr tag
    else if ["applet", "marquee", "object"].contains name then b.reopen.insertMarked tag
    else if name = "table" then b.insertTable tag
    else if ["area", "br", "embed", "img", "input", "keygen", "wbr"].contains name then
      b.reopen.insertVoid tag
    else if name = "image" then b.reopen.insertVoid ⟨"img", tag.attributes⟩
    else if ["param", "source", "track"].contains name then b.insertVoid tag
    else if name = "hr" then b.closeParagraph.insertVoid tag
    else if name = "textarea" then { b.insertText tag with skipFeed := true }
    else if name = "xmp" then b.closeParagraph.reopen.insertText tag
    else if ["iframe", "noembed", "noscript"].contains name then b.insertText tag
    else if name = "option" ∨ name = "optgroup" then
      (if b.currentIs "option" then b.pop else b).reopen.insert tag
    else if name = "rb" ∨ name = "rtc" then
      (if b.inScope "ruby" then b.closeImplied "" else b).insert tag
    else if name = "rp" ∨ name = "rt" then
      (if b.inScope "ruby" then b.closeImplied "rtc" else b).insert tag
    else if misplaced.contains name then b
    else b.reopen.insert tag

def endBlock (b : Builder) (name : String) : Builder :=
  if b.inScope name then (b.closeImplied "").popThrough name else b

def endForm (b : Builder) : Builder :=
  match b.form with
  | none => b
  | some id =>
    let b := { b with form := none }
    if b.frames.anyInside scopeBarrier (·.id = id) then
      let b := b.closeImplied ""
      { b with frames := b.frames.giveUp id }
    else b

def endParagraph (b : Builder) : Builder :=
  (if b.inButtonScope "p" then b else b.insert (empty "p")).closeParagraph

def endHeading (b : Builder) : Builder :=
  if b.frames.anyInside scopeBarrier (fun f => headings.contains f.name) then
    let b := b.closeImplied ""
    { b with frames := b.frames.popThrough fun f => headings.contains f.name }
  else b

def stopInBody (b : Builder) (name : String) : Step :=
  if name = "body" then .done (if b.inScope "body" then b.setMode .afterBody else b)
  else if name = "html" then (if b.inScope "body" then .again (b.setMode .afterBody) else .done b)
  else if blocks.contains name ∨ ["button", "listing", "pre"].contains name then
    .done (b.endBlock name)
  else if name = "form" then .done b.endForm
  else if name = "p" then .done b.endParagraph
  else if name = "li" then
    .done (if b.frames.has listItemBarrier "li" then (b.closeImplied "li").popThrough "li" else b)
  else if name = "dd" ∨ name = "dt" then
    .done (if b.inScope name then (b.closeImplied name).popThrough name else b)
  else if headings.contains name then .done b.endHeading
  else if name = "a" ∨ name = "nobr" ∨ formattingNames.contains name then
    .done (b.endFormatting name)
  else if ["applet", "marquee", "object"].contains name then
    .done (if b.inScope name then (b.endBlock name).clearFormatting else b)
  else if name = "br" then .done (b.reopen.insertVoid (empty "br"))
  else .done (b.endOther name)

def onBody (b : Builder) : Token → Step
  | .char c => .done (if c = '\x00' then b else b.reopen.insertChar c)
  | .gap => .done b
  | .doctype _ => .done b
  | .start tag => .done (b.startInBody tag)
  | .stop name => b.stopInBody name
  | .finish => .done b

def onText (b : Builder) (back : Mode) : Token → Step
  | .char c => .done (b.insertChar c)
  | .finish => .again (b.pop.setMode back)
  | .stop _ => .done (b.pop.setMode back)
  | _ => .done b

def onAfterBody (b : Builder) (t : Token) : Step :=
  match t with
  | .char c => if isSpace c then b.onBody t else .again (b.setMode .inBody)
  | .gap => .done b
  | .doctype _ => .done b
  | .start tag => if tag.name = "html" then .done (b.mergeInto tag) else .again (b.setMode .inBody)
  | .stop name =>
    if name = "html" then .done (b.setMode .afterAfterBody) else .again (b.setMode .inBody)
  | .finish => .done b

def onAfterAfterBody (b : Builder) (t : Token) : Step :=
  match t with
  | .char c => if isSpace c then b.onBody t else .again (b.setMode .inBody)
  | .gap => .done b
  | .doctype _ => .done b
  | .start tag => if tag.name = "html" then .done (b.mergeInto tag) else .again (b.setMode .inBody)
  | .stop _ => .again (b.setMode .inBody)
  | .finish => .done b

end PageExtract.Html.Builder
