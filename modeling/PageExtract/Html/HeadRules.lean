import PageExtract.Html.FormattingRules

/-! # Before and inside the head

The elements `html`, `head` and `body` open on their own where their tags are left out. White space
before them is dropped.
-/
namespace PageExtract.Html.Builder

/-- Start tags that belong into the head wherever they stand. -/
def headContent? (b : Builder) (tag : Tag) : Option Builder :=
  if ["base", "basefont", "bgsound", "link", "meta"].contains tag.name then some (b.insertVoid tag)
  else if ["title", "noframes", "style", "script"].contains tag.name then
    some (b.insertText tag)
  else none

def startsBody (name : String) : Bool := ["body", "html", "br"].contains name

def startsPage (name : String) : Bool := name = "head" || startsBody name

def empty (name : String) : Tag := ⟨name, []⟩

def onInitial (b : Builder) : Token → Step
  | .char c =>
    if isSpace c then .done b else .again { b with oldRules := true, mode := .beforeHtml }
  | .gap => .done b
  | .doctype declared =>
    .done { b with oldRules := b.early.askForOldRules declared, mode := .beforeHtml }
  | _ => .again { b with oldRules := true, mode := .beforeHtml }

def onBeforeHtml (b : Builder) (t : Token) : Step :=
  let opened : Step := .again ((b.insert (empty "html")).setMode .beforeHead)
  match t with
  | .char c => if isSpace c then .done b else opened
  | .gap => .done b
  | .doctype _ => .done b
  | .start tag =>
    if tag.name = "html" then .done ((b.insert tag).setMode .beforeHead) else opened
  | .stop name => if startsPage name then opened else .done b
  | .finish => opened

def onBeforeHead (b : Builder) (t : Token) : Step :=
  let opened : Step := .again ((b.insert (empty "head")).setMode .inHead)
  match t with
  | .char c => if isSpace c then .done b else opened
  | .gap => .done b
  | .doctype _ => .done b
  | .start tag =>
    if tag.name = "html" then .done (b.mergeInto tag)
    else if tag.name = "head" then .done ((b.insert tag).setMode .inHead)
    else opened
  | .stop name => if startsPage name then opened else .done b
  | .finish => opened

def onHead (b : Builder) (t : Token) : Step :=
  let closed := b.pop.setMode .afterHead
  match t with
  | .char c => if isSpace c then .done (b.insertChar c) else .again closed
  | .gap => .done b
  | .doctype _ => .done b
  | .start tag =>
    if tag.name = "html" then .done (b.mergeInto tag)
    else if tag.name = "head" then .done b
    else if tag.name = "noscript" then .done (b.insertText tag)
    else match b.headContent? tag with
      | some b => .done b
      | none => .again closed
  | .stop name =>
    if name = "head" then .done closed
    else if startsBody name then .again closed
    else .done b
  | .finish => .again closed

/-- Opens the head once more for what belongs into it; the nodes behind it stay there. It is given
up from the start, so it closes with the element put into it. -/
def reopenHead (b : Builder) : Builder :=
  match b.frames with
  | root :: rest =>
    let isHead : Node → Bool
      | .element tag _ => tag.name = "head"
      | .text _ => false
    let later := root.children.takeWhile (! isHead ·)
    match root.children.drop later.length with
    | .element tag children :: earlier =>
      { b with
        frames := ⟨b.nextId, tag, children.reverse, later, true⟩ ::
          { root with children := earlier } :: rest
        nextId := b.nextId + 1 }
    | _ => b
  | [] => b

def settle (b : Builder) : Builder :=
  match b.frames with
  | inner :: rest => { b with frames := Frames.settle inner rest }
  | [] => b

def onAfterHead (b : Builder) (t : Token) : Step :=
  let opened : Step := .again ((b.insert (empty "body")).setMode .inBody)
  match t with
  | .char c => if isSpace c then .done (b.insertChar c) else opened
  | .gap => .done b
  | .doctype _ => .done b
  | .start tag =>
    if tag.name = "html" then .done (b.mergeInto tag)
    else if tag.name = "body" then .done ((b.insert tag).setMode .inBody)
    else if tag.name = "head" then .done b
    else match b.reopenHead.headContent? tag with
      | some b => .done b.settle
      | none => opened
  | .stop name => if startsBody name then opened else .done b
  | .finish => opened

end PageExtract.Html.Builder
