import PageExtract.Html.TableRules
import PageExtract.Html.Tokens

/-! # From tokens to pages

Every token is used in the mode of the builder, or changes the mode and is looked at again. Every
text makes a page, as the root, the head and the body open on their own. Markup of other languages
inside a page, templates, frame sets, options of a selection and tables with misplaced content are
read like any other elements.
-/
namespace PageExtract

namespace Html.Builder

def step (b : Builder) (t : Token) : Step :=
  match b.mode with
  | .initial => b.onInitial t
  | .beforeHtml => b.onBeforeHtml t
  | .beforeHead => b.onBeforeHead t
  | .inHead => b.onHead t
  | .afterHead => b.onAfterHead t
  | .inBody => b.onBody t
  | .inText back => b.onText back t
  | .inTable => b.onTable t
  | .inCaption => b.onCaption t
  | .inColumnGroup => b.onColumnGroup t
  | .inTableBody => b.onTableBody t
  | .inRow => b.onRow t
  | .inCell => b.onCell t
  | .afterBody => b.onAfterBody t
  | .afterAfterBody => b.onAfterAfterBody t

def steps (t : Token) : Nat → Builder → Builder
  | 0, b => b
  | n + 1, b =>
    match b.step t with
    | .done b => b
    | .again b => steps t n b

/-- A token can change the mode once for each kind of mode and each open element at most. -/
def use (b : Builder) (t : Token) : Builder := steps t (16 + 2 * b.frames.length) b

/-- The line feed right behind a start tag that asks for it is dropped, unless there is a gap. -/
def take (b : Builder) (t : Token) : Builder :=
  if b.skipFeed then
    let b := { b with skipFeed := false }
    if t = .char '\n' then b else b.use t
  else b.use t

def finish (b : Builder) : Page :=
  match b.frames.closeAll with
  | some root => ⟨root.tag, root.children.reverse⟩
  | none => ⟨empty "html", []⟩

end Html.Builder

def Page.ofHtmlWith (early : Html.EarlyTypes) (html : String) : Page :=
  ((Html.tokens html).foldl Html.Builder.take (Html.Builder.start early)).finish

def Page.ofHtml (html : String) : Page := Page.ofHtmlWith .unknown html

end PageExtract
