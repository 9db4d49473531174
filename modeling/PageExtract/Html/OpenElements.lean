import PageExtract.Page.Node

/-! # Open elements

While a page is built, the elements that are still open form a list, the innermost first. Each holds
the children that are complete. An element may be given up as open while elements inside it go on;
it is then around them and nothing more, and closes with the last of them.
-/
namespace PageExtract.Html

structure Frame where
  id : Nat
  tag : Tag
  /-- The latest child first. -/
  children : List Node
  /-- The siblings already behind the element, the latest first. -/
  later : List Node
  givenUp : Bool

abbrev Frames := List Frame

namespace Frame

def name (f : Frame) : String := f.tag.name

def node (f : Frame) : Node := .element f.tag f.children.reverse

def absorb (f inner : Frame) : Frame :=
  { f with children := inner.later ++ inner.node :: f.children }

end Frame

namespace Frames

/-- Closes what has been given up and has nothing open inside. -/
def settle (inner : Frame) : Frames → Frames
  | [] => [inner]
  | outer :: rest =>
    if inner.givenUp then settle (outer.absorb inner) rest else inner :: outer :: rest

def pop : Frames → Frames
  | inner :: outer :: rest => settle (outer.absorb inner) rest
  | frames => frames

def popWhile (p : String → Bool) : Frames → Frames
  | [] => []
  | inner :: rest => go inner rest
where
  go (inner : Frame) : Frames → Frames
    | [] => [inner]
    | outer :: rest =>
      if inner.givenUp || p inner.name then go (outer.absorb inner) rest
      else inner :: outer :: rest

def popThrough (p : Frame → Bool) : Frames → Frames
  | [] => []
  | inner :: rest => go inner rest
where
  go (inner : Frame) : Frames → Frames
    | [] => [inner]
    | outer :: rest =>
      if !inner.givenUp && p inner then settle (outer.absorb inner) rest
      else go (outer.absorb inner) rest

def closeAll : Frames → Option Frame
  | [] => none
  | inner :: rest => some (rest.foldl (fun inner outer => outer.absorb inner) inner)

/-- Whether `p` holds of an open element with no barrier inside it. -/
def anyInside (barrier : List String) (p : Frame → Bool) : Frames → Bool
  | [] => false
  | f :: rest =>
    if f.givenUp then anyInside barrier p rest
    else p f || (!barrier.contains f.name && anyInside barrier p rest)

def has (barrier : List String) (name : String) (frames : Frames) : Bool :=
  frames.anyInside barrier (·.name = name)

def isOpen (id : Nat) (frames : Frames) : Bool := frames.any fun f => f.id = id && !f.givenUp

def giveUp (id : Nat) (frames : Frames) : Frames :=
  match frames.map fun f => if f.id = id then { f with givenUp := true } else f with
  | [] => []
  | inner :: rest => settle inner rest

end Frames

/-! ## Classes of elements -/

def scopeBarrier : List String :=
  ["applet", "caption", "html", "table", "td", "th", "marquee", "object", "template"]

def listItemBarrier : List String := "ol" :: "ul" :: scopeBarrier

def buttonBarrier : List String := "button" :: scopeBarrier

def tableBarrier : List String := ["html", "table", "template"]

def headings : List String := ["h1", "h2", "h3", "h4", "h5", "h6"]

def impliedEnds : List String :=
  ["dd", "dt", "li", "optgroup", "option", "p", "rb", "rp", "rt", "rtc"]

def special : List String :=
  ["address", "applet", "area", "article", "aside", "base", "basefont", "bgsound", "blockquote",
   "body", "br", "button", "caption", "center", "col", "colgroup", "dd", "details", "dir", "div",
   "dl", "dt", "embed", "fieldset", "figcaption", "figure", "footer", "form", "frame", "frameset",
   "h1", "h2", "h3", "h4", "h5", "h6", "head", "header", "hgroup", "hr", "html", "iframe", "img",
   "input", "isindex", "li", "link", "listing", "main", "marquee", "menu", "meta", "nav", "noembed",
   "noframes", "noscript", "object", "ol", "p", "param", "plaintext", "pre", "script", "section",
   "select", "source", "style", "summary", "table", "tbody", "td", "template", "textarea", "tfoot",
   "th", "thead", "title", "tr", "track", "ul", "wbr", "xmp"]

end PageExtract.Html
