import PageExtract.Page.Node

/-! # Tokens of an HTML text

Start tags carry their attributes, end tags their names. Text is taken character by character. What
leaves nothing in a page is a gap: only its place matters.
-/
namespace PageExtract.Html

inductive Token where
  | start (tag : Tag)
  | stop (name : String)
  | char (c : Char)
  /-- A comment, or a slip such as `</>` or a missing semicolon. -/
  | gap
  /-- What stands behind the word `doctype`, or nothing if the text ends there. -/
  | doctype (declared : Option (List Char))
  | finish
  deriving DecidableEq

def chars (cs : List Char) : List Token := cs.map Token.char

def isSpace (c : Char) : Bool := ['\t', '\n', '\x0c', '\r', ' '].contains c

def endsName (c : Char) : Bool := isSpace c || c == '/' || c == '>'

end PageExtract.Html
