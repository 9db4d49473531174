/-! # Tokens of a rule

A rule is written with the document mark `D`, the four operators `#`, `@`, `>`, `?`, and quoted
texts. Every token knows where it stands.
-/
namespace PageExtract.Rule

/-- The marks around a quoted text: a selector in single quotes asks for the first match, one in
triple quotes for every match. -/
inductive Quote where
  | single
  | triple
  deriving DecidableEq

def Quote.marks : Quote → String
  | .single => "'"
  | .triple => "'''"

structure Quoted where
  quote : Quote
  text : String
  deriving DecidableEq

/-- The text between its marks; nothing is escaped. -/
def Quoted.written (q : Quoted) : String := q.quote.marks ++ q.text ++ q.quote.marks

/-- A place in a source: the characters before it, and the line and column counted from one. -/
structure Place where
  offset : Nat
  line : Nat
  column : Nat
  deriving DecidableEq

namespace Place

def origin : Place := ⟨0, 1, 1⟩

def right (p : Place) : Place := ⟨p.offset + 1, p.line, p.column + 1⟩

def nextLine (p : Place) : Place := ⟨p.offset + 1, p.line + 1, 1⟩

/-- The place after a character of a token: only a line feed starts a new line there. -/
def past (p : Place) (c : Char) : Place := if c = '\n' then p.nextLine else p.right

def pastAll (p : Place) (cs : List Char) : Place := cs.foldl past p

@[simp] theorem offset_right (p : Place) : p.right.offset = p.offset + 1 := rfl

@[simp] theorem offset_nextLine (p : Place) : p.nextLine.offset = p.offset + 1 := rfl

@[simp] theorem offset_past (p : Place) (c : Char) : (p.past c).offset = p.offset + 1 := by
  unfold past; split <;> rfl

@[simp] theorem offset_pastAll (p : Place) (cs : List Char) :
    (p.pastAll cs).offset = p.offset + cs.length := by
  induction cs generalizing p with
  | nil => rfl
  | cons c cs ih =>
    have h : p.pastAll (c :: cs) = (p.past c).pastAll cs := rfl
    rw [h, ih, offset_past, List.length_cons]
    omega

end Place

inductive Kind where
  | document
  | quoted (q : Quoted)
  | hash
  | atSign
  | arrow
  | question
  | finish
  deriving DecidableEq

def Kind.describe : Kind → String
  | .document => "'D'"
  | .quoted q => "literal " ++ q.written
  | .hash => "'#'"
  | .atSign => "'@'"
  | .arrow => "'>'"
  | .question => "'?'"
  | .finish => "end of input"

structure Token where
  kind : Kind
  start : Place
  stop : Nat
  deriving DecidableEq

structure Located (α : Type) where
  cause : α
  place : Place
  deriving DecidableEq

end PageExtract.Rule
