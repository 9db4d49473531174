import PageExtract.Html.Attributes

/-! # Elements whose content is text

Behind some start tags everything up to the matching end tag is text. In `title` and `textarea`
references are still replaced. A script may hold comments, and inside a comment whole scripts, whose
end tags do not end it. Behind `plaintext` nothing is markup any more.
-/
namespace PageExtract.Html

inductive Content where
  | escapable
  | raw
  | script
  | plain
  deriving DecidableEq

/-- The content of an element that is text; scripts count as enabled. -/
def Content.ofName? (name : String) : Option Content :=
  if name = "title" ∨ name = "textarea" then some .escapable
  else if name = "script" then some .script
  else if name = "plaintext" then some .plain
  else if name ∈ ["style", "xmp", "iframe", "noembed", "noframes", "noscript"] then some .raw
  else none

def beginsWithName : List Char → List Char → Bool
  | [], c :: _ => endsName c
  | n :: name, c :: cs => c.toLower == n && beginsWithName name cs
  | _, [] => false

def afterEndTag? (name : List Char) : List Char → Option (List Char)
  | '<' :: '/' :: cs => if beginsWithName name cs then some (cs.drop name.length) else none
  | _ => none

def splitRaw (name : List Char) : List Char → List Char × Option (List Char)
  | [] => ([], none)
  | c :: cs =>
    match afterEndTag? name (c :: cs) with
    | some rest => ([], some rest)
    | none =>
      let (text, rest) := splitRaw name cs
      (c :: text, rest)

/-- Where a script stands: in a comment, or in a script inside it, the number of dashes just before
counts up to two. -/
inductive ScriptState where
  | plain
  | comment (dashes : Nat)
  | nested (dashes : Nat)
  deriving DecidableEq

def scriptName : List Char := ['s', 'c', 'r', 'i', 'p', 't']

def countDash (dashes : Nat) (c : Char) : Nat := if c = '-' then min 2 (dashes + 1) else 0

def ScriptState.next : ScriptState → List Char → ScriptState
  | .plain, '<' :: '!' :: '-' :: '-' :: _ => .comment 0
  | .plain, _ => .plain
  | .comment 2, '>' :: _ => .plain
  | .comment _, '<' :: cs => if beginsWithName scriptName cs then .nested 0 else .comment 0
  | .comment dashes, c :: _ => .comment (countDash dashes c)
  | .nested 2, '>' :: _ => .plain
  | .nested _, '<' :: '/' :: cs => if beginsWithName scriptName cs then .comment 0 else .nested 0
  | .nested dashes, c :: _ => .nested (countDash dashes c)
  | state, [] => state

def ScriptState.isNested : ScriptState → Bool
  | .nested _ => true
  | _ => false

def splitScript (state : ScriptState) : List Char → List Char × Option (List Char)
  | [] => ([], none)
  | c :: cs =>
    match if state.isNested then none else afterEndTag? scriptName (c :: cs) with
    | some rest => ([], some rest)
    | none =>
      let (text, rest) := splitScript (state.next (c :: cs)) cs
      (c :: text, rest)

def Content.split (content : Content) (name : String) (cs : List Char) :
    List Token × Option (List Char) :=
  match content with
  | .escapable =>
    let (text, rest) := splitRaw name.toList cs
    (textTokens (text.map Text.withoutNul), rest)
  | .raw =>
    let (text, rest) := splitRaw name.toList cs
    (chars (text.map Text.withoutNul), rest)
  | .script =>
    let (text, rest) := splitScript .plain cs
    (chars (text.map Text.withoutNul), rest)
  | .plain => (chars (cs.map Text.withoutNul), none)

theorem length_of_afterEndTag? {name cs rest : List Char} (h : afterEndTag? name cs = some rest) :
    rest.length < cs.length := by
  unfold afterEndTag? at h
  split at h
  · split at h
    · obtain rfl := Option.some.inj h
      simp only [List.length_drop, List.length_cons]
      omega
    · simp at h
  · simp at h

theorem length_of_splitRaw {name cs rest : List Char} (h : (splitRaw name cs).2 = some rest) :
    rest.length < cs.length := by
  induction cs with
  | nil => simp [splitRaw] at h
  | cons c cs ih =>
    unfold splitRaw at h
    split at h
    · rename_i hr
      exact length_of_afterEndTag? (hr.trans h)
    · exact Nat.lt_succ_of_lt (ih h)

theorem length_of_splitScript {state : ScriptState} {cs rest : List Char}
    (h : (splitScript state cs).2 = some rest) : rest.length < cs.length := by
  induction cs generalizing state with
  | nil => simp [splitScript] at h
  | cons c cs ih =>
    unfold splitScript at h
    split at h
    · rename_i hr
      split at hr
      · simp at hr
      · exact length_of_afterEndTag? (hr.trans h)
    · exact Nat.lt_succ_of_lt (ih h)

theorem Content.length_of_split {content : Content} {name : String} {cs rest : List Char}
    (h : (content.split name cs).2 = some rest) : rest.length < cs.length := by
  cases content with
  | escapable => exact length_of_splitRaw h
  | raw => exact length_of_splitRaw h
  | script => exact length_of_splitScript h
  | plain => simp [Content.split] at h

end PageExtract.Html
