import PageExtract.Rule.Token

/-! # From characters to tokens

Spaces, tabs and line breaks separate tokens. Three quotes are always read as one triple mark, and a
quoted text ends at the first closing mark of its kind.
-/
namespace PageExtract.Rule

inductive LexCause where
  | unexpected (c : Char)
  | unterminated (q : Quote)
  deriving DecidableEq

def LexCause.message : LexCause → String
  | .unexpected c => "Unexpected character: '" ++ String.singleton c ++ "'"
  | .unterminated .single => "Unterminated literal"
  | .unterminated .triple => "Unterminated triple-quoted literal"

abbrev LexError := Located LexCause

def LexError.message (e : LexError) : String := e.cause.message

def LexError.describe (e : LexError) : String :=
  s!"Lexer error at line {e.place.line}, column {e.place.column}: {e.message}"

def Quote.cut : Quote → List Char → Option (List Char × List Char)
  | .single, '\x27' :: cs => some ([], cs)
  | .triple, '\x27' :: '\x27' :: '\x27' :: cs => some ([], cs)
  | q, c :: cs => (q.cut cs).map fun (text, rest) => (c :: text, rest)
  | _, [] => none

theorem Quote.length_of_cut {q : Quote} {cs text rest : List Char}
    (h : q.cut cs = some (text, rest)) : rest.length < cs.length := by
  fun_induction Quote.cut q cs generalizing text with
  | case1 => simp_all
  | case2 => simp_all; omega
  | case3 q c cs _ _ ih =>
    obtain ⟨⟨t, r⟩, hr, he⟩ := Option.map_eq_some_iff.1 h
    obtain ⟨rfl, rfl⟩ := Prod.mk.injEq .. ▸ he
    exact Nat.lt_succ_of_lt (ih hr)
  | case4 => simp at h

def Kind.ofChar? : Char → Option Kind
  | 'D' => some .document
  | '#' => some .hash
  | '@' => some .atSign
  | '>' => some .arrow
  | '?' => some .question
  | _ => none

def Quoted.token (q : Quoted) (p : Place) : Token :=
  ⟨.quoted q, p, (p.pastAll q.written.toList).offset⟩

def tokensFrom (p : Place) : List Char → Except LexError (List Token)
  | [] => .ok [⟨.finish, p, p.offset⟩]
  | '\n' :: cs => tokensFrom p.nextLine cs
  | '\r' :: '\n' :: cs => tokensFrom p.right.nextLine cs
  | '\r' :: cs => tokensFrom p.nextLine cs
  | '\x27' :: '\x27' :: '\x27' :: cs =>
    match _h : Quote.triple.cut cs with
    | none => .error ⟨.unterminated .triple, p⟩
    | some (text, rest) =>
      let q : Quoted := ⟨.triple, String.ofList text⟩
      (tokensFrom (p.pastAll q.written.toList) rest).map (q.token p :: ·)
  | '\x27' :: cs =>
    match _h : Quote.single.cut cs with
    | none => .error ⟨.unterminated .single, p⟩
    | some (text, rest) =>
      let q : Quoted := ⟨.single, String.ofList text⟩
      (tokensFrom (p.pastAll q.written.toList) rest).map (q.token p :: ·)
  | c :: cs =>
    if c = ' ' ∨ c = '\t' then tokensFrom p.right cs
    else match Kind.ofChar? c with
      | some kind => (tokensFrom p.right cs).map (⟨kind, p, p.offset + 1⟩ :: ·)
      | none => .error ⟨.unexpected c, p⟩
termination_by cs => cs.length
decreasing_by
  all_goals simp only [List.length_cons]
  all_goals first
    | omega
    | exact Nat.lt_of_lt_of_le (Quote.length_of_cut ‹_›) (by omega)

def tokenize (source : String) : Except LexError (List Token) :=
  tokensFrom Place.origin source.toList

end PageExtract.Rule
