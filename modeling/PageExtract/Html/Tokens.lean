import PageExtract.Html.Doctype
import PageExtract.Html.RawText

/-! # From characters to tokens

A byte order mark is dropped in front and right behind a script. Every line break becomes a line
feed. A `<` that starts nothing is text. A tag that the text ends in leaves nothing.
-/
namespace PageExtract.Html

def feedLines : List Char → List Char
  | [] => []
  | '\r' :: '\n' :: cs => '\n' :: feedLines cs
  | '\r' :: cs => '\n' :: feedLines cs
  | c :: cs => c :: feedLines cs

def dropMark : List Char → List Char
  | c :: cs => if c.toNat = 0xFEFF then cs else c :: cs
  | [] => []

theorem length_dropMark_le (cs : List Char) : (dropMark cs).length ≤ cs.length := by
  unfold dropMark
  split
  · split
    · exact Nat.le_succ _
    · exact Nat.le_refl _
  · exact Nat.le_refl _

def Content.skipMark (content : Content) (cs : List Char) : List Char :=
  if content = .script then dropMark cs else cs

theorem Content.length_skipMark_le (content : Content) (cs : List Char) :
    (content.skipMark cs).length ≤ cs.length := by
  unfold Content.skipMark
  split
  · exact length_dropMark_le cs
  · exact Nat.le_refl _

inductive Markup where
  | text
  | unfinished
  | token (t : Token) (rest : List Char)
  deriving DecidableEq

def afterClosing (cs : List Char) : List Char := (cs.dropWhile (· != '>')).tail

def afterComment : List Char → List Char
  | [] => []
  | '-' :: '-' :: '>' :: cs => cs
  | '-' :: '-' :: '!' :: '>' :: cs => cs
  | _ :: cs => afterComment cs

def readComment : List Char → Markup
  | '>' :: cs => .token .gap cs
  | '-' :: '>' :: cs => .token .gap cs
  | cs => .token .gap (afterComment cs)

def doctypeName : List Char := ['d', 'o', 'c', 't', 'y', 'p', 'e']

def readDeclaration : List Char → Markup
  | '-' :: '-' :: cs => readComment cs
  | cs =>
    if lower (cs.take 7) = doctypeName then
      let body := (cs.drop 7).takeWhile (· != '>')
      let ended := ((cs.drop 7).drop body.length).isEmpty
      .token (.doctype (if ended then none else some body)) (afterClosing (cs.drop 7))
    else .token .gap (afterClosing cs)

def readStart (cs : List Char) : Markup :=
  let name := cs.takeWhile (! endsName ·)
  match readAttributes .between [] (cs.drop name.length) with
  | none => .unfinished
  | some (attributes, rest) =>
    .token (.start ⟨String.ofList (name.map lowerName), attributes⟩) rest

def readStop (cs : List Char) : Markup :=
  let name := cs.takeWhile (! endsName ·)
  match readAttributes .between [] (cs.drop name.length) with
  | none => .unfinished
  | some (_, rest) => .token (.stop (String.ofList (name.map lowerName))) rest

def readMarkup : List Char → Markup
  | [] => .text
  | '!' :: cs => readDeclaration cs
  | '?' :: cs => .token .gap (afterClosing cs)
  | '/' :: [] => .text
  | '/' :: '>' :: cs => .token .gap cs
  | '/' :: c :: cs =>
    if c.isAlpha then readStop (c :: cs) else .token .gap (afterClosing (c :: cs))
  | c :: cs => if c.isAlpha then readStart (c :: cs) else .text

def Markup.rest? : Markup → Option (List Char)
  | .text => none
  | .unfinished => none
  | .token _ rest => some rest

theorem length_afterClosing_le (cs : List Char) : (afterClosing cs).length ≤ cs.length := by
  unfold afterClosing
  rw [List.length_tail]
  have := (List.dropWhile_sublist (l := cs) (· != '>')).length_le
  omega

theorem length_afterComment_le (cs : List Char) : (afterComment cs).length ≤ cs.length := by
  fun_induction afterComment cs with
  | case1 => exact Nat.le_refl _
  | case2 cs => simp only [List.length_cons]; omega
  | case3 cs => simp only [List.length_cons]; omega
  | case4 _ cs _ _ ih => exact Nat.le_succ_of_le ih

theorem length_of_readComment {cs rest : List Char} (h : (readComment cs).rest? = some rest) :
    rest.length ≤ cs.length := by
  unfold readComment at h
  split at h
  · obtain rfl := Option.some.inj h
    exact Nat.le_succ _
  · obtain rfl := Option.some.inj h
    simp only [List.length_cons]
    omega
  · obtain rfl := Option.some.inj h
    exact length_afterComment_le _

theorem length_of_readDeclaration {cs rest : List Char}
    (h : (readDeclaration cs).rest? = some rest) : rest.length ≤ cs.length := by
  unfold readDeclaration at h
  split at h
  · have := length_of_readComment h
    simp only [List.length_cons]
    omega
  · split at h
    · obtain rfl := Option.some.inj h
      exact Nat.le_trans (length_afterClosing_le _) (by simp)
    · obtain rfl := Option.some.inj h
      exact length_afterClosing_le _

theorem length_of_readStart {cs rest : List Char} (h : (readStart cs).rest? = some rest) :
    rest.length ≤ cs.length := by
  unfold readStart at h
  dsimp only at h
  split at h
  · simp [Markup.rest?] at h
  · rename_i ha
    obtain rfl := Option.some.inj h
    have := length_of_readAttributes ha
    rw [List.length_drop] at this
    omega

theorem length_of_readStop {cs rest : List Char} (h : (readStop cs).rest? = some rest) :
    rest.length ≤ cs.length := by
  unfold readStop at h
  dsimp only at h
  split at h
  · simp [Markup.rest?] at h
  · rename_i ha
    obtain rfl := Option.some.inj h
    have := length_of_readAttributes ha
    rw [List.length_drop] at this
    omega

theorem length_of_readMarkup {cs rest : List Char} (h : (readMarkup cs).rest? = some rest) :
    rest.length ≤ cs.length := by
  unfold readMarkup at h
  split at h
  · simp [Markup.rest?] at h
  · exact Nat.le_succ_of_le (length_of_readDeclaration h)
  · obtain rfl := Option.some.inj h
    exact Nat.le_succ_of_le (length_afterClosing_le _)
  · simp [Markup.rest?] at h
  · obtain rfl := Option.some.inj h
    simp only [List.length_cons]
    omega
  · split at h
    · exact Nat.le_succ_of_le (length_of_readStop h)
    · obtain rfl := Option.some.inj h
      exact Nat.le_succ_of_le (length_afterClosing_le _)
  · split at h
    · exact length_of_readStart h
    · simp [Markup.rest?] at h

def tokensOf (cs : List Char) : List Token :=
  match cs with
  | [] => []
  | '<' :: cs =>
    match _h : readMarkup cs with
    | .text => .char '<' :: tokensOf cs
    | .unfinished => []
    | .token (.start tag) rest =>
      match Content.ofName? tag.name with
      | none => .start tag :: tokensOf rest
      | some content =>
        match _hs : content.split tag.name rest with
        | (text, none) => .start tag :: text
        | (text, some behind) =>
          match _ha : readAttributes .between [] behind with
          | none => .start tag :: text
          | some (_, after) =>
            .start tag :: (text ++ .stop tag.name :: tokensOf (content.skipMark after))
    | .token t rest => t :: tokensOf rest
  | c :: cs =>
    let text := cs.takeWhile (· != '<')
    textTokens (c :: text) ++ tokensOf (cs.drop text.length)
termination_by cs.length
decreasing_by
  · exact Nat.lt_succ_self _
  · exact Nat.lt_succ_of_le (length_of_readMarkup (by rw [_h]; rfl))
  · have h₁ := length_of_readMarkup (show (readMarkup cs).rest? = some rest by rw [_h]; rfl)
    have h₂ := Content.length_of_split
      (show (content.split tag.name rest).2 = some behind by rw [_hs])
    have h₃ := length_of_readAttributes _ha
    have h₄ := content.length_skipMark_le after
    simp only [List.length_cons]
    omega
  · exact Nat.lt_succ_of_le (length_of_readMarkup (by rw [_h]; rfl))
  · exact Nat.lt_succ_of_le (by simp)

def tokens (html : String) : List Token := tokensOf (feedLines (dropMark html.toList)) ++ [.finish]

end PageExtract.Html
