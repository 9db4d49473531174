import PageExtract.Proofs.Rule.Scan

/-! # The steps of the scanner

The scanner leaves out a separator or cuts off one token at a time, and looks one character ahead to
do so. Main statement: where it fails, the text before is tokenized on its own, the failure is one
of the character or of the mark that stands there, and for a character nothing behind it matters.
-/
namespace PageExtract.Rule

/-- A step over `piece` from a place, with the character ahead of it, the tokens it gives and the
place behind it. -/
inductive Step (p : Place) : List Char → Option Char → List Token → Place → Prop
  | blank {c : Char} (hc : c = ' ' ∨ c = '\t') (ahead : Option Char) : Step p [c] ahead [] p.right
  | lineFeed (ahead : Option Char) : Step p ['\n'] ahead [] p.nextLine
  | returnFeed (ahead : Option Char) : Step p ['\r', '\n'] ahead [] p.right.nextLine
  | loneReturn {ahead : Option Char} (h : ahead ≠ some '\n') : Step p ['\r'] ahead [] p.nextLine
  | mark {c : Char} {kind : Kind} (hc : Kind.ofChar? c = some kind) (ahead : Option Char) :
      Step p [c] ahead [⟨kind, p, p.offset + 1⟩] p.right
  | quoted {q : Quoted} {ahead : Option Char} (hq : q.Writable)
      (seam : q = ⟨.single, ""⟩ → ahead ≠ some '\x27') :
      Step p q.written.toList ahead [q.token p] (p.pastAll q.written.toList)

/-- The states of a scan of `source`: the tokens so far, the place, and the text behind it. -/
inductive Reaches (source : List Char) : List Token → Place → List Char → Prop
  | start : Reaches source [] .origin source
  | step {tokens more : List Token} {p q : Place} {piece rest : List Char}
      (h : Reaches source tokens p (piece ++ rest)) (hs : Step p piece rest.head? more q) :
      Reaches source (tokens ++ more) q rest

/-- The texts at whose front no step can be made. -/
inductive Stuck : List Char → LexCause → Prop
  | unexpected {c : Char} (cs : List Char) (hsep : isSeparator c = false)
      (hmark : Kind.ofChar? c = none) (hquote : c ≠ '\x27') : Stuck (c :: cs) (.unexpected c)
  | triple {cs : List Char} (hopen : ¬ Quote.triple.marks.toList <:+: cs) :
      Stuck (Quote.triple.marks.toList ++ cs) (.unterminated .triple)
  | single {cs : List Char} (hopen : '\x27' ∉ cs) : Stuck ('\x27' :: cs) (.unterminated .single)

theorem Quote.cut_eq_none_iff {q : Quote} {cs : List Char} :
    q.cut cs = none ↔ ¬ q.marks.toList <:+: cs := by
  induction cs with
  | nil => cases q <;> simp [Quote.cut, Quote.marks]
  | cons c cs ih =>
    rw [List.infix_cons_iff]
    by_cases hc : q.marks.toList <+: c :: cs
    · obtain ⟨after, hafter⟩ := hc
      rw [← hafter, Quote.cut_marks]
      simp
    · rw [Quote.cut_of_not_prefix hc, Option.map_eq_none_iff, ih]
      simp [hc]

namespace Step
variable {p q : Place} {piece : List Char} {ahead : Option Char} {more : List Token}

theorem piece_ne_nil (h : Step p piece ahead more q) : piece ≠ [] := by
  cases h with
  | @quoted r =>
    intro hnil
    have hhead := r.head?_written
    rw [hnil] at hhead
    cases hhead
  | _ => simp

theorem offset_eq (h : Step p piece ahead more q) : q.offset = p.offset + piece.length := by
  cases h with
  | quoted => rw [Place.offset_pastAll]
  | _ => rfl

/-- A step is also made at the end of the text. -/
theorem ahead_none (h : Step p piece ahead more q) : Step p piece none more q := by
  cases h with
  | blank hc => exact .blank hc none
  | lineFeed => exact .lineFeed none
  | returnFeed => exact .returnFeed none
  | loneReturn => exact .loneReturn (by simp)
  | mark hc => exact .mark hc none
  | quoted hq => exact .quoted hq (by simp)

theorem tokensFrom_eq {rest : List Char} (h : Step p piece rest.head? more q) :
    tokensFrom p (piece ++ rest) = (tokensFrom q rest).map (more ++ ·) := by
  have hid : ∀ r : Except LexError (List Token), r.map ([] ++ ·) = r := by
    intro r
    cases r <;> rfl
  cases h with
  | blank hc =>
    rw [hid]
    rcases hc with rfl | rfl <;> simp [tokensFrom]
  | lineFeed => rw [hid, List.singleton_append, tokensFrom]
  | returnFeed =>
    rw [hid]
    exact tokensFrom.eq_3 p rest
  | loneReturn hahead =>
    rw [hid]
    refine tokensFrom.eq_4 p rest fun more hm => hahead ?_
    rw [hm, List.head?_cons]
  | mark hc => exact tokensFrom_mark hc p rest
  | quoted hq seam => exact tokensFrom_quoted hq p seam

end Step

theorem Stuck.tokensFrom_eq {cs : List Char} {cause : LexCause} (h : Stuck cs cause) (p : Place) :
    tokensFrom p cs = .error ⟨cause, p⟩ := by
  cases h with
  | @unexpected c cs hsep hmark hquote =>
    simp only [isSeparator, Bool.or_eq_false_iff, decide_eq_false_iff_not] at hsep
    obtain ⟨⟨⟨hspace, htab⟩, hfeed⟩, hreturn⟩ := hsep
    rw [tokensFrom.eq_7]
    · rw [if_neg (not_or.2 ⟨hspace, htab⟩), hmark]
    all_goals (intros; subst_vars; contradiction)
  | @triple cs hopen =>
    have hcut := Quote.cut_eq_none_iff.2 hopen
    rw [Quote.toList_marks_triple]
    simp only [List.cons_append, List.nil_append]
    rw [tokensFrom.eq_5]
    split
    · rfl
    · simp_all
  | @single cs hopen =>
    have hcut : Quote.single.cut cs = none := by
      rw [Quote.cut_eq_none_iff, Quote.toList_marks_single, List.singleton_infix_iff]
      exact hopen
    have hnot : ∀ more, cs = '\x27' :: '\x27' :: more → False := by
      rintro more rfl
      exact hopen (by simp)
    rw [tokensFrom.eq_6 p cs hnot]
    split
    · rfl
    · simp_all

theorem exists_step_of_separator (p : Place) {c : Char} (hc : isSeparator c) (cs : List Char) :
    ∃ piece rest q, c :: cs = piece ++ rest ∧ Step p piece rest.head? [] q := by
  simp only [isSeparator, Bool.or_eq_true, decide_eq_true_eq] at hc
  rcases hc with (hblank | rfl) | rfl
  · exact ⟨[c], cs, _, rfl, .blank hblank _⟩
  · exact ⟨['\n'], cs, _, rfl, .lineFeed _⟩
  · by_cases hfeed : cs.head? = some '\n'
    · obtain ⟨rest, rfl⟩ := List.head?_eq_some_iff.1 hfeed
      exact ⟨['\r', '\n'], rest, _, rfl, .returnFeed _⟩
    · exact ⟨['\r'], cs, _, rfl, .loneReturn hfeed⟩

theorem exists_step_of_quote (p : Place) (cs : List Char) :
    (∃ cause, Stuck ('\x27' :: cs) cause) ∨
      ∃ piece rest more q, '\x27' :: cs = piece ++ rest ∧ Step p piece rest.head? more q := by
  by_cases hopen : ∃ inner, cs = '\x27' :: '\x27' :: inner
  · obtain ⟨inner, rfl⟩ := hopen
    cases hcut : Quote.triple.cut inner with
    | none => exact .inl ⟨_, .triple (Quote.cut_eq_none_iff.1 hcut)⟩
    | some found =>
      obtain ⟨text, rest⟩ := found
      obtain ⟨hq, hw⟩ := writable_of_cut hcut
      exact .inr ⟨_, rest, _, _, hw, .quoted hq (by simp)⟩
  · cases hcut : Quote.single.cut cs with
    | none =>
      have hnot := Quote.cut_eq_none_iff.1 hcut
      rw [Quote.toList_marks_single, List.singleton_infix_iff] at hnot
      exact .inl ⟨_, .single hnot⟩
    | some found =>
      obtain ⟨text, rest⟩ := found
      obtain ⟨hq, hw⟩ := writable_of_cut hcut
      have hnot : ∀ inner, cs = '\x27' :: '\x27' :: inner → False := fun inner h => hopen ⟨inner, h⟩
      exact .inr ⟨_, rest, _, _, hw, .quoted hq (seam_of_cut hnot hcut)⟩

/-- A text is at its end, or no step can be made at its front, or one can. -/
theorem exists_step (p : Place) (cs : List Char) :
    cs = [] ∨ (∃ cause, Stuck cs cause) ∨
      ∃ piece rest more q, cs = piece ++ rest ∧ Step p piece rest.head? more q := by
  rcases cs with _ | ⟨c, cs⟩
  · exact .inl rfl
  right
  by_cases hsep : isSeparator c
  · obtain ⟨piece, rest, q, hsplit, hs⟩ := exists_step_of_separator p hsep cs
    exact .inr ⟨piece, rest, [], q, hsplit, hs⟩
  cases hmark : Kind.ofChar? c with
  | some kind => exact .inr ⟨[c], cs, _, _, rfl, .mark hmark _⟩
  | none =>
    by_cases hquote : c = '\x27'
    · subst hquote
      exact exists_step_of_quote p cs
    · exact .inl ⟨_, .unexpected cs (by simpa using hsep) hmark hquote⟩

namespace Reaches
variable {source rest : List Char} {tokens : List Token} {p : Place}

/-- What is left to do from a state is what the scanner does from there. -/
theorem tokensFrom_eq (h : Reaches source tokens p rest) :
    tokensFrom .origin source = (tokensFrom p rest).map (tokens ++ ·) := by
  induction h with
  | start => cases tokensFrom .origin source <;> rfl
  | @step tokens more p q piece rest _ hs ih =>
    rw [ih, hs.tokensFrom_eq]
    cases tokensFrom q rest with
    | error e => rfl
    | ok later => simp [Except.map]

/-- A state is reached over the text before it. Another text may stand behind if it begins with the
same character, or none at all. -/
theorem exists_before (h : Reaches source tokens p rest) :
    ∃ before, source = before ++ rest ∧ p.offset = before.length ∧
      ∀ other, other = [] ∨ other.head? = rest.head? →
        Reaches (before ++ other) tokens p other := by
  induction h with
  | start => exact ⟨[], rfl, rfl, fun other _ => .start⟩
  | @step tokens more p q piece rest _ hs ih =>
    obtain ⟨before, rfl, hp, hreach⟩ := ih
    refine ⟨before ++ piece, (List.append_assoc ..).symm, ?_, ?_⟩
    · rw [hs.offset_eq, hp, List.length_append]
    · intro other hother
      rw [List.append_assoc]
      have hhead : (piece ++ other).head? = (piece ++ rest).head? := by
        rw [List.head?_append_of_ne_nil _ hs.piece_ne_nil,
          List.head?_append_of_ne_nil _ hs.piece_ne_nil]
      refine .step (hreach _ (.inr hhead)) ?_
      rcases hother with rfl | hother
      · exact hs.ahead_none
      · exact hother ▸ hs

theorem exists_final (h : Reaches source tokens p rest) :
    ∃ tokens' p' rest', Reaches source tokens' p' rest' ∧
      (rest' = [] ∨ ∃ cause, Stuck rest' cause) := by
  induction hn : rest.length using Nat.strong_induction_on generalizing tokens p rest with
  | _ n ih =>
    rcases exists_step p rest with hnil | hstuck | ⟨piece, rest', more, q, rfl, hs⟩
    · exact ⟨tokens, p, rest, h, .inl hnil⟩
    · exact ⟨tokens, p, rest, h, .inr hstuck⟩
    · have hlength := List.length_pos_iff.2 hs.piece_ne_nil
      rw [List.length_append] at hn
      exact ih rest'.length (by omega) (.step h hs) rfl

end Reaches

theorem Reaches.tokenize_eq {source : String} {tokens : List Token} {p : Place}
    (h : Reaches source.toList tokens p []) :
    tokenize source = .ok (tokens ++ [⟨.finish, p, p.offset⟩]) := by
  rw [tokenize, h.tokensFrom_eq, tokensFrom]
  rfl

theorem Reaches.tokenize_of_stuck {source : String} {tokens : List Token} {e : LexError}
    {rest : List Char} (h : Reaches source.toList tokens e.place rest) (hs : Stuck rest e.cause) :
    tokenize source = .error e := by
  rw [tokenize, h.tokensFrom_eq, hs.tokensFrom_eq]
  rfl

/-- A scan reaches the end of its source, or gets stuck on the way. -/
theorem tokenize_cases (source : String) :
    (∃ tokens p, Reaches source.toList tokens p [] ∧
      tokenize source = .ok (tokens ++ [⟨.finish, p, p.offset⟩])) ∨
    ∃ tokens e rest, Reaches source.toList tokens e.place rest ∧ Stuck rest e.cause ∧
      tokenize source = .error e := by
  have hstart : Reaches source.toList [] .origin source.toList := .start
  obtain ⟨tokens, p, rest, h, rfl | ⟨cause, hstuck⟩⟩ := hstart.exists_final
  · exact .inl ⟨tokens, p, h, h.tokenize_eq⟩
  · exact .inr ⟨tokens, ⟨cause, p⟩, rest, h, hstuck, h.tokenize_of_stuck hstuck⟩

/-! ## Failures -/

/-- A scan that fails with `e` has passed `before`, and is stuck at `rest`. It would have passed it
as well with another text behind, which begins with the same character or is empty. -/
structure StuckAt (source : String) (e : LexError) (tokens : List Token)
    (before rest : List Char) : Prop where
  split : source.toList = before ++ rest
  offset : e.place.offset = before.length
  stuck : Stuck rest e.cause
  passes : ∀ other, other = [] ∨ other.head? = rest.head? →
    Reaches (before ++ other) tokens e.place other

theorem exists_stuckAt_of_error {source : String} {e : LexError} (h : tokenize source = .error e) :
    ∃ tokens before rest, StuckAt source e tokens before rest := by
  rcases tokenize_cases source with ⟨tokens, p, -, hok⟩ | ⟨tokens, e', rest, hreach, hstuck, he⟩
  · rw [hok] at h
    cases h
  · obtain rfl : e' = e := Except.error.inj (he.symm.trans h)
    obtain ⟨before, hsplit, hoffset, hother⟩ := hreach.exists_before
    exact ⟨tokens, before, rest, hsplit, hoffset, hstuck, hother⟩

namespace StuckAt
variable {source : String} {e : LexError} {tokens : List Token} {before rest : List Char}
  (h : StuckAt source e tokens before rest)
include h

theorem take_offset : source.toList.take e.place.offset = before := by
  rw [h.offset, h.split, List.take_left]

theorem drop_offset : source.toList.drop e.place.offset = rest := by
  rw [h.offset, h.split, List.drop_left]

theorem drop_offset_add (n : Nat) : source.toList.drop (e.place.offset + n) = rest.drop n := by
  rw [← List.drop_drop, h.drop_offset]

theorem getElem?_offset : source.toList[e.place.offset]? = rest.head? := by
  rw [h.offset, h.split, List.getElem?_append_right le_rfl, Nat.sub_self, List.head?_eq_getElem?]

theorem reaches_before : Reaches before tokens e.place [] := by
  have hnil := h.passes [] (.inl rfl)
  rwa [List.append_nil] at hnil

theorem tokenize_before :
    tokenize (String.ofList (source.toList.take e.place.offset)) =
      .ok (tokens ++ [⟨.finish, e.place, e.place.offset⟩]) := by
  rw [h.take_offset]
  apply Reaches.tokenize_eq
  rw [String.toList_ofList]
  exact h.reaches_before

/-- A source that agrees up to the first character of what the scan is stuck at, and is stuck at
what it has there, fails in the same way. -/
theorem tokenize_eq_of_take {c : Char} (hc : rest.head? = some c)
    (hstuck : ∀ cs, Stuck (c :: cs) e.cause) {other : String}
    (hother : other.toList.take (e.place.offset + 1) = source.toList.take (e.place.offset + 1)) :
    tokenize other = .error e := by
  obtain ⟨cs, rfl⟩ := List.head?_eq_some_iff.1 hc
  rw [h.split, h.offset, List.take_length_add_append] at hother
  have hsplit : other.toList = before ++ c :: other.toList.drop (before.length + 1) := by
    conv_lhs => rw [← List.take_append_drop (before.length + 1) other.toList, hother]
    simp
  have hreach := h.passes (c :: other.toList.drop (before.length + 1)) (.inr rfl)
  rw [← hsplit] at hreach
  exact hreach.tokenize_of_stuck (hstuck _)

end StuckAt

theorem not_mem_starts_of_unexpected {c : Char} (hsep : isSeparator c = false)
    (hmark : Kind.ofChar? c = none) (hquote : c ≠ '\x27') :
    c ∉ [' ', '\t', '\n', '\r', 'D', '\x27', '#', '@', '>', '?'] := by
  have hstarts : ∀ d ∈ [' ', '\t', '\n', '\r', 'D', '\x27', '#', '@', '>', '?'],
      isSeparator d = true ∨ Kind.ofChar? d ≠ none ∨ d = '\x27' := by
    simp [isSeparator, Kind.ofChar?]
  intro hc
  rcases hstarts c hc with h | h | h
  · simp [hsep] at h
  · exact h hmark
  · exact hquote h

/-- Where a source fails, the text before is tokenized on its own, and ends at the place of the
failure. There stands a character that begins no token, and every source with the same characters so
far fails in the same way; or there stands a mark that is never closed. -/
theorem tokenize_error_justified {source : String} {e : LexError} (h : tokenize source = .error e) :
    (∃ tokens, tokenize (String.ofList (source.toList.take e.place.offset)) =
      .ok (tokens ++ [⟨.finish, e.place, e.place.offset⟩])) ∧
    ((∃ c, source.toList[e.place.offset]? = some c ∧
        c ∉ [' ', '\t', '\n', '\r', 'D', '\x27', '#', '@', '>', '?'] ∧
        e.message = "Unexpected character: '" ++ String.singleton c ++ "'" ∧
        ∀ other : String, other.toList.take (e.place.offset + 1) =
          source.toList.take (e.place.offset + 1) → tokenize other = .error e) ∨
      (source.toList[e.place.offset]? = some '\x27' ∧
        (['\x27', '\x27', '\x27'] <+: source.toList.drop e.place.offset →
          ¬ ['\x27', '\x27', '\x27'] <:+: source.toList.drop (e.place.offset + 3) ∧
          e.message = "Unterminated triple-quoted literal") ∧
        (¬ ['\x27', '\x27', '\x27'] <+: source.toList.drop e.place.offset →
          '\x27' ∉ source.toList.drop (e.place.offset + 1) ∧
          e.message = "Unterminated literal"))) := by
  obtain ⟨tokens, before, rest, hat⟩ := exists_stuckAt_of_error h
  refine ⟨⟨tokens, hat.tokenize_before⟩, ?_⟩
  rw [hat.getElem?_offset, hat.drop_offset, hat.drop_offset_add, hat.drop_offset_add,
    LexError.message]
  have hstuck := hat.stuck
  generalize he : e.cause = cause at hstuck ⊢
  cases hstuck with
  | @unexpected c cs hsep hmark hquote =>
    refine .inl ⟨c, rfl, not_mem_starts_of_unexpected hsep hmark hquote, rfl, ?_⟩
    intro other hother
    exact hat.tokenize_eq_of_take rfl (fun cs => he ▸ .unexpected cs hsep hmark hquote) hother
  | @triple cs hopen =>
    refine .inr ⟨rfl, fun _ => ⟨hopen, rfl⟩, ?_⟩
    intro hnot
    exact absurd (List.prefix_append _ cs) hnot
  | @single cs hopen =>
    refine .inr ⟨rfl, ?_, fun _ => ⟨hopen, rfl⟩⟩
    intro hmarks
    obtain ⟨inner, hinner⟩ := (List.cons_prefix_cons.1 hmarks).2
    exact absurd (hinner ▸ List.mem_cons_self) hopen

/-- An empty text and a lone carriage return stand right before the character. -/
theorem tokenize_error_justified_emptyText :
    tokenize "''\r!" = .error ⟨.unexpected '!', ⟨3, 2, 1⟩⟩ ∧
      (∃ tokens, tokenize "''\r" = .ok (tokens ++ [⟨.finish, ⟨3, 2, 1⟩, 3⟩])) ∧
      ∀ other : String, other.toList.take 4 = "''\r!".toList →
        tokenize other = .error ⟨.unexpected '!', ⟨3, 2, 1⟩⟩ := by
  have h : tokenize "''\r!" = .error ⟨.unexpected '!', ⟨3, 2, 1⟩⟩ := by decide +kernel
  obtain ⟨hbefore, ⟨c, -, -, -, hother⟩ | ⟨hquote, -⟩⟩ := tokenize_error_justified h
  · exact ⟨h, hbefore, hother⟩
  · exact absurd hquote (by decide)

end PageExtract.Rule
