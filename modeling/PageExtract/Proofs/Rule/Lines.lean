import PageExtract.Proofs.Rule.Steps
import PageExtract.Proofs.Rule.Tiling
import Mathlib.Data.List.DropRight

/-! # Lines and columns

The scanner carries its place along. Main statement: every token and every failure stands in the
line and column that are counted over the characters before it, where a line ends behind a line
feed, and behind a carriage return outside of quoted texts unless a line feed follows.
-/
namespace PageExtract.Rule

/-! ## Counting lines -/

/-- The place behind the first `n` characters of a text. Its line is one more than the ends of lines
among them, its column one more than the characters since the last of these. -/
def Place.behind (ends : Nat → Bool) (n : Nat) : Place :=
  ⟨n, 1 + (List.range n).countP ends, 1 + ((List.range n).rtakeWhile fun i => !ends i).length⟩

def Place.Before (p q : Place) : Prop := p.line < q.line ∨ p.line = q.line ∧ p.column < q.column

namespace Place
variable {ends ends' : Nat → Bool} {n m : Nat}

theorem behind_succ (ends : Nat → Bool) (n : Nat) :
    behind ends (n + 1) = if ends n then (behind ends n).nextLine else (behind ends n).right := by
  cases h : ends n with
  | true => simp [behind, nextLine, List.range_succ, h, Nat.add_assoc]
  | false => simp [behind, right, List.range_succ, h, Nat.add_assoc]

theorem behind_congr (h : ∀ i < n, ends i = ends' i) : behind ends n = behind ends' n := by
  induction n with
  | zero => rfl
  | succ n ih =>
    have hn := ih fun i hi => h i (Nat.lt_succ_of_lt hi)
    rw [behind_succ, behind_succ, hn, h n (Nat.lt_succ_self n)]

theorem behind_pastAll {text : List Char}
    (h : ∀ i c, text[i]? = some c → ends (n + i) = decide (c = '\n')) :
    (behind ends n).pastAll text = behind ends (n + text.length) := by
  induction text generalizing n with
  | nil => rfl
  | cons c text ih =>
    have hc : (behind ends n).past c = behind ends (n + 1) := by
      have hn : ends n = decide (c = '\n') := h 0 c rfl
      rw [behind_succ, hn]
      simp [past]
    have htext : ∀ i d, text[i]? = some d → ends (n + 1 + i) = decide (d = '\n') := by
      intro i d hi
      have hshift : n + 1 + i = n + (i + 1) := by omega
      rw [hshift]
      exact h (i + 1) d (by simpa using hi)
    have hpast : (behind ends n).pastAll (c :: text) = ((behind ends n).past c).pastAll text := rfl
    rw [hpast, hc, ih htext, List.length_cons]
    congr 1
    omega

theorem Before.trans {p q r : Place} (h : p.Before q) (h' : q.Before r) : p.Before r := by
  unfold Before at *
  omega

theorem before_behind (h : n < m) : (behind ends n).Before (behind ends m) := by
  induction m with
  | zero => omega
  | succ m ih =>
    have hstep : (behind ends m).Before (behind ends (m + 1)) := by
      rw [behind_succ]
      split
      · exact .inl (Nat.lt_succ_self _)
      · exact .inr ⟨rfl, Nat.lt_succ_self _⟩
    rcases Nat.lt_succ_iff_lt_or_eq.1 h with hlt | rfl
    · exact (ih hlt).trans hstep
    · exact hstep

end Place

/-! ## The ends of lines -/

/-- A line ends behind every line feed. It also ends behind a carriage return that is counted,
unless a line feed follows. -/
def endsLine (cs : List Char) (counted : Nat → Bool) (i : Nat) : Bool :=
  match cs[i]? with
  | some '\n' => true
  | some '\r' => counted i && cs[i + 1]? != some '\n'
  | _ => false

def Kind.isQuoted : Kind → Bool
  | .quoted _ => true
  | _ => false

def inQuoted (tokens : List Token) (i : Nat) : Bool :=
  tokens.any fun t => t.kind.isQuoted && decide (t.Covers i)

/-- The ends of lines as the scanner counts them. -/
def scannedEnds (cs : List Char) (tokens : List Token) : Nat → Bool :=
  endsLine cs fun i => !inQuoted tokens i

theorem endsLine_of_ne {cs : List Char} {counted : Nat → Bool} {i : Nat} {c : Char}
    (hi : cs[i]? = some c) (hc : c = '\r' → counted i = false ∨ cs[i + 1]? = some '\n') :
    endsLine cs counted i = decide (c = '\n') := by
  unfold endsLine
  rw [hi]
  by_cases hreturn : c = '\r'
  · subst hreturn
    rcases hc rfl with h | h <;> simp [h]
  · split <;> simp_all

theorem inQuoted_append (tokens more : List Token) (i : Nat) :
    inQuoted (tokens ++ more) i = (inQuoted tokens i || inQuoted more i) := List.any_append

theorem inQuoted_eq_false {tokens : List Token} {i : Nat}
    (h : ∀ t ∈ tokens, i < t.start.offset ∨ t.stop ≤ i) : inQuoted tokens i = false := by
  rw [inQuoted, List.any_eq_false]
  intro t ht
  have ho := h t ht
  rw [Bool.and_eq_true, decide_eq_true_eq]
  rintro ⟨-, hstart, hstop⟩
  omega

/-- Looking at the text before an offset is enough, unless it cuts a line break apart. -/
theorem endsLine_take {cs : List Char} {counted : Nat → Bool} {n i : Nat}
    (hn : cs[n]? ≠ some '\n') (hi : i < n) :
    endsLine (cs.take n) counted i = endsLine cs counted i := by
  have hnext : ((cs.take n)[i + 1]? != some '\n') = (cs[i + 1]? != some '\n') := by
    by_cases hlt : i + 1 < n
    · rw [List.getElem?_take_of_lt hlt]
    · obtain rfl : i + 1 = n := by omega
      rw [List.getElem?_take_eq_none (Nat.le_refl _), bne_iff_ne.2 hn]
      rfl
  unfold endsLine
  rw [List.getElem?_take_of_lt hi, hnext]

/-! ## The place that the scanner carries -/

section
variable {p q : Place} {piece : List Char} {ahead : Option Char} {more : List Token}

/-- A step gives at most one token, which takes up all of its characters. -/
theorem Step.token_cases (h : Step p piece ahead more q) :
    more = [] ∨ ∃ t, more = [t] ∧ t.start = p ∧ t.stop = q.offset ∧ piece.head? ≠ some '\n' := by
  cases h with
  | @mark c kind hc =>
    refine .inr ⟨_, rfl, rfl, rfl, ?_⟩
    intro hfeed
    obtain rfl : c = '\n' := Option.some.inj hfeed
    cases hc
  | @quoted r =>
    refine .inr ⟨_, rfl, rfl, rfl, ?_⟩
    rw [r.head?_written]
    decide
  | _ => exact .inl rfl

/-- A step passes its characters one by one, unless it is one over a lone carriage return. Other
carriage returns are quoted, or stand before a line feed. -/
theorem Step.place_cases (h : Step p piece ahead more q) :
    (q = p.pastAll piece ∧ ∀ i, piece[i]? = some '\r' →
      inQuoted more (p.offset + i) = true ∨ piece[i + 1]? = some '\n') ∨
    (q = p.nextLine ∧ piece = ['\r'] ∧ more = [] ∧ ahead ≠ some '\n') := by
  -- a character alone that is no line break
  have hright : ∀ c, c ≠ '\n' → p.right = p.pastAll [c] := fun c hc => (if_neg hc).symm
  have hother : ∀ (c : Char) (i : Nat), c ≠ '\r' → [c][i]? ≠ some '\r' := by
    intro c i hc hi
    exact hc (List.mem_singleton.1 (List.mem_of_getElem? hi)).symm
  cases h with
  | @blank c hc =>
    have hne : c ≠ '\n' ∧ c ≠ '\r' := by rcases hc with rfl | rfl <;> decide
    exact .inl ⟨hright c hne.1, fun i hi => absurd hi (hother c i hne.2)⟩
  | lineFeed => exact .inl ⟨rfl, fun i hi => absurd hi (hother _ i (by decide))⟩
  | returnFeed =>
    refine .inl ⟨rfl, fun i hi => .inr ?_⟩
    rcases i with _ | i
    · rfl
    · exact absurd hi (hother _ i (by decide))
  | loneReturn hahead => exact .inr ⟨rfl, rfl, rfl, hahead⟩
  | @mark c kind hc =>
    have hne : c ≠ '\n' ∧ c ≠ '\r' := by
      constructor <;> (rintro rfl; cases hc)
    exact .inl ⟨hright c hne.1, fun i hi => absurd hi (hother c i hne.2)⟩
  | @quoted r =>
    refine .inl ⟨rfl, fun i hi => .inl ?_⟩
    obtain ⟨hlt, -⟩ := List.getElem?_eq_some_iff.1 hi
    simp [inQuoted, Kind.isQuoted, Token.Covers, Quoted.token, hlt]

end

theorem scannedEnds_append {cs : List Char} {tokens more : List Token} {i : Nat}
    (h : ∀ t ∈ more, i < t.start.offset) :
    scannedEnds cs (tokens ++ more) i = scannedEnds cs tokens i := by
  have hmore : inQuoted more i = false := inQuoted_eq_false fun t ht => .inl (h t ht)
  simp only [scannedEnds, endsLine, inQuoted_append, hmore, Bool.or_false]

/-- The tokens of a scan, and the place that it has reached, stand where the lines are counted
to. -/
structure Placed (cs : List Char) (tokens : List Token) (p : Place) : Prop where
  place : p = .behind (scannedEnds cs tokens) p.offset
  starts : ∀ t ∈ tokens, t.start = .behind (scannedEnds cs tokens) t.start.offset
  within : ∀ t ∈ tokens, t.start.offset < p.offset ∧ t.stop ≤ p.offset
  heads : ∀ t ∈ tokens, cs[t.start.offset]? ≠ some '\n'
  ordered : tokens.Pairwise fun t u => t.start.offset < u.start.offset

section
variable {cs text piece rest : List Char} {tokens more : List Token} {p q : Place}

/-- A step moves the place as the ends of lines among its characters say. -/
theorem Step.ends_cases (hs : Step p piece rest.head? more q) (hcs : cs = text ++ (piece ++ rest))
    (hp : p.offset = text.length) (hbehind : ∀ t ∈ tokens, t.stop ≤ p.offset) :
    (q = p.pastAll piece ∧ ∀ i c, piece[i]? = some c →
      scannedEnds cs (tokens ++ more) (p.offset + i) = decide (c = '\n')) ∨
    (q = p.nextLine ∧ scannedEnds cs (tokens ++ more) p.offset = true) := by
  have hat : ∀ i, cs[p.offset + i]? = (piece ++ rest)[i]? := by
    intro i
    rw [hcs, hp, List.getElem?_append_right (Nat.le_add_right _ _), Nat.add_sub_cancel_left]
  rcases hs.place_cases with ⟨hq, hreturns⟩ | ⟨hq, rfl, rfl, hahead⟩
  · refine .inl ⟨hq, ?_⟩
    have hsome : ∀ i c, piece[i]? = some c → cs[p.offset + i]? = some c := by
      intro i c hi
      rw [hat, List.getElem?_append_left (List.getElem?_eq_some_iff.1 hi).1, hi]
    intro i c hi
    refine endsLine_of_ne (hsome i c hi) ?_
    rintro rfl
    rcases hreturns i hi with hin | hfeed
    · left
      simp [inQuoted_append, hin]
    · exact .inr (hsome (i + 1) _ hfeed)
  · refine .inr ⟨hq, ?_⟩
    have hout : inQuoted tokens p.offset = false :=
      inQuoted_eq_false fun t ht => .inr (hbehind t ht)
    have hreturn : cs[p.offset]? = some '\r' := hat 0
    have hnext : cs[p.offset + 1]? = rest.head? := by
      rw [hat 1, List.head?_eq_getElem?]
      rfl
    simp [scannedEnds, endsLine, hout, hreturn, hnext, hahead]

/-- The tokens of a step change nothing up to the place it starts from. -/
theorem Step.behind_of_le (hs : Step p piece rest.head? more q) (cs : List Char)
    (tokens : List Token) {n : Nat} (hn : n ≤ p.offset) :
    Place.behind (scannedEnds cs (tokens ++ more)) n = .behind (scannedEnds cs tokens) n := by
  apply Place.behind_congr
  intro i hi
  apply scannedEnds_append
  intro t ht
  rcases hs.token_cases with rfl | ⟨u, rfl, hstart, -, -⟩
  · cases ht
  · rw [List.mem_singleton.1 ht, hstart]
    omega

theorem Placed.place_step (h : Placed cs tokens p) (hcs : cs = text ++ (piece ++ rest))
    (hp : p.offset = text.length) (hs : Step p piece rest.head? more q) :
    q = .behind (scannedEnds cs (tokens ++ more)) q.offset := by
  have hplace : p = .behind (scannedEnds cs (tokens ++ more)) p.offset :=
    h.place.trans (hs.behind_of_le cs tokens le_rfl).symm
  rcases hs.ends_cases hcs hp fun t ht => (h.within t ht).2 with ⟨hq, hends⟩ | ⟨hq, hend⟩
  · calc q = p.pastAll piece := hq
      _ = (Place.behind (scannedEnds cs (tokens ++ more)) p.offset).pastAll piece := by
        rw [← hplace]
      _ = .behind (scannedEnds cs (tokens ++ more)) (p.offset + piece.length) :=
        Place.behind_pastAll hends
      _ = .behind (scannedEnds cs (tokens ++ more)) q.offset := by rw [hs.offset_eq]
  · calc q = p.nextLine := hq
      _ = (Place.behind (scannedEnds cs (tokens ++ more)) p.offset).nextLine := by rw [← hplace]
      _ = .behind (scannedEnds cs (tokens ++ more)) (p.offset + 1) := by
        rw [Place.behind_succ, hend, if_pos rfl]
      _ = .behind (scannedEnds cs (tokens ++ more)) q.offset := by rw [hq, Place.offset_nextLine]

theorem Placed.step (h : Placed cs tokens p) (hcs : cs = text ++ (piece ++ rest))
    (hp : p.offset = text.length) (hs : Step p piece rest.head? more q) :
    Placed cs (tokens ++ more) q := by
  have hpos := List.length_pos_iff.2 hs.piece_ne_nil
  have hoffset := hs.offset_eq
  have hplace := h.place_step hcs hp hs
  -- the tokens that are there already keep their places
  have hstarts : ∀ t ∈ tokens,
      t.start = .behind (scannedEnds cs (tokens ++ more)) t.start.offset := by
    intro t ht
    have hlt := (h.within t ht).1
    exact (h.starts t ht).trans (hs.behind_of_le cs tokens (Nat.le_of_lt hlt)).symm
  have hwithin : ∀ t ∈ tokens, t.start.offset < q.offset ∧ t.stop ≤ q.offset := by
    intro t ht
    have ho := h.within t ht
    omega
  rcases hs.token_cases with rfl | ⟨t, rfl, rfl, hstop, hhead⟩
  · rw [List.append_nil] at hplace hstarts ⊢
    exact ⟨hplace, hstarts, hwithin, h.heads, h.ordered⟩
  · refine ⟨hplace, ?_, ?_, ?_, ?_⟩
    · refine List.forall_mem_append.2 ⟨hstarts, List.forall_mem_singleton.2 ?_⟩
      exact h.place.trans (hs.behind_of_le cs tokens le_rfl).symm
    · refine List.forall_mem_append.2 ⟨hwithin, List.forall_mem_singleton.2 ?_⟩
      omega
    · refine List.forall_mem_append.2 ⟨h.heads, List.forall_mem_singleton.2 ?_⟩
      rw [hcs, hp, List.getElem?_append_right le_rfl, Nat.sub_self, ← List.head?_eq_getElem?,
        List.head?_append_of_ne_nil _ hs.piece_ne_nil]
      exact hhead
    · refine List.pairwise_append.2 ⟨h.ordered, List.pairwise_singleton _ _, ?_⟩
      intro u hu v hv
      rw [List.mem_singleton.1 hv]
      exact (h.within u hu).1

end

theorem Reaches.placed {source rest : List Char} {tokens : List Token} {p : Place}
    (h : Reaches source tokens p rest) : Placed source tokens p := by
  induction h with
  | start => exact ⟨rfl, by simp, by simp, by simp, .nil⟩
  | step h hs ih =>
    obtain ⟨text, hsplit, hp, -⟩ := h.exists_before
    exact ih.step hsplit hp hs

/-! ## Tokens and failures -/

theorem scannedEnds_finish (cs : List Char) (tokens : List Token) (p : Place) :
    scannedEnds cs (tokens ++ [⟨.finish, p, p.offset⟩]) = scannedEnds cs tokens := by
  unfold scannedEnds
  simp [inQuoted, Kind.isQuoted]

theorem placed_of_tokenize {source : String} {tokens : List Token}
    (h : tokenize source = .ok tokens) :
    (∀ t ∈ tokens, t.start = .behind (scannedEnds source.toList tokens) t.start.offset) ∧
    (∀ t ∈ tokens, source.toList[t.start.offset]? ≠ some '\n') ∧
    tokens.Pairwise fun t u => t.start.offset < u.start.offset := by
  rcases tokenize_cases source with ⟨read, p, hreach, hok⟩ | ⟨_, e, _, -, -, he⟩
  · obtain rfl : read ++ [⟨.finish, p, p.offset⟩] = tokens := Except.ok.inj (hok.symm.trans h)
    have hplaced := hreach.placed
    obtain ⟨before, hsplit, hp, -⟩ := hreach.exists_before
    rw [scannedEnds_finish]
    refine ⟨?_, ?_, ?_⟩
    · exact List.forall_mem_append.2 ⟨hplaced.starts, List.forall_mem_singleton.2 hplaced.place⟩
    · refine List.forall_mem_append.2 ⟨hplaced.heads, List.forall_mem_singleton.2 ?_⟩
      simp [hsplit, hp]
    · refine List.pairwise_append.2 ⟨hplaced.ordered, List.pairwise_singleton _ _, ?_⟩
      intro t ht u hu
      rw [List.mem_singleton.1 hu]
      exact (hplaced.within t ht).1
  · rw [he] at h
    cases h

/-- The characters before a token are enough to count to its place. -/
theorem start_of_mem_tokenize {source : String} {tokens : List Token}
    (h : tokenize source = .ok tokens) {t : Token} (ht : t ∈ tokens) :
    t.start =
      .behind (scannedEnds (source.toList.take t.start.offset) tokens) t.start.offset := by
  obtain ⟨hstarts, hheads, -⟩ := placed_of_tokenize h
  refine (hstarts t ht).trans (Place.behind_congr fun i hi => ?_).symm
  exact endsLine_take (hheads t ht) hi

theorem place_of_tokenize_error {source : String} {e : LexError} (h : tokenize source = .error e) :
    ∃ tokens, tokenize (String.ofList (source.toList.take e.place.offset)) = .ok tokens ∧
      e.place = .behind (scannedEnds (source.toList.take e.place.offset) tokens) e.place.offset ∧
      Stuck (source.toList.drop e.place.offset) e.cause := by
  obtain ⟨read, before, rest, hat⟩ := exists_stuckAt_of_error h
  refine ⟨_, hat.tokenize_before, ?_, ?_⟩
  · rw [scannedEnds_finish, hat.take_offset]
    exact hat.reaches_before.placed.place
  · rw [hat.drop_offset]
    exact hat.stuck

theorem before_of_tokenize {source : String} {tokens : List Token}
    (h : tokenize source = .ok tokens) : tokens.Pairwise fun t u => t.start.Before u.start := by
  obtain ⟨hstarts, -, hordered⟩ := placed_of_tokenize h
  refine hordered.imp_of_mem ?_
  intro t u ht hu hlt
  rw [hstarts t ht, hstarts u hu]
  exact Place.before_behind hlt

/-- Tokens and failures stand in the line and column that the characters before them are counted to,
where a carriage return within a quoted text ends no line. A failure stands at what it is about, and
no two tokens share a line and column. -/
theorem tokenize_places (source : String) :
    match tokenize source with
    | .ok tokens =>
      (∀ t ∈ tokens, t.start =
        .behind (scannedEnds (source.toList.take t.start.offset) tokens) t.start.offset) ∧
      (tokens.Pairwise fun t u => t.start.Before u.start) ∧
      (tokens.map fun t => (t.start.line, t.start.column)).Nodup
    | .error e =>
      ∃ tokens, tokenize (String.ofList (source.toList.take e.place.offset)) = .ok tokens ∧
        e.place = .behind (scannedEnds (source.toList.take e.place.offset) tokens) e.place.offset ∧
        Stuck (source.toList.drop e.place.offset) e.cause := by
  cases h : tokenize source with
  | error e => exact place_of_tokenize_error h
  | ok tokens =>
    have hbefore := before_of_tokenize h
    refine ⟨fun t ht => start_of_mem_tokenize h ht, hbefore, List.pairwise_map.2 ?_⟩
    refine hbefore.imp ?_
    intro t u hlt heq
    obtain ⟨hline, hcolumn⟩ := Prod.mk.inj heq
    unfold Place.Before at hlt
    omega

end PageExtract.Rule
