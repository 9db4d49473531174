import Mathlib.Data.List.Chain
import PageExtract.Proofs.Rule.Margins
import PageExtract.Proofs.Rule.Tiling

/-! # Tokens written out are read back

Main statement: whatever separators stand before, between and behind the texts of tokens, they are
read as these tokens again, exactly if no empty text in single quotes touches a quoted text behind
it.
-/
namespace PageExtract.Rule
open Text

def Separates (gap : String) : Prop := ∀ c ∈ gap.toList, isSeparator c = true

theorem isBlank_of_isSeparator {c : Char} (h : isSeparator c = true) : isBlank c = true := by
  simp only [isSeparator, Bool.or_eq_true, decide_eq_true_eq] at h
  rcases h with ((rfl | rfl) | rfl) | rfl <;> decide

theorem ne_quote_of_isSeparator {c : Char} (h : isSeparator c = true) : c ≠ '\x27' :=
  ne_quote_of_isBlank (isBlank_of_isSeparator h)

theorem Separates.head?_ne_quote {gap : String} (h : Separates gap) :
    gap.toList.head? ≠ some '\x27' := by
  intro hhead
  exact ne_quote_of_isSeparator (h _ (List.mem_of_mem_head? hhead)) rfl

/-- Separators before a text leave its tokens as they are. -/
theorem scans_gap_iff {gap : String} (h : Separates gap) {cs : List Char} {kinds : List Kind} :
    Scans (gap.toList ++ cs) kinds ↔ Scans cs kinds := by
  rw [scans_leading_iff fun c hc => isBlank_of_isSeparator (h c hc)]
  exact and_iff_right h

/-! ## One kind -/

theorem Kind.head?_written {kind : Kind} (h : kind ≠ .finish) :
    ∃ c, kind.written.toList.head? = some c ∧ isSeparator c = false ∧
      (c = '\x27' ↔ ∃ q, kind = .quoted q) := by
  cases kind with
  | finish => exact absurd rfl h
  | quoted q => exact ⟨'\x27', q.head?_written, by decide, by simp⟩
  | document => exact ⟨'D', rfl, by decide, by simp⟩
  | hash => exact ⟨'#', rfl, by decide, by simp⟩
  | atSign => exact ⟨'@', rfl, by decide, by simp⟩
  | arrow => exact ⟨'>', rfl, by decide, by simp⟩
  | question => exact ⟨'?', rfl, by decide, by simp⟩

/-- The text of a kind is read as this kind unless it joins with the quotes behind it. -/
theorem scans_written_iff {kind : Kind} (hw : kind.Writable) (hk : kind ≠ .finish)
    {cs : List Char} {kinds : List Kind} :
    Scans (kind.written.toList ++ cs) (kind :: kinds) ↔
      (kind = .quoted ⟨.single, ""⟩ → cs.head? ≠ some '\x27') ∧ Scans cs kinds := by
  constructor
  · intro h
    generalize hall : kind.written.toList ++ cs = all at h
    -- the first kind is given, so how the text begins is known
    cases h with
    | finish => exact absurd rfl hk
    | @skip c more _ hc _ =>
      obtain ⟨d, hd, hsep, -⟩ := Kind.head?_written hk
      have hhead : (c :: more).head? = some d := by
        rw [← hall, List.head?_append, hd]
        rfl
      obtain rfl : c = d := Option.some.inj hhead
      simp [hsep] at hc
    | @mark c more _ _ hc h =>
      rw [Kind.written_of_ofChar? hc, List.singleton_append] at hall
      obtain rfl := (List.cons.inj hall).2
      exact ⟨fun he => absurd he (Kind.ne_quoted_of_ofChar? hc _), h⟩
    | @quoted q more _ _ seam h =>
      obtain rfl : cs = more := List.append_cancel_left hall
      exact ⟨fun he => seam (Kind.quoted.inj he), h⟩
  · rintro ⟨seam, h⟩
    exact .written hw hk seam h

/-! ## Kinds and gaps -/

structure Piece where
  gap : String
  kind : Kind

def layOut : List Piece → String → String
  | [], trail => trail
  | piece :: pieces, trail => piece.gap ++ (piece.kind.written ++ layOut pieces trail)

structure Piece.Fits (piece : Piece) : Prop where
  gap : Separates piece.gap
  writable : piece.kind.Writable
  ne_finish : piece.kind ≠ .finish

/-- An empty text in single quotes does not touch a quoted text behind it. -/
def Piece.Apart (first second : Piece) : Prop :=
  first.kind = .quoted ⟨.single, ""⟩ → (∃ q, second.kind = .quoted q) → second.gap ≠ ""

theorem head?_layOut {pieces : List Piece} {trail : String} (hp : ∀ piece ∈ pieces, piece.Fits)
    (ht : Separates trail) :
    (layOut pieces trail).toList.head? = some '\x27' ↔
      ∃ piece ∈ pieces.head?, (∃ q, piece.kind = .quoted q) ∧ piece.gap = "" := by
  cases pieces with
  | nil => simpa [layOut] using ht.head?_ne_quote
  | cons piece pieces =>
    obtain ⟨hpiece, -⟩ := List.forall_mem_cons.1 hp
    obtain ⟨c, hc, -, hquoted⟩ := Kind.head?_written hpiece.ne_finish
    simp only [layOut, String.toList_append, List.head?_append, hc, List.head?_cons,
      Option.mem_def, Option.some.injEq, exists_eq_left', Option.some_or]
    -- a gap before the first text hides its quote
    cases hgap : piece.gap.toList.head? with
    | none =>
      have hempty : piece.gap = "" := String.toList_eq_nil_iff.1 (List.head?_eq_none_iff.1 hgap)
      simp [hempty, hquoted]
    | some d =>
      have hd : d ≠ '\x27' := ne_quote_of_isSeparator (hpiece.gap d (List.mem_of_mem_head? hgap))
      have hne : piece.gap ≠ "" := by
        intro he
        simp [he] at hgap
      simp [hd, hne]

theorem scans_layOut_iff {pieces : List Piece} {trail : String} (hp : ∀ piece ∈ pieces, piece.Fits)
    (ht : Separates trail) :
    Scans (layOut pieces trail).toList (pieces.map Piece.kind ++ [.finish]) ↔
      pieces.IsChain Piece.Apart := by
  induction pieces with
  | nil =>
    have hs : Scans (trail.toList ++ []) [.finish] := (scans_gap_iff ht).2 .finish
    simpa [layOut] using hs
  | cons piece pieces ih =>
    obtain ⟨hpiece, hmore⟩ := List.forall_mem_cons.1 hp
    have hseam : (piece.kind = .quoted ⟨.single, ""⟩ →
        (layOut pieces trail).toList.head? ≠ some '\x27') ↔
          ∀ next ∈ pieces.head?, piece.Apart next := by
      rw [ne_eq, head?_layOut hmore ht]
      constructor
      · intro h next hnext hkind hquoted hgap
        exact h hkind ⟨next, hnext, hquoted, hgap⟩
      · rintro h hkind ⟨next, hnext, hquoted, hgap⟩
        exact h next hnext hkind hquoted hgap
    rw [layOut, String.toList_append, String.toList_append, scans_gap_iff hpiece.gap,
      List.map_cons, List.cons_append, scans_written_iff hpiece.writable hpiece.ne_finish, hseam,
      ih hmore, List.isChain_cons]

/-- Writing kinds out with any separators and reading the text gives the kinds again, exactly if
each empty text in single quotes is kept apart from a quoted text behind it. -/
theorem tokenize_layOut_iff {pieces : List Piece} {trail : String}
    (hp : ∀ piece ∈ pieces, piece.Fits) (ht : Separates trail) :
    (∃ tokens, tokenize (layOut pieces trail) = .ok tokens ∧
      tokens.map Token.kind = pieces.map Piece.kind ++ [.finish]) ↔
        pieces.IsChain Piece.Apart := by
  rw [tokenize_iff]
  exact scans_layOut_iff hp ht

def touchingQuotes : List Piece :=
  [⟨"\n ", .document⟩, ⟨"", .quoted ⟨.single, ""⟩⟩, ⟨"\r\n", .quoted ⟨.triple, "''a'b"⟩⟩,
    ⟨"", .quoted ⟨.single, "c"⟩⟩, ⟨"", .hash⟩]

theorem tokenize_layOut_touchingQuotes :
    (∀ piece ∈ touchingQuotes, piece.Fits) ∧ Separates "\t" ∧ touchingQuotes.IsChain Piece.Apart ∧
      layOut touchingQuotes "\t" = "\n D''\r\n'''''a'b''''c'#\t" ∧
      ∃ tokens, tokenize (layOut touchingQuotes "\t") = .ok tokens ∧
        tokens.map Token.kind = touchingQuotes.map Piece.kind ++ [.finish] := by
  have hfits : ∀ piece ∈ touchingQuotes, piece.Fits := by
    intro piece hpiece
    simp only [touchingQuotes, List.mem_cons, List.not_mem_nil, or_false] at hpiece
    rcases hpiece with rfl | rfl | rfl | rfl | rfl <;>
      refine ⟨by simp [Separates, isSeparator], ?_, by simp⟩ <;>
      simp [Kind.Writable, Quoted.Writable, Quote.Holds, List.infix_cons_iff]
  have htrail : Separates "\t" := by simp [Separates, isSeparator]
  have hchain : touchingQuotes.IsChain Piece.Apart := by simp [touchingQuotes, Piece.Apart]
  exact ⟨hfits, htrail, hchain, by decide, (tokenize_layOut_iff hfits htrail).2 hchain⟩

end PageExtract.Rule
