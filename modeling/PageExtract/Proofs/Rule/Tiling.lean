import PageExtract.Proofs.Rule.Scan

/-! # Tokens tile their source

Main statement: the tokens of a source are cut out of it from left to right. Each one takes up
exactly the characters that it is written with, only separators stand between them, and a quoted
text is opened by the longest mark and closed by the first one.
-/
namespace PageExtract.Rule

theorem Kind.length_written_pos {kind : Kind} (h : kind ≠ .finish) : 0 < kind.written.length := by
  cases kind with
  | finish => exact absurd rfl h
  | quoted q =>
    have hmarks : 0 < q.quote.marks.length := by cases q.quote <;> decide
    simp only [written, Quoted.written, String.length_append]
    omega
  | _ => decide

/-- No closing mark starts within a text that can be quoted, whatever stands behind it. -/
theorem Quote.Holds.not_marks_at {q : Quote} {text : List Char} (h : q.Holds text) {i : Nat}
    (hi : i < text.length) (rest : List Char) :
    ¬ q.marks.toList <+: (text ++ q.marks.toList ++ rest).drop i := by
  induction text generalizing i with
  | nil => simp at hi
  | cons c text ih =>
    obtain ⟨hc, htext⟩ := (Quote.holds_cons rest).1 h
    cases i with
    | zero => exact hc
    | succ i => exact ih htext (by simpa using hi)

/-! ## Cutting a source into tokens -/

/-- The characters behind the first `n` of a source, and the tokens that are cut out of them. -/
inductive Tiles : Nat → List Char → List Token → Prop
  | finish (p : Place) : Tiles p.offset [] [⟨.finish, p, p.offset⟩]
  | skip {n : Nat} {c : Char} {cs : List Char} {tokens : List Token} (hc : isSeparator c)
      (h : Tiles (n + 1) cs tokens) : Tiles n (c :: cs) tokens
  | token {t : Token} {cs : List Char} {tokens : List Token} (hk : t.kind ≠ .finish)
      (hstop : t.stop = t.start.offset + t.kind.written.length) (hw : t.kind.Writable)
      (seam : t.kind = .quoted ⟨.single, ""⟩ → cs.head? ≠ some '\x27')
      (h : Tiles t.stop cs tokens) :
      Tiles t.start.offset (t.kind.written.toList ++ cs) (t :: tokens)

theorem tiles_of_scans {cs : List Char} {kinds : List Kind} (h : Scans cs kinds) {p : Place}
    {tokens : List Token} (ht : tokensFrom p cs = .ok tokens) : Tiles p.offset cs tokens := by
  induction h generalizing p tokens with
  | finish =>
    rw [tokensFrom] at ht
    cases ht
    exact .finish p
  | skip hc _ ih =>
    obtain ⟨p', hoffset, hp⟩ := tokensFrom_separator hc p _
    rw [hp] at ht
    exact .skip hc (hoffset ▸ ih ht)
  | @mark c cs kind _ hc _ ih =>
    rw [tokensFrom_mark hc] at ht
    obtain ⟨more, hm, rfl⟩ := map_eq_ok_iff.1 ht
    have hwritten := Kind.written_of_ofChar? hc
    have hlength : kind.written.length = 1 := by simp [← String.length_toList, hwritten]
    have htile := Tiles.token (t := ⟨kind, p, p.offset + 1⟩) (Kind.ne_finish_of_ofChar? hc)
      (by rw [hlength]) (Kind.writable_of_ofChar? hc)
      (fun he => absurd he (Kind.ne_quoted_of_ofChar? hc _)) (ih hm)
    rwa [hwritten] at htile
  | @quoted q cs _ hq seam _ ih =>
    rw [tokensFrom_quoted hq p seam] at ht
    obtain ⟨more, hm, rfl⟩ := map_eq_ok_iff.1 ht
    have hstop : (q.token p).stop = p.offset + q.written.length := by
      simp [Quoted.token, String.length_toList]
    exact .token (t := q.token p) (by simp [Quoted.token]) hstop hq
      (fun he => seam (Kind.quoted.inj he)) (ih hm)

theorem tiles_of_tokenize {source : String} {tokens : List Token}
    (h : tokenize source = .ok tokens) : Tiles 0 source.toList tokens :=
  tiles_of_scans (tokenize_iff.1 ⟨tokens, h, rfl⟩) h

structure Token.StandsIn (t : Token) (n : Nat) (cs before behind : List Char) : Prop where
  split : cs = before ++ (t.kind.written.toList ++ behind)
  start : t.start.offset = n + before.length
  stop : t.stop = t.start.offset + t.kind.written.length
  writable : t.kind.Writable
  seam : t.kind = .quoted ⟨.single, ""⟩ → behind.head? ≠ some '\x27'

namespace Tiles

theorem exists_standsIn {n : Nat} {cs : List Char} {tokens : List Token} (h : Tiles n cs tokens)
    {t : Token} (ht : t ∈ tokens) : ∃ before behind, t.StandsIn n cs before behind := by
  induction h with
  | finish p =>
    obtain rfl := List.mem_singleton.1 ht
    exact ⟨[], [], rfl, rfl, rfl, trivial, by simp⟩
  | @skip n c cs _ _ _ ih =>
    obtain ⟨before, behind, hs⟩ := ih ht
    refine ⟨c :: before, behind, ?_, ?_, hs.stop, hs.writable, hs.seam⟩
    · rw [hs.split, List.cons_append]
    · rw [hs.start, List.length_cons]
      omega
  | @token u cs tokens _ hstop hw seam _ ih =>
    rcases List.mem_cons.1 ht with rfl | ht
    · exact ⟨[], cs, rfl, rfl, hstop, hw, seam⟩
    · obtain ⟨before, behind, hs⟩ := ih ht
      refine ⟨u.kind.written.toList ++ before, behind, ?_, ?_, hs.stop, hs.writable, hs.seam⟩
      · rw [hs.split, List.append_assoc]
      · rw [hs.start, hstop, List.length_append, String.length_toList]
        omega

theorem ordered {n : Nat} {cs : List Char} {tokens : List Token} (h : Tiles n cs tokens) :
    tokens.Pairwise fun t u => t.stop ≤ u.start.offset := by
  induction h with
  | finish => simp
  | skip _ _ ih => exact ih
  | token _ _ _ _ h ih =>
    refine List.pairwise_cons.2 ⟨?_, ih⟩
    intro u hu
    obtain ⟨before, behind, hs⟩ := h.exists_standsIn hu
    rw [hs.start]
    omega

end Tiles

def Token.Covers (t : Token) (i : Nat) : Prop := t.start.offset ≤ i ∧ i < t.stop

instance (t : Token) (i : Nat) : Decidable (t.Covers i) := inferInstanceAs (Decidable (_ ∧ _))

namespace Tiles

theorem isSeparator_of_not_covers {n : Nat} {cs : List Char} {tokens : List Token}
    (h : Tiles n cs tokens) {i : Nat} {c : Char} (hi : cs[i]? = some c)
    (hc : ∀ t ∈ tokens, ¬ t.Covers (n + i)) : isSeparator c = true := by
  induction h generalizing i with
  | finish => simp at hi
  | @skip n d cs tokens hd _ ih =>
    cases i with
    | zero =>
      obtain rfl : d = c := by simpa using hi
      exact hd
    | succ i =>
      refine ih (i := i) (by simpa using hi) ?_
      intro t ht
      have hshift : n + 1 + i = n + (i + 1) := by omega
      rw [hshift]
      exact hc t ht
  | @token t cs tokens _ hstop _ _ _ ih =>
    -- the token covers its own text, so the character stands behind it
    have hout : t.kind.written.length ≤ i := by
      have ht : ¬ t.Covers (t.start.offset + i) := hc t (by simp)
      unfold Token.Covers at ht
      omega
    rw [List.getElem?_append_right (by rwa [String.length_toList]), String.length_toList] at hi
    refine ih hi ?_
    intro u hu
    have hshift : t.stop + (i - t.kind.written.length) = t.start.offset + i := by omega
    rw [hshift]
    exact hc u (by simp [hu])

theorem finish_last {n : Nat} {cs : List Char} {tokens : List Token} (h : Tiles n cs tokens) :
    ∃ before p, tokens = before ++ [⟨.finish, p, p.offset⟩] ∧ p.offset = n + cs.length ∧
      ∀ t ∈ before, t.kind ≠ .finish := by
  induction h with
  | finish p => exact ⟨[], p, rfl, rfl, by simp⟩
  | skip _ _ ih =>
    obtain ⟨before, p, hsplit, hp, hbefore⟩ := ih
    refine ⟨before, p, hsplit, ?_, hbefore⟩
    rw [hp, List.length_cons]
    omega
  | @token t cs _ hk hstop _ _ _ ih =>
    obtain ⟨before, p, rfl, hp, hbefore⟩ := ih
    refine ⟨t :: before, p, rfl, ?_, List.forall_mem_cons.2 ⟨hk, hbefore⟩⟩
    rw [hp, hstop, List.length_append, String.length_toList]
    omega

end Tiles

/-! ## A whole source -/

namespace Token.StandsIn
variable {t : Token} {cs before behind : List Char}

theorem drop_start (h : t.StandsIn 0 cs before behind) :
    cs.drop t.start.offset = t.kind.written.toList ++ behind := by
  rw [h.start, Nat.zero_add, h.split, List.drop_left]

theorem extract_eq (h : t.StandsIn 0 cs before behind) :
    cs.extract t.start.offset t.stop = t.kind.written.toList := by
  rw [List.extract, h.drop_start, h.stop, Nat.add_sub_cancel_left, ← String.length_toList,
    List.take_left]

theorem holds (h : t.StandsIn 0 cs before behind) {q : Quoted} (hq : t.kind = .quoted q) :
    q.quote.Holds q.text.toList := by
  have hw := h.writable
  rwa [hq] at hw

/-- Three quotes at the start of a quoted text are its mark. -/
theorem quote_eq_triple_iff (h : t.StandsIn 0 cs before behind) {q : Quoted}
    (hq : t.kind = .quoted q) :
    q.quote = .triple ↔ Quote.triple.marks.toList <+: cs.drop t.start.offset := by
  have hw := h.holds hq
  have hseam : q = ⟨.single, ""⟩ → behind.head? ≠ some '\x27' := by
    rintro rfl
    exact h.seam hq
  rw [h.drop_start, hq, Kind.written, Quoted.toList_written]
  obtain ⟨quote, text⟩ := q
  cases quote with
  | triple => simp
  | single =>
    simp only [reduceCtorEq, false_iff]
    rintro ⟨more, hmore⟩
    have hempty : text.toList = [] → behind.head? ≠ some '\x27' := by
      intro ht
      obtain rfl : text = "" := String.toList_eq_nil_iff.1 ht
      exact hseam rfl
    refine not_open_triple hw hempty more ?_
    simpa [Quote.marks] using hmore.symm

/-- A quoted text is closed by the first mark behind its opening one. -/
theorem stop_le_of_marks (h : t.StandsIn 0 cs before behind) {q : Quoted} (hq : t.kind = .quoted q)
    {i : Nat} (hi : t.start.offset + q.quote.marks.length ≤ i)
    (hmarks : q.quote.marks.toList <+: cs.drop i) : t.stop ≤ i + q.quote.marks.length := by
  obtain ⟨j, rfl⟩ := Nat.exists_eq_add_of_le hi
  have hdrop : cs.drop (t.start.offset + q.quote.marks.length + j) =
      (q.text.toList ++ q.quote.marks.toList ++ behind).drop j := by
    rw [← List.drop_drop, ← List.drop_drop, h.drop_start, hq, Kind.written, Quoted.toList_written,
      List.append_assoc, List.append_assoc, ← String.length_toList, List.drop_left,
      List.append_assoc]
  rw [hdrop] at hmarks
  have hj : q.text.length ≤ j := by
    by_contra hlt
    have hin : j < q.text.toList.length := by
      rw [String.length_toList]
      omega
    exact (h.holds hq).not_marks_at hin behind hmarks
  have hlength : t.kind.written.length =
      q.quote.marks.length + q.text.length + q.quote.marks.length := by
    simp [hq, Kind.written, Quoted.written]
  rw [h.stop, hlength]
  omega

end Token.StandsIn

/-- The tokens of a source, its characters and the offsets of the tokens agree. -/
structure Tiling (source : String) (tokens : List Token) : Prop where
  ordered : tokens.Pairwise fun t u => t.stop ≤ u.start.offset
  nonempty : ∀ t ∈ tokens, t.kind ≠ .finish → t.start.offset < t.stop
  /-- Only separators are left out. -/
  gaps : ∀ i c, source.toList[i]? = some c → (∀ t ∈ tokens, ¬ t.Covers i) → isSeparator c = true
  spelled : ∀ t ∈ tokens, source.toList.extract t.start.offset t.stop = t.kind.written.toList
  /-- Three quotes are never read as less than the mark of a list. -/
  opened : ∀ t ∈ tokens, ∀ q, t.kind = .quoted q →
    (q.quote = .triple ↔ Quote.triple.marks.toList <+: source.toList.drop t.start.offset)
  /-- A text in single quotes holds no quote. -/
  unquoted : ∀ t ∈ tokens, ∀ q, t.kind = .quoted q → q.quote = .single → '\x27' ∉ q.text.toList
  /-- The first closing mark behind the opening one ends the token. -/
  closed : ∀ t ∈ tokens, ∀ q, t.kind = .quoted q → ∀ i,
    t.start.offset + q.quote.marks.length ≤ i → q.quote.marks.toList <+: source.toList.drop i →
      t.stop ≤ i + q.quote.marks.length
  finished : ∃ before p, tokens = before ++ [⟨.finish, p, source.length⟩] ∧
    p.offset = source.length ∧ ∀ t ∈ before, t.kind ≠ .finish

/-- The tokens of a source tile it. -/
theorem tiling_of_tokenize {source : String} {tokens : List Token}
    (h : tokenize source = .ok tokens) : Tiling source tokens := by
  have htiles := tiles_of_tokenize h
  refine ⟨htiles.ordered, ?_, ?_, ?_, ?_, ?_, ?_, ?_⟩
  · intro t ht hk
    obtain ⟨before, behind, hs⟩ := htiles.exists_standsIn ht
    have hlength := Kind.length_written_pos hk
    rw [hs.stop]
    omega
  · intro i c hi hc
    exact htiles.isSeparator_of_not_covers hi (by simpa using hc)
  · intro t ht
    obtain ⟨before, behind, hs⟩ := htiles.exists_standsIn ht
    exact hs.extract_eq
  · intro t ht q hq
    obtain ⟨before, behind, hs⟩ := htiles.exists_standsIn ht
    exact hs.quote_eq_triple_iff hq
  · intro t ht q hq hsingle
    obtain ⟨before, behind, hs⟩ := htiles.exists_standsIn ht
    have hholds := hs.holds hq
    rwa [hsingle] at hholds
  · intro t ht q hq i hi hmarks
    obtain ⟨before, behind, hs⟩ := htiles.exists_standsIn ht
    exact hs.stop_le_of_marks hq hi hmarks
  · obtain ⟨before, p, hsplit, hp, hbefore⟩ := htiles.finish_last
    rw [Nat.zero_add, String.length_toList] at hp
    exact ⟨before, p, hp ▸ hsplit, hp, hbefore⟩

/-- A triple text with two quotes in it, an empty one, and a line break before the end. -/
theorem tiling_of_tokenize_quotes :
    ∃ tokens, tokenize "D'''a''b''' ''\r\n#" = .ok tokens ∧
      Tiling "D'''a''b''' ''\r\n#" tokens := by
  have h : tokenize "D'''a''b''' ''\r\n#" = .ok [⟨.document, ⟨0, 1, 1⟩, 1⟩,
      ⟨.quoted ⟨.triple, "a''b"⟩, ⟨1, 1, 2⟩, 11⟩, ⟨.quoted ⟨.single, ""⟩, ⟨12, 1, 13⟩, 14⟩,
      ⟨.hash, ⟨16, 2, 1⟩, 17⟩, ⟨.finish, ⟨17, 2, 2⟩, 17⟩] := by
    decide +kernel
  exact ⟨_, h, tiling_of_tokenize h⟩

end PageExtract.Rule
