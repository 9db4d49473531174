import PageExtract.Proofs.Rule.Blame
import PageExtract.Proofs.Rule.Spelling

/-! # Where the tokens of a rule stand is irrelevant

Sources have tokens of the same kinds exactly if they are the same texts with other separators
around them. Main statement: such sources are parsed into the same rule, or fail with the same
message at the same token.
-/
namespace PageExtract.Rule

/-! ## Sources as tokens with separators around them -/

/-- A source is made of pieces that can be read back, and of separators behind them. -/
structure LaidOut (source : String) (pieces : List Piece) (trail : String) : Prop where
  written : source = layOut pieces trail
  fits : ∀ piece ∈ pieces, piece.Fits
  trailing : Separates trail
  apart : pieces.IsChain Piece.Apart

theorem LaidOut.scans {source trail : String} {pieces : List Piece}
    (h : LaidOut source pieces trail) :
    Scans source.toList (pieces.map Piece.kind ++ [.finish]) := by
  rw [h.written]
  exact (scans_layOut_iff h.fits h.trailing).2 h.apart

def Spelled (cs : List Char) (kinds : List Kind) : Prop :=
  ∃ pieces trail, pieces.map Piece.kind = kinds ∧ (layOut pieces trail).toList = cs ∧
    (∀ piece ∈ pieces, piece.Fits) ∧ Separates trail

theorem Spelled.written {cs : List Char} {kinds : List Kind} (h : Spelled cs kinds) {kind : Kind}
    (hw : kind.Writable) (hk : kind ≠ .finish) :
    Spelled (kind.written.toList ++ cs) (kind :: kinds) := by
  obtain ⟨pieces, trail, rfl, rfl, hp, ht⟩ := h
  have hpiece : Piece.Fits ⟨"", kind⟩ := ⟨by simp [Separates], hw, hk⟩
  refine ⟨⟨"", kind⟩ :: pieces, trail, rfl, ?_, List.forall_mem_cons.2 ⟨hpiece, hp⟩, ht⟩
  simp [layOut, String.toList_append]

/-- A separator in front belongs to the first gap, or to what stands behind all pieces if there is
none. -/
theorem Spelled.separator {cs : List Char} {kinds : List Kind} (h : Spelled cs kinds) {c : Char}
    (hc : isSeparator c = true) : Spelled (c :: cs) kinds := by
  obtain ⟨pieces, trail, rfl, rfl, hp, ht⟩ := h
  cases pieces with
  | nil =>
    have htrail : Separates (String.ofList [c] ++ trail) := by
      simpa [Separates, String.toList_append, hc] using ht
    exact ⟨[], _, rfl, by simp [layOut, String.toList_append], by simp, htrail⟩
  | cons piece pieces =>
    obtain ⟨hpiece, hmore⟩ := List.forall_mem_cons.1 hp
    have hgap : Separates (String.ofList [c] ++ piece.gap) := by
      simpa [Separates, String.toList_append, hc] using hpiece.gap
    have hwider : Piece.Fits ⟨String.ofList [c] ++ piece.gap, piece.kind⟩ :=
      ⟨hgap, hpiece.writable, hpiece.ne_finish⟩
    have hfits := List.forall_mem_cons.2 ⟨hwider, hmore⟩
    refine ⟨⟨String.ofList [c] ++ piece.gap, piece.kind⟩ :: pieces, trail, rfl, ?_, hfits, ht⟩
    simp [layOut, String.toList_append]

/-- Whatever is tokenized is laid out of the texts of its tokens. -/
theorem Scans.spelled {cs : List Char} {kinds : List Kind} (h : Scans cs (kinds ++ [.finish])) :
    Spelled cs kinds := by
  generalize hall : kinds ++ [.finish] = all at h
  induction h generalizing kinds with
  | finish =>
    obtain rfl : kinds = [] := by simpa using hall
    exact ⟨[], "", rfl, rfl, by simp, by simp [Separates]⟩
  | skip hc _ ih => exact (ih hall).separator hc
  | @mark c _ kind _ hc _ ih =>
    cases kinds with
    | nil =>
      obtain rfl : .finish = kind := (List.cons.inj hall).1
      exact absurd rfl (Kind.ne_finish_of_ofChar? hc)
    | cons _ kinds =>
      obtain ⟨rfl, hrest⟩ := List.cons.inj hall
      have hmark := (ih hrest).written (Kind.writable_of_ofChar? hc) (Kind.ne_finish_of_ofChar? hc)
      rwa [Kind.written_of_ofChar? hc] at hmark
  | @quoted q cs _ hq seam _ ih =>
    cases kinds with
    | nil => cases (List.cons.inj hall).1
    | cons _ kinds =>
      obtain ⟨rfl, hrest⟩ := List.cons.inj hall
      exact (ih hrest).written hq (by simp)

/-- The sources whose tokens have the given kinds are those that are laid out of them. -/
theorem scans_iff_laidOut {source : String} {kinds : List Kind} :
    Scans source.toList (kinds ++ [.finish]) ↔
      ∃ pieces trail, LaidOut source pieces trail ∧ pieces.map Piece.kind = kinds := by
  constructor
  · intro h
    obtain ⟨pieces, trail, rfl, hw, hp, ht⟩ := h.spelled
    have hsource : source = layOut pieces trail := String.toList_inj.1 hw.symm
    have hapart : pieces.IsChain Piece.Apart := by
      rw [← hw] at h
      exact (scans_layOut_iff hp ht).1 h
    exact ⟨pieces, trail, ⟨hsource, hp, ht, hapart⟩, rfl⟩
  · rintro ⟨pieces, trail, h, rfl⟩
    exact h.scans

/-- Two sources have the same tokens, with separators of their own before, between and behind
them. -/
def Respaced (first second : String) : Prop :=
  ∃ pieces pieces' trail trail', LaidOut first pieces trail ∧ LaidOut second pieces' trail' ∧
    pieces.map Piece.kind = pieces'.map Piece.kind

/-- Changing separators keeps the kinds of the tokens, and no other change does. -/
theorem respaced_iff {first second : String} {tokens : List Token}
    (ht : tokenize first = .ok tokens) :
    Respaced first second ↔ ∃ tokens', tokenize second = .ok tokens' ∧
      tokens'.map Token.kind = tokens.map Token.kind := by
  have hscan : Scans first.toList (tokens.map Token.kind) := tokenize_iff.1 ⟨tokens, ht, rfl⟩
  obtain ⟨kinds, hkinds, -⟩ := hscan.finish_last
  rw [tokenize_iff, hkinds]
  rw [hkinds] at hscan
  constructor
  · rintro ⟨pieces, pieces', trail, trail', h, h', he⟩
    obtain ⟨tokens'', ht'', hk⟩ := tokenize_iff.2 h.scans
    obtain rfl : tokens = tokens'' := Except.ok.inj (ht.symm.trans ht'')
    rw [← hkinds, hk, he]
    exact h'.scans
  · intro h
    obtain ⟨pieces, trail, hl, hk⟩ := scans_iff_laidOut.1 hscan
    obtain ⟨pieces', trail', hl', hk'⟩ := scans_iff_laidOut.1 h
    exact ⟨pieces, pieces', trail, trail', hl, hl', hk.trans hk'.symm⟩

/-! ## What is parsed -/

/-- The index of the blamed token depends on the kinds alone. -/
theorem exists_index_of_fault {kinds : List Kind} {fault : Fault} (hfinish : .finish ∈ kinds)
    (h : readAll kinds = .error fault) :
    ∃ i : Nat, ∀ tokens : List Token, tokens.map Token.kind = kinds →
      ∃ token : Token, tokens[i]? = some token ∧ placeOf tokens fault.rest = token.start := by
  obtain ⟨used, kind, rest, rfl, hrest, -⟩ := exists_blamed_kind hfinish h
  refine ⟨used.length, ?_⟩
  intro tokens hk
  rw [hrest]
  exact placeOf_eq hk

theorem parse_of_tokenize {source : String} {tokens : List Token}
    (ht : tokenize source = .ok tokens) :
    parse source = (readAll (tokens.map Token.kind)).mapError fun fault =>
      ⟨fault.cause, placeOf tokens fault.rest⟩ := by
  cases hr : readAll (tokens.map Token.kind) <;> simp [parse, ht, hr, Except.mapError]

/-- Sources whose tokens have the same kinds are parsed into the same rule, or fail with the same
message at tokens of the same index. They are the sources that differ by separators around their
tokens. -/
theorem parse_layout_independent {first second : String} {tokens tokens' : List Token}
    (ht : tokenize first = .ok tokens) (ht' : tokenize second = .ok tokens')
    (hk : tokens.map Token.kind = tokens'.map Token.kind) :
    ((∃ rule, parse first = .ok rule ∧ parse second = .ok rule) ∨
      ∃ (e e' : ParseError) (i : Nat) (token token' : Token),
        parse first = .error e ∧ parse second = .error e' ∧ e.message = e'.message ∧
        tokens[i]? = some token ∧ e.place = token.start ∧
        tokens'[i]? = some token' ∧ e'.place = token'.start) ∧
    ∀ other, Respaced first other ↔ ∃ tokens'', tokenize other = .ok tokens'' ∧
      tokens''.map Token.kind = tokens.map Token.kind := by
  refine ⟨?_, fun other => respaced_iff ht⟩
  rw [parse_of_tokenize ht, parse_of_tokenize ht', ← hk]
  cases hr : readAll (tokens.map Token.kind) with
  | ok rule => exact .inl ⟨rule, rfl, rfl⟩
  | error fault =>
    have hfinish : .finish ∈ tokens.map Token.kind := by
      obtain ⟨before, hbefore, -⟩ := (tokenize_iff.1 ⟨tokens, ht, rfl⟩).finish_last
      simp [hbefore]
    obtain ⟨i, hi⟩ := exists_index_of_fault hfinish hr
    obtain ⟨token, hat, hplace⟩ := hi tokens rfl
    obtain ⟨token', hat', hplace'⟩ := hi tokens' hk.symm
    exact .inr ⟨_, _, i, token, token', rfl, rfl, rfl, hat, hplace, hat', hplace'⟩

/-- The second reading stands at another place of each source. -/
theorem parse_layout_independent_second_reading :
    ∃ tokens tokens' e e', tokenize "D'a'@'href'\r\n # ?" = .ok tokens ∧
      tokenize "D 'a'\n@'href'#?" = .ok tokens' ∧
      tokens.map Token.kind = tokens'.map Token.kind ∧
      parse "D'a'@'href'\r\n # ?" = .error e ∧ parse "D 'a'\n@'href'#?" = .error e' ∧
      e.message = e'.message ∧ e.place = ⟨14, 2, 2⟩ ∧ e'.place = ⟨13, 2, 8⟩ ∧
      Respaced "D'a'@'href'\r\n # ?" "D 'a'\n@'href'#?" := by
  have ht : tokenize "D'a'@'href'\r\n # ?" = .ok [⟨.document, ⟨0, 1, 1⟩, 1⟩,
      ⟨.quoted ⟨.single, "a"⟩, ⟨1, 1, 2⟩, 4⟩, ⟨.atSign, ⟨4, 1, 5⟩, 5⟩,
      ⟨.quoted ⟨.single, "href"⟩, ⟨5, 1, 6⟩, 11⟩, ⟨.hash, ⟨14, 2, 2⟩, 15⟩,
      ⟨.question, ⟨16, 2, 4⟩, 17⟩, ⟨.finish, ⟨17, 2, 5⟩, 17⟩] := by
    decide +kernel
  have ht' : tokenize "D 'a'\n@'href'#?" = .ok [⟨.document, ⟨0, 1, 1⟩, 1⟩,
      ⟨.quoted ⟨.single, "a"⟩, ⟨2, 1, 3⟩, 5⟩, ⟨.atSign, ⟨6, 2, 1⟩, 7⟩,
      ⟨.quoted ⟨.single, "href"⟩, ⟨7, 2, 2⟩, 13⟩, ⟨.hash, ⟨13, 2, 8⟩, 14⟩,
      ⟨.question, ⟨14, 2, 9⟩, 15⟩, ⟨.finish, ⟨15, 2, 10⟩, 15⟩] := by
    decide +kernel
  have hp : parse "D'a'@'href'\r\n # ?" =
      .error ⟨.alreadyRead .hash (.selection ⟨.single, "a"⟩) (.attr "href"), ⟨14, 2, 2⟩⟩ := by
    decide +kernel
  have hp' : parse "D 'a'\n@'href'#?" =
      .error ⟨.alreadyRead .hash (.selection ⟨.single, "a"⟩) (.attr "href"), ⟨13, 2, 8⟩⟩ := by
    decide +kernel
  obtain ⟨hsame, hrespaced⟩ := parse_layout_independent ht ht' rfl
  rcases hsame with ⟨rule, hrule, -⟩ | ⟨e, e', -, -, -, he, he', hmessage, -⟩
  · cases hp.symm.trans hrule
  · obtain rfl := Except.error.inj (hp.symm.trans he)
    obtain rfl := Except.error.inj (hp'.symm.trans he')
    exact ⟨_, _, _, _, ht, ht', rfl, hp, hp', hmessage, rfl, rfl, (hrespaced _).2 ⟨_, ht', rfl⟩⟩

end PageExtract.Rule
