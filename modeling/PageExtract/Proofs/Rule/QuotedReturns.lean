import PageExtract.Proofs.Rule.Lines

/-! # Carriage returns in quoted texts

Between tokens a carriage return ends a line with or without a line feed behind it, within a quoted
text only with one. Main statement: the lines that are missed at a token or a failure are exactly
those that end in this way in the quoted texts before it.
-/
namespace PageExtract.Rule

/-- A carriage return with no line feed behind it, in a quoted text. -/
def quotedReturn (cs : List Char) (tokens : List Token) (i : Nat) : Bool :=
  inQuoted tokens i && cs[i]? == some '\r' && cs[i + 1]? != some '\n'

def uniformEnds (cs : List Char) : Nat → Bool := endsLine cs fun _ => true

theorem uniformEnds_eq (cs : List Char) (tokens : List Token) (i : Nat) :
    uniformEnds cs i = (scannedEnds cs tokens i || quotedReturn cs tokens i) := by
  unfold uniformEnds scannedEnds quotedReturn endsLine
  cases hin : inQuoted tokens i <;> split <;> simp_all

theorem not_scannedEnds_of_quotedReturn {cs : List Char} {tokens : List Token} {i : Nat}
    (h : quotedReturn cs tokens i = true) : scannedEnds cs tokens i = false := by
  simp only [quotedReturn, Bool.and_eq_true, beq_iff_eq] at h
  obtain ⟨⟨hin, hreturn⟩, -⟩ := h
  simp [scannedEnds, endsLine, hin, hreturn]

theorem countP_uniformEnds (cs : List Char) (tokens : List Token) (n : Nat) :
    (List.range n).countP (uniformEnds cs) =
      (List.range n).countP (scannedEnds cs tokens) +
        (List.range n).countP (quotedReturn cs tokens) := by
  induction n with
  | zero => rfl
  | succ n ih =>
    simp only [List.range_succ, List.countP_append, List.countP_singleton, ih,
      uniformEnds_eq cs tokens n]
    cases hq : quotedReturn cs tokens n with
    | false => simp; omega
    | true =>
      rw [not_scannedEnds_of_quotedReturn hq]
      simp
      omega

/-- The columns are the same unless a carriage return in a quoted text stands behind the last end of
a line. -/
theorem column_behind_eq_iff (cs : List Char) (tokens : List Token) (n : Nat) :
    (Place.behind (scannedEnds cs tokens) n).column = (Place.behind (uniformEnds cs) n).column ↔
      ∀ i < n, quotedReturn cs tokens i = true →
        ∃ j < n, i < j ∧ scannedEnds cs tokens j = true := by
  induction n with
  | zero => simp [Place.behind]
  | succ n ih =>
    rw [Place.behind_succ, Place.behind_succ, uniformEnds_eq cs tokens n]
    cases hreturn : quotedReturn cs tokens n with
    | true =>
      -- only the uniform count starts a line here
      rw [not_scannedEnds_of_quotedReturn hreturn]
      refine iff_of_false (by simp [Place.nextLine, Place.right, Place.behind]) ?_
      intro hall
      obtain ⟨j, hj, hlt, -⟩ := hall n (Nat.lt_succ_self n) hreturn
      omega
    | false =>
      have hne : ∀ i, quotedReturn cs tokens i = true → i ≠ n := by
        rintro _ hi rfl
        simp [hreturn] at hi
      cases hend : scannedEnds cs tokens n with
      | true =>
        refine iff_of_true rfl ?_
        intro i hi hq
        have hlt := hne i hq
        exact ⟨n, Nat.lt_succ_self n, by omega, hend⟩
      | false =>
        have hright : (Place.behind (scannedEnds cs tokens) n).right.column =
              (Place.behind (uniformEnds cs) n).right.column ↔
            (Place.behind (scannedEnds cs tokens) n).column =
              (Place.behind (uniformEnds cs) n).column := Nat.add_right_cancel_iff
        simp only [Bool.or_false, Bool.false_eq_true, if_false]
        rw [hright, ih]
        constructor
        · intro hall i hi hq
          have hlt := hne i hq
          obtain ⟨j, hj, hij, he⟩ := hall i (by omega) hq
          exact ⟨j, hj.trans (Nat.lt_succ_self n), hij, he⟩
        · intro hall i hi hq
          obtain ⟨j, hj, hij, he⟩ := hall i (hi.trans (Nat.lt_succ_self n)) hq
          have hjn : j ≠ n := by
            rintro rfl
            simp [hend] at he
          exact ⟨j, by omega, hij, he⟩

/-- How far a place is off: by one line for each carriage return in the quoted texts before it, and
in its column if one of them stands behind the last end of a line. -/
structure Place.MissesQuoted (p : Place) (before : List Char) (tokens : List Token) : Prop where
  line : (behind (uniformEnds before) p.offset).line =
    p.line + (List.range p.offset).countP (quotedReturn before tokens)
  column : p.column = (behind (uniformEnds before) p.offset).column ↔
    ∀ i < p.offset, quotedReturn before tokens i = true →
      ∃ j < p.offset, i < j ∧ scannedEnds before tokens j = true
  exact_iff : p = behind (uniformEnds before) p.offset ↔
    ∀ i < p.offset, quotedReturn before tokens i = false

theorem Place.missesQuoted {p : Place} {before : List Char} {tokens : List Token}
    (h : p = behind (scannedEnds before tokens) p.offset) : p.MissesQuoted before tokens := by
  have hline : p.line = 1 + (List.range p.offset).countP (scannedEnds before tokens) :=
    congrArg line h
  have hcolumn : p.column = (behind (scannedEnds before tokens) p.offset).column :=
    congrArg column h
  have hall : (behind (uniformEnds before) p.offset).line =
      p.line + (List.range p.offset).countP (quotedReturn before tokens) := by
    rw [hline, Nat.add_assoc, ← countP_uniformEnds]
    rfl
  refine ⟨hall, ?_, ?_, ?_⟩
  · rw [hcolumn]
    exact column_behind_eq_iff before tokens p.offset
  · intro hp i hi
    have hsame : p.line = (behind (uniformEnds before) p.offset).line := congrArg line hp
    have hzero : (List.range p.offset).countP (quotedReturn before tokens) = 0 := by omega
    simpa using List.countP_eq_zero.1 hzero i (List.mem_range.2 hi)
  · intro hnone
    refine h.trans (behind_congr fun i hi => ?_)
    rw [uniformEnds_eq before tokens, hnone i hi, Bool.or_false]

/-- Tokens and failures miss exactly the lines that end within the quoted texts before them at a
carriage return without a line feed. -/
theorem tokenize_missesQuoted (source : String) :
    match tokenize source with
    | .ok tokens =>
      ∀ t ∈ tokens, t.start.MissesQuoted (source.toList.take t.start.offset) tokens
    | .error e =>
      ∃ tokens, tokenize (String.ofList (source.toList.take e.place.offset)) = .ok tokens ∧
        e.place.MissesQuoted (source.toList.take e.place.offset) tokens := by
  cases h : tokenize source with
  | error e =>
    obtain ⟨tokens, hok, hplace, -⟩ := place_of_tokenize_error h
    exact ⟨tokens, hok, Place.missesQuoted hplace⟩
  | ok tokens =>
    intro t ht
    exact Place.missesQuoted (start_of_mem_tokenize h ht)

/-- A lone carriage return within a quoted text leaves the `#` behind it in the first line. -/
theorem hash_behind_quotedReturn :
    ∃ tokens, tokenize "D'a\rb'#" = .ok tokens ∧
      ∃ t ∈ tokens, t.kind = .hash ∧ t.start = ⟨6, 1, 7⟩ ∧
        Place.behind (uniformEnds ("D'a\rb'#".toList.take 6)) 6 = ⟨6, 2, 3⟩ := by
  have h : tokenize "D'a\rb'#" = .ok [⟨.document, ⟨0, 1, 1⟩, 1⟩,
      ⟨.quoted ⟨.single, "a\rb"⟩, ⟨1, 1, 2⟩, 6⟩, ⟨.hash, ⟨6, 1, 7⟩, 7⟩,
      ⟨.finish, ⟨7, 1, 8⟩, 7⟩] := by
    decide +kernel
  exact ⟨_, h, _, .tail _ (.tail _ (.head _)), rfl, rfl, by decide +kernel⟩

end PageExtract.Rule
