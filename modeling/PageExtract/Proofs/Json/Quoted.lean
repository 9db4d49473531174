import Mathlib.Tactic.SplitIfs
import PageExtract.Json.Quoted

/-! # Quoted texts are read back

Between two quotes a text is spelled character by character: each stands there as itself or as an
escape. Main statements: a spelling is read as the text that it spells, nothing else is read as a
text, and what is written for a text spells it. Skipping asks for less and finds the same end.
-/
namespace PageExtract.Json

inductive Stands : List Char → Char → Prop
  | plain {c : Char} (hquote : c ≠ '\x22') (hbackslash : c ≠ '\\') (hc : 0x20 ≤ c.toNat) :
      Stands [c] c
  | short {e c : Char} (he : simpleEscape? e = some c) : Stands ['\\', e] c
  | unit {w x y z : Char} {n : Nat} (hn : hexUnit? w x y z = some n) (hlead : isLead n = false)
      (htrail : isTrail n = false) : Stands ['\\', 'u', w, x, y, z] (Char.ofNat n)
  /-- A character whose number is too large for four digits. -/
  | pair {w x y z w' x' y' z' : Char} {m n : Nat} (hm : hexUnit? w x y z = some m)
      (hn : hexUnit? w' x' y' z' = some n) (hlead : isLead m = true) (htrail : isTrail n = true) :
      Stands ['\\', 'u', w, x, y, z, '\\', 'u', w', x', y', z']
        (Char.ofNat ((m - 0xD800) * 0x400 + (n - 0xDC00) + 0x10000))

inductive Spells : List Char → List Char → Prop
  | done : Spells [] []
  | more {piece cs text : List Char} {c : Char} (hc : Stands piece c) (h : Spells cs text) :
      Spells (piece ++ cs) (c :: text)

/-! ## Reading -/

theorem readUnit_of_hexUnit? {w x y z : Char} {n : Nat} (h : hexUnit? w x y z = some n)
    (rest : List Char) : readUnit (w :: x :: y :: z :: rest) = .ok (n, rest) := by
  rw [readUnit, h]

theorem not_isTrail_of_isLead {n : Nat} (h : isLead n = true) : isTrail n = false := by
  simp only [isLead, isTrail, Bool.and_eq_true, Bool.and_eq_false_iff, decide_eq_true_eq,
    decide_eq_false_iff_not] at *
  omega

theorem ne_u_of_simpleEscape? {e c : Char} (h : simpleEscape? e = some c) : e ≠ 'u' := by
  rintro rfl
  simp [simpleEscape?] at h

theorem readText_of_readEscape (code : List Char) {cs rest text : List Char} {c : Char}
    (hcode : readEscape (code ++ cs) = .ok (c, cs)) (h : readText cs = .ok (text, rest)) :
    readText ('\\' :: (code ++ cs)) = .ok (c :: text, rest) := by
  rw [readText]
  split
  · simp_all
  · rename_i hr
    obtain ⟨rfl, rfl⟩ := Prod.mk.inj (Except.ok.inj (hcode.symm.trans hr))
    rw [h]

theorem Stands.readText {piece : List Char} {c : Char} (hp : Stands piece c)
    {cs rest text : List Char} (h : readText cs = .ok (text, rest)) :
    readText (piece ++ cs) = .ok (c :: text, rest) := by
  cases hp with
  | plain hquote hbackslash hc =>
    rw [List.singleton_append, readText.eq_4 _ _ hquote hbackslash, if_neg (Nat.not_lt.2 hc), h]
  | @short e _ he =>
    refine readText_of_readEscape [e] ?_ h
    rw [List.singleton_append, readEscape.eq_3 _ _ (ne_u_of_simpleEscape? he), he]
  | @unit w x y z n hn hlead htrail =>
    refine readText_of_readEscape ['u', w, x, y, z] ?_ h
    simp [readEscape, readUnit_of_hexUnit? hn, hlead, htrail]
  | @pair w x y z w' x' y' z' m n hm hn hlead htrail =>
    refine readText_of_readEscape ['u', w, x, y, z, '\\', 'u', w', x', y', z'] ?_ h
    simp [readEscape, readTrail, readUnit_of_hexUnit? hm, readUnit_of_hexUnit? hn,
      not_isTrail_of_isLead hlead, hlead, htrail]

/-- A spelling is read up to its closing quote as the text that it spells. -/
theorem Spells.readText {cs text : List Char} (h : Spells cs text) (rest : List Char) :
    readText (cs ++ '\x22' :: rest) = .ok (text, rest) := by
  induction h with
  | done => exact readText.eq_2 rest
  | more hc _ ih =>
    rw [List.append_assoc]
    exact hc.readText ih

/-! ## What was read -/

theorem exists_hexUnit?_of_readUnit {cs rest : List Char} {n : Nat}
    (h : readUnit cs = .ok (n, rest)) :
    ∃ w x y z, cs = w :: x :: y :: z :: rest ∧ hexUnit? w x y z = some n := by
  unfold readUnit at h
  split at h
  · rename_i w x y z more
    split at h
    · rename_i hn
      obtain ⟨rfl, rfl⟩ := Prod.mk.inj (Except.ok.inj h)
      exact ⟨w, x, y, z, rfl, hn⟩
    · cases h
  · split at h <;> cases h

theorem stands_of_readTrail {w x y z : Char} {lead : Nat} (hlead : hexUnit? w x y z = some lead)
    (his : isLead lead = true) {cs rest : List Char} {c : Char}
    (h : readTrail lead cs = .ok (c, rest)) :
    ∃ code, cs = code ++ rest ∧ Stands ('\\' :: 'u' :: w :: x :: y :: z :: code) c := by
  unfold readTrail at h
  split at h
  · cases h
  · cases h
  · split at h
    · cases h
    · rename_i hu
      obtain ⟨w', x', y', z', rfl, hn⟩ := exists_hexUnit?_of_readUnit hu
      split at h
      · rename_i htrail
        obtain ⟨rfl, rfl⟩ := Prod.mk.inj (Except.ok.inj h)
        exact ⟨['\\', 'u', w', x', y', z'], rfl, .pair hlead hn his htrail⟩
      · cases h
  · cases h

theorem stands_of_readEscape {cs rest : List Char} {c : Char} (h : readEscape cs = .ok (c, rest)) :
    ∃ code, cs = code ++ rest ∧ Stands ('\\' :: code) c := by
  unfold readEscape at h
  split at h
  · cases h
  · split at h
    · cases h
    · rename_i hu
      obtain ⟨w, x, y, z, rfl, hn⟩ := exists_hexUnit?_of_readUnit hu
      split at h
      · cases h
      · rename_i htrail
        split at h
        · rename_i hlead
          obtain ⟨code, rfl, hs⟩ := stands_of_readTrail hn hlead h
          exact ⟨'u' :: w :: x :: y :: z :: code, rfl, hs⟩
        · rename_i hlead
          obtain ⟨rfl, rfl⟩ := Prod.mk.inj (Except.ok.inj h)
          exact ⟨['u', w, x, y, z], rfl, .unit hn (by simpa using hlead) (by simpa using htrail)⟩
  · split at h
    · rename_i he
      obtain ⟨rfl, rfl⟩ := Prod.mk.inj (Except.ok.inj h)
      exact ⟨[_], rfl, .short he⟩
    · cases h

/-- What is read up to a closing quote is a spelling. -/
theorem spells_of_readText {cs rest text : List Char} (h : readText cs = .ok (text, rest)) :
    ∃ body, cs = body ++ '\x22' :: rest ∧ Spells body text := by
  fun_induction readText cs generalizing text with
  | case2 more =>
    obtain ⟨rfl, rfl⟩ := Prod.mk.inj (Except.ok.inj h)
    exact ⟨[], rfl, .done⟩
  | case5 cs c r hr t r' ht ih =>
    obtain ⟨rfl, rfl⟩ := Prod.mk.inj (Except.ok.inj h)
    obtain ⟨code, rfl, hc⟩ := stands_of_readEscape hr
    obtain ⟨body, rfl, hs⟩ := ih ht
    exact ⟨'\\' :: code ++ body, by simp, .more hc hs⟩
  | case8 c cs hquote hbackslash hc t r ht ih =>
    obtain ⟨rfl, rfl⟩ := Prod.mk.inj (Except.ok.inj h)
    obtain ⟨body, rfl, hs⟩ := ih ht
    exact ⟨[c] ++ body, rfl, .more (.plain hquote hbackslash (Nat.not_lt.1 hc)) hs⟩
  | _ => cases h

/-! ## Skipping -/

/-- What the grammar lets stand between two quotes. An escape by number need not stand for a
character here. -/
inductive Escaped : List Char → Prop
  | done : Escaped []
  | plain {c : Char} {cs : List Char} (hquote : c ≠ '\x22') (hbackslash : c ≠ '\\')
      (hc : 0x20 ≤ c.toNat) (h : Escaped cs) : Escaped (c :: cs)
  | short {e : Char} {cs : List Char} (he : (simpleEscape? e).isSome) (h : Escaped cs) :
      Escaped ('\\' :: e :: cs)
  | unit {w x y z : Char} {cs : List Char} (hn : (hexUnit? w x y z).isSome) (h : Escaped cs) :
      Escaped ('\\' :: 'u' :: w :: x :: y :: z :: cs)

theorem Spells.escaped {cs text : List Char} (h : Spells cs text) : Escaped cs := by
  induction h with
  | done => exact .done
  | more hc _ ih =>
    cases hc with
    | plain hquote hbackslash hc => exact .plain hquote hbackslash hc ih
    | short he => exact .short (by simp [he]) ih
    | unit hn _ _ => exact .unit (by simp [hn]) ih
    | pair hm hn _ _ => exact .unit (by simp [hm]) (.unit (by simp [hn]) ih)

theorem Escaped.skipText {cs : List Char} (h : Escaped cs) (rest : List Char) :
    skipText (cs ++ '\x22' :: rest) = .ok rest := by
  induction h with
  | done => exact skipText.eq_2 rest
  | plain hquote hbackslash hc _ ih =>
    rw [List.cons_append, skipText.eq_6 _ _ hquote (by simp [hbackslash]) (by simp [hbackslash])
      (by simp [hbackslash]), if_neg (Nat.not_lt.2 hc), ih]
  | short he _ ih =>
    obtain ⟨c, hc⟩ := Option.isSome_iff_exists.1 he
    rw [List.cons_append, List.cons_append, skipText.eq_5 _ _ (ne_u_of_simpleEscape? hc), if_pos he,
      ih]
  | @unit w x y z cs hn _ ih =>
    obtain ⟨n, hn⟩ := Option.isSome_iff_exists.1 hn
    have hu := readUnit_of_hexUnit? hn (cs ++ '\x22' :: rest)
    simp only [List.cons_append]
    rw [skipText.eq_4]
    split
    · simp_all
    · rename_i hr
      obtain ⟨-, rfl⟩ := Prod.mk.inj (Except.ok.inj (hu.symm.trans hr))
      exact ih

/-- Reading and skipping find the same closing quote: a text whose escapes stand for no characters
is not read as another text. -/
theorem Escaped.spells_of_readText {cs : List Char} (h : Escaped cs) {behind rest text : List Char}
    (hr : readText (cs ++ '\x22' :: behind) = .ok (text, rest)) :
    Spells cs text ∧ rest = behind := by
  obtain ⟨body, hbody, hs⟩ := Json.spells_of_readText hr
  have hskip := h.skipText behind
  rw [hbody, hs.escaped.skipText rest] at hskip
  obtain rfl := Except.ok.inj hskip
  obtain rfl := List.append_cancel_right hbody
  exact ⟨hs, rfl⟩

/-! ## Writing -/

theorem hexValue?_hexDigit {n : Nat} (h : n < 16) : Text.hexValue? (hexDigit n) = some n := by
  have hall : ∀ n < 16, Text.hexValue? (hexDigit n) = some n := by decide
  exact hall n h

theorem hexUnit?_of_lt {n : Nat} (h : n < 0x20) :
    hexUnit? '0' '0' (hexDigit (n / 16)) (hexDigit (n % 16)) = some n := by
  have hzero : Text.hexValue? '0' = some 0 := by decide
  have hhigh : Text.hexValue? (hexDigit (n / 16)) = some (n / 16) := hexValue?_hexDigit (by omega)
  have hlow : Text.hexValue? (hexDigit (n % 16)) = some (n % 16) := hexValue?_hexDigit (by omega)
  simp only [hexUnit?, hzero, hhigh, hlow, Option.bind_eq_bind, Option.bind_some, Option.some.injEq]
  omega

theorem stands_escape (c : Char) : Stands (escape c) c := by
  unfold escape
  split_ifs with h₁ h₂ h₃ h₄ h₅ h₆ h₇ h
  · exact .short (by simp [h₁, simpleEscape?])
  · exact .short (by simp [h₂, simpleEscape?])
  · exact .short (by simp [h₃, simpleEscape?])
  · exact .short (by simp [h₄, simpleEscape?])
  · exact .short (by simp [h₅, simpleEscape?])
  · exact .short (by simp [h₆, simpleEscape?])
  · exact .short (by simp [h₇, simpleEscape?])
  · have hu := Stands.unit (hexUnit?_of_lt h) (by simp [isLead]; omega) (by simp [isTrail]; omega)
    rwa [Char.ofNat_toNat] at hu
  · exact .plain h₁ h₂ (Nat.not_lt.1 h)

theorem spells_escapes (cs : List Char) : Spells (cs.flatMap escape) cs := by
  induction cs with
  | nil => exact .done
  | cons c cs ih => exact .more (stands_escape c) ih

/-- What is written for a text is read as the text, from behind the opening quote. -/
theorem readText_escapes (text rest : List Char) :
    readText (text.flatMap escape ++ '\x22' :: rest) = .ok (text, rest) :=
  (spells_escapes text).readText rest

end PageExtract.Json
