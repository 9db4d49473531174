import PageExtract.Json.Number

/-! # Numbers are scanned to their end

A number is a sign, digits, a fraction and an exponent, and only the first digits have to be there.
Nothing marks its end, so it ends where no character follows that it could go on with. Main
statement: such a number is skipped, neither less of it nor more.
-/
namespace PageExtract.Json

/-! ## Grammar -/

def Digits (cs : List Char) : Prop := cs ≠ [] ∧ ∀ c ∈ cs, c.isDigit = true

def Whole (cs : List Char) : Prop := Digits cs ∧ (cs.head? = some '0' → cs = ['0'])

inductive Fraction : List Char → Prop
  | absent : Fraction []
  | digits {ds : List Char} (h : Digits ds) : Fraction ('.' :: ds)

inductive Exponent : List Char → Prop
  | absent : Exponent []
  | digits {e : Char} {sign ds : List Char} (he : e = 'e' ∨ e = 'E')
      (hsign : sign = [] ∨ sign = ['+'] ∨ sign = ['-']) (h : Digits ds) :
      Exponent (e :: (sign ++ ds))

inductive Number : List Char → Prop
  | parts {sign whole fraction exponent : List Char} (hsign : sign = [] ∨ sign = ['-'])
      (hwhole : Whole whole) (hfraction : Fraction fraction) (hexponent : Exponent exponent) :
      Number (sign ++ (whole ++ (fraction ++ exponent)))

theorem Digits.exists_head {ds : List Char} (h : Digits ds) :
    ∃ d more, ds = d :: more ∧ d.isDigit = true := by
  obtain ⟨hne, hdigits⟩ := h
  obtain ⟨d, more, rfl⟩ := List.exists_cons_of_ne_nil hne
  exact ⟨d, more, rfl, hdigits d List.mem_cons_self⟩

/-- A number starts with a minus or a digit. -/
theorem Number.exists_head {cs : List Char} (h : Number cs) :
    ∃ c more, cs = c :: more ∧ (c = '-' ∨ c.isDigit = true) := by
  obtain ⟨rfl | rfl, hwhole, -, -⟩ := h
  · obtain ⟨d, more, rfl, hd⟩ := hwhole.1.exists_head
    exact ⟨d, _, rfl, .inr hd⟩
  · exact ⟨'-', _, rfl, .inl rfl⟩

/-! ## What follows -/

def StopsAt (p : Char → Bool) (rest : List Char) : Prop := ∀ c, rest.head? = some c → p c = false

theorem stopsAt_cons {p : Char → Bool} {c : Char} (h : p c = false) (cs : List Char) :
    StopsAt p (c :: cs) := by
  rintro _ ⟨⟩
  exact h

/-- The characters that a number which is over could go on with. -/
def isNumeric (c : Char) : Bool := c.isDigit || c == '.' || c == 'e' || c == 'E'

theorem StopsAt.noDigit {rest : List Char} (h : StopsAt isNumeric rest) :
    StopsAt Char.isDigit rest := by
  intro c hc
  have := h c hc
  simp_all [isNumeric]

/-- Behind the digits in front of a fraction or an exponent stands no digit. -/
theorem Exponent.noDigit {exponent rest : List Char} (h : Exponent exponent)
    (hrest : StopsAt isNumeric rest) : StopsAt Char.isDigit (exponent ++ rest) := by
  cases h with
  | absent => exact hrest.noDigit
  | digits he _ _ => rcases he with rfl | rfl <;> exact stopsAt_cons (by decide) _

theorem Fraction.noDigit {fraction exponent rest : List Char} (h : Fraction fraction)
    (hexponent : Exponent exponent) (hrest : StopsAt isNumeric rest) :
    StopsAt Char.isDigit (fraction ++ (exponent ++ rest)) := by
  cases h with
  | absent => exact hexponent.noDigit hrest
  | digits _ => exact stopsAt_cons (by decide) _

/-! ## Scanning -/

theorem readDigits_append {ds rest : List Char} (h : Digits ds)
    (hrest : StopsAt Char.isDigit rest) : readDigits (ds ++ rest) = .ok (ds, rest) := by
  obtain ⟨d, more, rfl, hd⟩ := h.exists_head
  have hmore : ∀ c ∈ more, c.isDigit = true := fun c hc => h.2 c (List.mem_cons_of_mem _ hc)
  have htake : rest.takeWhile Char.isDigit = [] := by
    cases rest with
    | nil => rfl
    | cons c cs => rw [List.takeWhile_cons_of_neg (by simp [hrest c rfl])]
  have hdrop : rest.dropWhile Char.isDigit = rest := by
    cases rest with
    | nil => rfl
    | cons c cs => rw [List.dropWhile_cons_of_neg (by simp [hrest c rfl])]
  rw [List.cons_append, readDigits, if_pos hd, List.takeWhile_append_of_pos hmore,
    List.dropWhile_append_of_pos hmore, htake, hdrop, List.append_nil]

theorem readWhole_append {whole rest : List Char} (h : Whole whole)
    (hrest : StopsAt Char.isDigit rest) : readWhole (whole ++ rest) = .ok (whole, rest) := by
  rw [readWhole, readDigits_append h.1 hrest]
  split
  · rename_i hd
    cases hd
  · rename_i hd
    obtain ⟨rfl, -⟩ := Prod.mk.inj (Except.ok.inj hd)
    simpa using h.2 rfl
  · rename_i hd
    exact hd.symm

theorem readFraction_append {fraction exponent rest : List Char} (h : Fraction fraction)
    (hexponent : Exponent exponent) (hrest : StopsAt isNumeric rest) :
    ∃ ds, readFraction (fraction ++ (exponent ++ rest)) = .ok (ds, exponent ++ rest) := by
  cases h with
  | @digits ds h => exact ⟨ds, readDigits_append h (hexponent.noDigit hrest)⟩
  | absent =>
    refine ⟨[], ?_⟩
    have hpoint : ∀ cs, exponent ++ rest ≠ '.' :: cs := by
      intro cs he
      cases hexponent with
      | absent => simpa [isNumeric] using hrest '.' (by simpa using congrArg List.head? he)
      | digits hmark _ _ => rcases hmark with rfl | rfl <;> simp at he
    rw [List.nil_append, readFraction.eq_2 _ hpoint]

theorem readSigned_append {sign ds rest : List Char}
    (hsign : sign = [] ∨ sign = ['+'] ∨ sign = ['-']) (h : Digits ds)
    (hrest : StopsAt Char.isDigit rest) : ∃ n, readSigned (sign ++ ds ++ rest) = .ok (n, rest) := by
  have hd := readDigits_append h hrest
  rcases hsign with rfl | rfl | rfl
  · obtain ⟨d, more, rfl, hdigit⟩ := h.exists_head
    have hplus : d ≠ '+' := by rintro rfl; simp at hdigit
    have hminus : d ≠ '-' := by rintro rfl; simp at hdigit
    simp_all [readSigned]
  · simp [readSigned, hd]
  · simp [readSigned, hd]

theorem readExponent_append {exponent rest : List Char} (h : Exponent exponent)
    (hrest : StopsAt isNumeric rest) : ∃ n, readExponent (exponent ++ rest) = .ok (n, rest) := by
  cases h with
  | digits he hsign h =>
    obtain ⟨n, hn⟩ := readSigned_append hsign h hrest.noDigit
    exact ⟨n, by rcases he with rfl | rfl <;> exact hn⟩
  | absent =>
    refine ⟨0, ?_⟩
    have hmark : ∀ e cs, e = 'e' ∨ e = 'E' → rest ≠ e :: cs := by
      rintro e cs he rfl
      have := hrest e rfl
      rcases he with rfl | rfl <;> simp [isNumeric] at this
    exact readExponent.eq_3 _ (fun cs => hmark 'e' cs (.inl rfl)) fun cs =>
      hmark 'E' cs (.inr rfl)

theorem readNumber_append {cs rest : List Char} (h : Number cs) (hrest : StopsAt isNumeric rest) :
    ∃ m, readNumber (cs ++ rest) = .ok (m, rest) := by
  obtain ⟨hsign, hwhole, hfraction, hexponent⟩ := h
  rename_i sign whole fraction exponent
  have hw := readWhole_append hwhole (hfraction.noDigit hexponent hrest)
  obtain ⟨ds, hf⟩ := readFraction_append hfraction hexponent hrest
  obtain ⟨n, he⟩ := readExponent_append hexponent hrest
  have hm : readMagnitude (whole ++ (fraction ++ (exponent ++ rest))) =
      .ok (.ofDigits whole ds n, rest) := by
    simp only [readMagnitude, hw, hf, he]
  refine ⟨.ofDigits whole ds n, ?_⟩
  simp only [List.append_assoc]
  rcases hsign with rfl | rfl
  · obtain ⟨d, more, rfl, hd⟩ := hwhole.1.exists_head
    have hminus : ∀ cs, d :: more ++ (fraction ++ (exponent ++ rest)) ≠ '-' :: cs := by
      intro cs hcs
      obtain ⟨rfl, -⟩ := List.cons.inj hcs
      simp at hd
    rw [List.nil_append, readNumber.eq_2 _ hminus, hm]
  · exact hm

/-- A number is skipped to its end. -/
theorem skipNumber_append {cs rest : List Char} (h : Number cs) (hrest : StopsAt isNumeric rest) :
    skipNumber (cs ++ rest) = .ok rest := by
  obtain ⟨m, hm⟩ := readNumber_append h hrest
  rw [skipNumber, hm]

end PageExtract.Json
