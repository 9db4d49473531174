import PageExtract.Proofs.Json.Number
import PageExtract.Proofs.Json.Record

/-! # Well-formed values are skipped to their end

The grammar of JSON values, with blanks wherever it allows them. Skipping keeps no tree, only the
brackets that are open. Main statement: whatever is open around a well-formed value, skipping goes
on behind its last character, however deep the value nests and whatever its texts hold.
-/
namespace PageExtract.Json

/-! ## Grammar -/

def Bracket.opening : Bracket → Char
  | .list => '['
  | .object => '\x7b'

/-- What a part of a text is: a value, or what stands between two brackets that are not empty. -/
inductive Part where
  | value
  | inside (bracket : Bracket)

inductive WellFormed : Part → List Char → Prop
  | word {cs : List Char}
      (h : cs ∈ [['n', 'u', 'l', 'l'], ['t', 'r', 'u', 'e'], ['f', 'a', 'l', 's', 'e']]) :
      WellFormed .value cs
  | number {cs : List Char} (h : Number cs) : WellFormed .value cs
  | text {cs : List Char} (h : Escaped cs) : WellFormed .value ('\x22' :: (cs ++ ['\x22']))
  | empty (bracket : Bracket) {gap : List Char} (hgap : Blanks gap) :
      WellFormed .value (bracket.opening :: (gap ++ [bracket.closing]))
  | filled (bracket : Bracket) {cs : List Char} (h : WellFormed (.inside bracket) cs) :
      WellFormed .value (bracket.opening :: (cs ++ [bracket.closing]))
  | item {gap cs gap' : List Char} (hgap : Blanks gap) (h : WellFormed .value cs)
      (hgap' : Blanks gap') : WellFormed (.inside .list) (gap ++ (cs ++ gap'))
  | member {gap key gap₁ gap₂ cs gap' : List Char} (hgap : Blanks gap) (hkey : Escaped key)
      (hgap₁ : Blanks gap₁) (hgap₂ : Blanks gap₂) (h : WellFormed .value cs)
      (hgap' : Blanks gap') :
      WellFormed (.inside .object)
        (gap ++ '\x22' :: (key ++ '\x22' :: (gap₁ ++ ':' :: (gap₂ ++ (cs ++ gap')))))
  | more {bracket : Bracket} {cs cs' : List Char} (h : WellFormed (.inside bracket) cs)
      (hmore : WellFormed (.inside bracket) cs') :
      WellFormed (.inside bracket) (cs ++ ',' :: cs')

/-! ## First characters -/

theorem isBlank_of_isDigit {c : Char} (h : c.isDigit = true) : isBlank c = false := by
  cases hb : isBlank c with
  | false => rfl
  | true =>
    simp only [isBlank, Bool.or_eq_true, beq_iff_eq] at hb
    rcases hb with ((rfl | rfl) | rfl) | rfl <;> simp at h

theorem ne_closing_of_isDigit {c : Char} (h : c.isDigit = true) (b : Bracket) : c ≠ b.closing := by
  rintro rfl
  cases b <;> simp [Bracket.closing] at h

theorem isBlank_opening (b : Bracket) : isBlank b.opening = false := by cases b <;> decide

theorem isBlank_closing (b : Bracket) : isBlank b.closing = false := by cases b <;> decide

theorem opening_ne_closing (b b' : Bracket) : b.opening ≠ b'.closing := by
  cases b <;> cases b' <;> decide

theorem Number.exists_first {cs : List Char} (h : Number cs) :
    ∃ c more, cs = c :: more ∧ isBlank c = false ∧ ∀ b : Bracket, c ≠ b.closing := by
  obtain ⟨c, more, rfl, rfl | hc⟩ := h.exists_head
  · exact ⟨'-', more, rfl, by decide, by rintro (_ | _) <;> decide⟩
  · exact ⟨c, more, rfl, isBlank_of_isDigit hc, ne_closing_of_isDigit hc⟩

/-- Behind an opening bracket a part that is well-formed does not start like the closing one. -/
theorem WellFormed.exists_first {part : Part} {cs : List Char} (h : WellFormed part cs) :
    ∃ gap c more, cs = gap ++ c :: more ∧ Blanks gap ∧ isBlank c = false ∧
      ∀ b : Bracket, c ≠ b.closing := by
  induction h with
  | word h =>
    simp only [List.mem_cons, List.not_mem_nil, or_false] at h
    rcases h with rfl | rfl | rfl <;>
      exact ⟨[], _, _, rfl, blanks_nil, by decide, by rintro (_ | _) <;> decide⟩
  | number h =>
    obtain ⟨c, more, rfl, hc⟩ := h.exists_first
    exact ⟨[], c, more, rfl, blanks_nil, hc⟩
  | text =>
    exact ⟨[], '\x22', _, rfl, blanks_nil, by decide, by rintro (_ | _) <;> decide⟩
  | empty b | filled b =>
    exact ⟨[], b.opening, _, rfl, blanks_nil, isBlank_opening b, opening_ne_closing b⟩
  | @item gap _ gap' hgap _ _ ih =>
    obtain ⟨gap₁, c, more, rfl, hgap₁, hc⟩ := ih
    refine ⟨gap ++ gap₁, c, more ++ gap', ?_, Blanks.append hgap hgap₁, hc⟩
    simp
  | member hgap =>
    exact ⟨_, '\x22', _, rfl, hgap, by decide, by rintro (_ | _) <;> decide⟩
  | @more _ _ cs' _ _ ih _ =>
    obtain ⟨gap, c, more, rfl, hgap, hc⟩ := ih
    refine ⟨gap, c, more ++ ',' :: cs', ?_, hgap, hc⟩
    simp

/-! ## Steps -/

section
variable {opened : List Bracket} {cs rest : List Char}

theorem skip_value (h : skipStart (skipBlanks cs) = .ok (.rest, rest)) :
    skip .value opened cs = skip .rest opened rest := by
  rw [skip]
  split <;> simp_all

theorem skip_opening {b : Bracket} (h : skipStart (skipBlanks cs) = .ok (.start b, rest)) :
    skip .value opened cs = skip (.start b) (b :: opened) rest := by
  rw [skip]
  split <;> simp_all

theorem skip_start_closing {b b' : Bracket} (h : skipBlanks cs = b.closing :: rest) :
    skip (.start b) (b' :: opened) cs = skip .rest opened rest := by
  rw [skip]
  split <;> simp_all

theorem skip_start_item {b : Bracket} {c : Char} (hc : c ≠ b.closing)
    (h : skipBlanks cs = c :: rest) :
    skip (.start b) opened cs = skip b.item opened (c :: rest) := by
  rw [skip]
  split <;> simp_all

theorem skip_key (h : skipKey (skipBlanks cs) = .ok rest) :
    skip .key opened cs = skip .value opened rest := by
  rw [skip.eq_3]
  split <;> simp_all

theorem skip_rest_comma {b : Bracket} (h : skipBlanks cs = ',' :: rest) :
    skip .rest (b :: opened) cs = skip b.item (b :: opened) rest := by
  rw [skip]
  split <;> simp_all

theorem skip_rest_closing {b : Bracket} (h : skipBlanks cs = b.closing :: rest) :
    skip .rest (b :: opened) cs = skip .rest opened rest := by
  have hcomma : b.closing ≠ ',' := by cases b <;> decide
  rw [skip]
  split <;> simp_all

theorem skip_item_blanks {gap : List Char} (hgap : Blanks gap) (b : Bracket) :
    skip b.item opened (gap ++ cs) = skip b.item opened cs := by
  cases b with
  | list => rw [Bracket.item, skip.eq_1, skip.eq_1, skipBlanks_append hgap]
  | object => rw [Bracket.item, skip.eq_3, skip.eq_3, skipBlanks_append hgap]

theorem skip_rest_blanks {gap : List Char} (hgap : Blanks gap) (b : Bracket) :
    skip .rest (b :: opened) (gap ++ cs) = skip .rest (b :: opened) cs := by
  rw [skip.eq_5, skip.eq_5, skipBlanks_append hgap]

/-- Behind an opening bracket something well-formed is skipped like an item behind a comma. -/
theorem skip_start_inside {b : Bracket} (h : WellFormed (.inside b) cs) :
    skip (.start b) opened (cs ++ rest) = skip b.item opened (cs ++ rest) := by
  obtain ⟨gap, c, more, rfl, hgap, hblank, hc⟩ := h.exists_first
  rw [List.append_assoc, List.cons_append, skip_item_blanks hgap]
  exact skip_start_item (hc b) (skipBlanks_gap hgap hblank _)

end

/-! ## Skipping -/

theorem skipStart_opening (b : Bracket) (rest : List Char) :
    skipStart (b.opening :: rest) = .ok (.start b, rest) := by cases b <;> rfl

theorem skipStart_number {cs rest : List Char} (h : Number cs) (hrest : StopsAt isNumeric rest) :
    skipStart (cs ++ rest) = .ok (.rest, rest) := by
  obtain ⟨c, more, rfl, hc⟩ := h.exists_head
  have hskip : skipNumber (c :: (more ++ rest)) = .ok rest := skipNumber_append h hrest
  rw [List.cons_append, skipStart.eq_8, if_pos hc, hskip]
  · rfl
  all_goals rintro rfl; simp at hc

theorem StopsAt.blanks {gap rest : List Char} (hgap : Blanks gap) (h : StopsAt isNumeric rest) :
    StopsAt isNumeric (gap ++ rest) := by
  cases gap with
  | nil => exact h
  | cons c gap =>
    refine stopsAt_cons ?_ _
    have hc := hgap c List.mem_cons_self
    simp only [isBlank, Bool.or_eq_true, beq_iff_eq] at hc
    rcases hc with ((rfl | rfl) | rfl) | rfl <;> decide

theorem stopsAt_closing (b : Bracket) (rest : List Char) :
    StopsAt isNumeric (b.closing :: rest) := stopsAt_cons (by cases b <;> decide) rest

def Part.expected : Part → Expected
  | .value => .value
  | .inside b => b.item

def Part.opened : Part → List Bracket → List Bracket
  | .value, opened => opened
  | .inside b, opened => b :: opened

/-- Skipping goes on behind a well-formed part, whatever is open around it. -/
theorem WellFormed.skip_append {part : Part} {cs : List Char} (h : WellFormed part cs)
    (opened : List Bracket) {rest : List Char} (hrest : StopsAt isNumeric rest) :
    skip part.expected (part.opened opened) (cs ++ rest) =
      skip .rest (part.opened opened) rest := by
  induction h generalizing opened rest with
  | word h =>
    refine skip_value ?_
    simp only [List.mem_cons, List.not_mem_nil, or_false] at h
    rcases h with rfl | rfl | rfl <;> simp [skipBlanks, isBlank, skipStart, readWord, Except.map]
  | number h =>
    refine skip_value ?_
    obtain ⟨c, more, rfl, hblank, -⟩ := h.exists_first
    rw [List.cons_append, skipBlanks_cons hblank]
    exact skipStart_number h hrest
  | text h =>
    refine skip_value ?_
    simp [skipBlanks, isBlank, skipStart, Except.map, h.skipText]
  | @empty b gap hgap =>
    have hstart : skipStart (skipBlanks (b.opening :: (gap ++ [b.closing]) ++ rest)) =
        .ok (.start b, gap ++ b.closing :: rest) := by
      rw [List.cons_append, skipBlanks_cons (isBlank_opening b), skipStart_opening]
      simp
    exact (skip_opening hstart).trans
      (skip_start_closing (skipBlanks_gap hgap (isBlank_closing b) rest))
  | @filled b cs h ih =>
    have hstart : skipStart (skipBlanks (b.opening :: (cs ++ [b.closing]) ++ rest)) =
        .ok (.start b, cs ++ b.closing :: rest) := by
      rw [List.cons_append, skipBlanks_cons (isBlank_opening b), skipStart_opening]
      simp
    refine (skip_opening hstart).trans ((skip_start_inside h).trans ?_)
    refine (ih opened (stopsAt_closing b rest)).trans ?_
    exact skip_rest_closing (skipBlanks_cons (isBlank_closing b) rest)
  | @item gap cs gap' hgap _ hgap' ih =>
    have hvalue := ih (.list :: opened) (hrest.blanks hgap')
    simp only [List.append_assoc]
    refine (skip_item_blanks hgap .list).trans (hvalue.trans ?_)
    exact skip_rest_blanks hgap' .list
  | @member gap key gap₁ gap₂ cs gap' hgap hkey hgap₁ hgap₂ _ hgap' ih =>
    have hvalue := ih (.object :: opened) (hrest.blanks hgap')
    simp only [List.append_assoc, List.cons_append]
    refine (skip_item_blanks hgap .object).trans ?_
    have hcolon : readColon (gap₁ ++ ':' :: (gap₂ ++ (cs ++ (gap' ++ rest)))) =
        .ok (gap₂ ++ (cs ++ (gap' ++ rest))) := by
      rw [readColon, skipBlanks_gap hgap₁ (by decide)]
      rfl
    have hskip : skipKey (skipBlanks ('\x22' ::
        (key ++ '\x22' :: (gap₁ ++ ':' :: (gap₂ ++ (cs ++ (gap' ++ rest))))))) =
        .ok (gap₂ ++ (cs ++ (gap' ++ rest))) := by
      rw [skipBlanks_cons (by decide), skipKey, hkey.skipText]
      exact hcolon
    refine (skip_key hskip).trans ((skip_item_blanks hgap₂ .list).trans (hvalue.trans ?_))
    exact skip_rest_blanks hgap' .object
  | @more b cs cs' _ _ ih ihMore =>
    have hcomma := ih opened (stopsAt_cons (by decide) (cs' ++ rest) : StopsAt isNumeric (',' :: _))
    simp only [List.append_assoc, List.cons_append]
    refine hcomma.trans ((skip_rest_comma (skipBlanks_cons (by decide) _)).trans ?_)
    exact ihMore opened hrest

/-- A well-formed value is skipped to its end. -/
theorem WellFormed.skipValue_append {cs : List Char} (h : WellFormed .value cs) {gap : List Char}
    (hgap : Blanks gap) {rest : List Char} (hrest : StopsAt isNumeric rest) :
    skipValue (gap ++ (cs ++ rest)) = .ok rest := by
  rw [skipValue]
  refine (skip_item_blanks hgap .list).trans ((h.skip_append [] hrest).trans ?_)
  exact skip.eq_4 rest

end PageExtract.Json
