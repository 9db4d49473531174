import PageExtract.Proofs.Rule.Grammar

/-! # Blanks around a rule

Main statement: a source is parsed as a rule exactly if it is once trimmed, and the blanks that are
cut off are separators. So trimming cuts into no token, and the blanks that only trimming knows of
spoil a rule.
-/
namespace PageExtract.Rule
open Text

theorem ne_quote_of_isBlank {c : Char} (h : isBlank c = true) : c ≠ '\x27' := by
  rintro rfl
  simp [isBlank] at h

theorem ofChar?_of_isBlank {c : Char} (h : isBlank c = true) : Kind.ofChar? c = none := by
  cases hk : Kind.ofChar? c with
  | none => rfl
  | some kind =>
    have hm := mem_marks_of_ofChar? hk
    simp only [List.mem_cons, Prod.mk.injEq, List.not_mem_nil, or_false] at hm
    rcases hm with ⟨rfl, -⟩ | ⟨rfl, -⟩ | ⟨rfl, -⟩ | ⟨rfl, -⟩ | ⟨rfl, -⟩ <;> simp [isBlank] at h

/-- A blank before a text is a separator, or spoils its tokens. -/
theorem scans_cons_iff {c : Char} (hc : isBlank c = true) {cs : List Char} {kinds : List Kind} :
    Scans (c :: cs) kinds ↔ isSeparator c = true ∧ Scans cs kinds := by
  constructor
  · intro h
    generalize he : c :: cs = all at h
    cases h with
    | finish => simp at he
    | skip hs h =>
      obtain ⟨rfl, rfl⟩ := List.cons.inj he
      exact ⟨hs, h⟩
    | mark hk _ =>
      obtain ⟨rfl, rfl⟩ := List.cons.inj he
      simp [ofChar?_of_isBlank hc] at hk
    | @quoted q _ _ _ _ _ =>
      have hhead : (c :: cs).head? = some '\x27' := by
        rw [he, List.head?_append, q.head?_written]
        rfl
      exact absurd (Option.some.inj hhead) (ne_quote_of_isBlank hc)
  · rintro ⟨hs, h⟩
    exact .skip hs h

/-- A blank behind a text is a separator, or spoils its tokens: it cannot end a quoted text. -/
theorem scans_concat_iff {c : Char} (hc : isBlank c = true) {cs : List Char} {kinds : List Kind} :
    Scans (cs ++ [c]) kinds ↔ isSeparator c = true ∧ Scans cs kinds := by
  constructor
  · intro h
    generalize he : cs ++ [c] = all at h
    induction h generalizing cs with
    | finish => simp at he
    | @skip d ds kinds hs h ih =>
      cases cs with
      | nil =>
        obtain ⟨rfl, rfl⟩ := List.cons.inj he
        exact ⟨hs, h⟩
      | cons e es =>
        obtain ⟨rfl, htail⟩ := List.cons.inj he
        obtain ⟨hsep, hscan⟩ := ih htail
        exact ⟨hsep, .skip hs hscan⟩
    | @mark d ds kind kinds hk h ih =>
      cases cs with
      | nil =>
        obtain ⟨rfl, -⟩ := List.cons.inj he
        simp [ofChar?_of_isBlank hc] at hk
      | cons e es =>
        obtain ⟨rfl, htail⟩ := List.cons.inj he
        obtain ⟨hsep, hscan⟩ := ih htail
        exact ⟨hsep, .mark hk hscan⟩
    | @quoted q ds kinds hq seam h ih =>
      rcases List.eq_nil_or_concat' ds with rfl | ⟨es, e, rfl⟩
      · have hlast : (cs ++ [c]).getLast? = some '\x27' := by
          rw [he, List.append_nil, q.getLast?_written]
        exact absurd (by simpa using hlast) (ne_quote_of_isBlank hc)
      · rw [← List.append_assoc] at he
        obtain ⟨rfl, htail⟩ := List.append_inj' he rfl
        obtain rfl := (List.cons.inj htail).1
        obtain ⟨hsep, hscan⟩ := ih rfl
        -- what stands behind an empty text starts with no quote, with the blank cut off or not
        refine ⟨hsep, .quoted hq (fun hempty => ?_) hscan⟩
        have hhead := seam hempty
        cases es with
        | nil => simp
        | cons e es => simpa using hhead
  · rintro ⟨hs, h⟩
    induction h with
    | finish => exact .skip hs .finish
    | skip hd _ ih => exact .skip hd ih
    | mark hk _ ih => exact .mark hk ih
    | @quoted q ds kinds hq seam _ ih =>
      rw [List.append_assoc]
      refine .quoted hq (fun hempty => ?_) ih
      cases ds with
      | nil => simpa using ne_quote_of_isBlank hc
      | cons e es => simpa using seam hempty

theorem scans_leading_iff {lead : List Char} (hl : ∀ c ∈ lead, isBlank c = true) {cs : List Char}
    {kinds : List Kind} :
    Scans (lead ++ cs) kinds ↔ (∀ c ∈ lead, isSeparator c = true) ∧ Scans cs kinds := by
  induction lead with
  | nil => simp
  | cons c lead ih =>
    rw [List.cons_append, scans_cons_iff (hl c (by simp)), ih fun d hd => hl d (by simp [hd])]
    simp [and_assoc]

theorem scans_trailing_iff {trail : List Char} (ht : ∀ c ∈ trail, isBlank c = true)
    {cs : List Char} {kinds : List Kind} :
    Scans (cs ++ trail) kinds ↔ (∀ c ∈ trail, isSeparator c = true) ∧ Scans cs kinds := by
  induction trail generalizing cs with
  | nil => simp
  | cons c trail ih =>
    rw [List.append_cons, ih fun d hd => ht d (by simp [hd]), scans_concat_iff (ht c (by simp))]
    simp [and_assoc, and_left_comm]

theorem scans_trim_iff {source : String} {kinds : List Kind} :
    Scans source.toList kinds ↔
      (∀ c ∈ margins source, isSeparator c = true) ∧ Scans (trim source).toList kinds := by
  have hsplit := leading_append_trimChars_append_trailing source.toList
  rw [toList_trim]
  conv_lhs => rw [← hsplit]
  rw [scans_leading_iff fun c => isBlank_of_mem_leading,
    scans_trailing_iff fun c => isBlank_of_mem_trailing, margins]
  simp only [List.mem_append, or_imp, forall_and, and_assoc]

/-- Trimming keeps the rule that a source is parsed as; it makes sources parse whose margins hold
other blanks than separators. -/
theorem parse_eq_ok_iff_trim {source : String} {rule : Rule} :
    parse source = .ok rule ↔
      (∀ c ∈ margins source, isSeparator c = true) ∧ parse (trim source) = .ok rule := by
  rw [parse_eq_ok_iff_scans, parse_eq_ok_iff_scans]
  constructor
  · rintro ⟨kinds, hs, hd⟩
    obtain ⟨hm, hs⟩ := scans_trim_iff.1 hs
    exact ⟨hm, kinds, hs, hd⟩
  · rintro ⟨hm, kinds, hs, hd⟩
    exact ⟨kinds, scans_trim_iff.2 ⟨hm, hs⟩, hd⟩

end PageExtract.Rule
