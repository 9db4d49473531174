import Mathlib.Data.List.DropRight
import PageExtract.Text.Blank

/-! # Margins of a text

A text is its leading blanks, what trimming leaves, and its trailing blanks. For a text of blanks
all of it is leading, so no blank counts twice.
-/
namespace PageExtract.Text

def leading (cs : List Char) : List Char := cs.takeWhile isBlank

def trailing (cs : List Char) : List Char := (cs.dropWhile isBlank).rtakeWhile isBlank

def margins (s : String) : List Char := leading s.toList ++ trailing s.toList

theorem trimChars_eq_rdropWhile (cs : List Char) :
    trimChars cs = (cs.dropWhile isBlank).rdropWhile isBlank := rfl

theorem leading_append_trimChars_append_trailing (cs : List Char) :
    leading cs ++ (trimChars cs ++ trailing cs) = cs := by
  rw [trimChars_eq_rdropWhile, trailing, List.rdropWhile_append_rtakeWhile, leading,
    List.takeWhile_append_dropWhile]

theorem isBlank_of_mem_leading {c : Char} {cs : List Char} (h : c ∈ leading cs) :
    isBlank c = true :=
  List.mem_takeWhile_imp h

theorem isBlank_of_mem_trailing {c : Char} {cs : List Char} (h : c ∈ trailing cs) :
    isBlank c = true :=
  List.mem_rtakeWhile_imp h

@[simp] theorem toList_trim (s : String) : (trim s).toList = trimChars s.toList :=
  String.toList_ofList

theorem mem_of_mem_trim {c : Char} {s : String} (h : c ∈ (trim s).toList) : c ∈ s.toList := by
  rw [toList_trim] at h
  rw [← leading_append_trimChars_append_trailing s.toList]
  simp [h]

theorem trimChars_eq_nil_iff {cs : List Char} : trimChars cs = [] ↔ cs.all isBlank = true := by
  rw [trimChars_eq_rdropWhile, List.rdropWhile_eq_nil_iff, List.all_eq_true]
  constructor
  · intro h c hc
    rw [← List.takeWhile_append_dropWhile (p := isBlank) (l := cs)] at hc
    rcases List.mem_append.1 hc with hc | hc
    · exact List.mem_takeWhile_imp hc
    · exact h c hc
  · intro h c hc
    exact h c (List.dropWhile_subset isBlank hc)

theorem trim_eq_empty_iff {s : String} : trim s = "" ↔ isBlankText s = true := by
  rw [← String.toList_eq_nil_iff, toList_trim, trimChars_eq_nil_iff]
  rfl

theorem trim?_eq (s : String) : trim? s = if trim s = "" then none else some (trim s) := by
  simp only [trim?, trim_eq_empty_iff]

theorem trim?_of_ne {s : String} (h : trim s ≠ "") : trim? s = some (trim s) := by
  rw [trim?_eq, if_neg h]

theorem trim?_eq_some_iff {s t : String} : trim? s = some t ↔ trim s ≠ "" ∧ trim s = t := by
  by_cases h : trim s = "" <;> simp [trim?_eq, h]

/-- A text that neither starts nor ends with a blank is left as it is. -/
theorem trimChars_eq_self {cs : List Char} (hhead : ∀ c, cs.head? = some c → isBlank c = false)
    (hlast : ∀ c, cs.getLast? = some c → isBlank c = false) : trimChars cs = cs := by
  have hd : cs.dropWhile isBlank = cs := by
    cases cs with
    | nil => rfl
    | cons c cs => rw [List.dropWhile_cons_of_neg (by simp [hhead c rfl])]
  rw [trimChars_eq_rdropWhile, hd, List.rdropWhile_eq_self_iff]
  intro hne
  simp [hlast _ (List.getLast?_eq_some_getLast hne)]

theorem head?_trimChars {cs : List Char} {c : Char} (h : (trimChars cs).head? = some c) :
    isBlank c = false := by
  rw [trimChars_eq_rdropWhile] at h
  have hd : (cs.dropWhile isBlank).head? = some c := by
    obtain ⟨more, hm⟩ := List.head?_eq_some_iff.1 h
    obtain ⟨cut, hc⟩ := List.rdropWhile_prefix isBlank (cs.dropWhile isBlank)
    rw [← hc, hm]
    rfl
  have hnot := List.head?_dropWhile_not isBlank cs
  rw [hd] at hnot
  simpa using hnot

theorem getLast?_trimChars {cs : List Char} {c : Char} (h : (trimChars cs).getLast? = some c) :
    isBlank c = false := by
  rw [trimChars_eq_rdropWhile] at h
  have hne : (cs.dropWhile isBlank).rdropWhile isBlank ≠ [] := by
    intro he
    simp [he] at h
  have hnot := List.rdropWhile_last_not isBlank _ hne
  rw [List.getLast?_eq_some_getLast hne] at h
  rw [← Option.some.inj h]
  simpa using hnot

@[simp] theorem trim_trim (s : String) : trim (trim s) = trim s := by
  rw [trim, toList_trim, trimChars_eq_self (fun _ => head?_trimChars) (fun _ => getLast?_trimChars)]
  rfl

/-! ## Clean texts -/

/-- A text that trimming leaves as it is, and that is not empty. -/
structure Clean (s : String) : Prop where
  ne_empty : s ≠ ""
  trim_eq : trim s = s

theorem clean_of_trim? {raw s : String} (h : trim? raw = some s) : Clean s := by
  obtain ⟨hne, rfl⟩ := trim?_eq_some_iff.1 h
  exact ⟨hne, trim_trim raw⟩

/-- A text is clean if it neither starts nor ends with a blank. -/
theorem clean_iff {s : String} :
    Clean s ↔ s ≠ "" ∧ (∀ c, s.toList.head? = some c → isBlank c = false) ∧
      ∀ c, s.toList.getLast? = some c → isBlank c = false := by
  constructor
  · rintro ⟨hne, htrim⟩
    have hchars : trimChars s.toList = s.toList := by rw [← toList_trim, htrim]
    refine ⟨hne, ?_, ?_⟩
    · intro c hc
      rw [← hchars] at hc
      exact head?_trimChars hc
    · intro c hc
      rw [← hchars] at hc
      exact getLast?_trimChars hc
  · rintro ⟨hne, hhead, hlast⟩
    refine ⟨hne, ?_⟩
    rw [trim, trimChars_eq_self hhead hlast, String.ofList_toList]

/-- What stands between two clean texts is not at an end. -/
theorem Clean.append {s t : String} (hs : Clean s) (ht : Clean t) (between : String) :
    Clean (s ++ between ++ t) := by
  obtain ⟨hsne, hhead, -⟩ := clean_iff.1 hs
  obtain ⟨htne, -, hlast⟩ := clean_iff.1 ht
  have hs' : s.toList ≠ [] := mt String.toList_eq_nil_iff.1 hsne
  have ht' : t.toList ≠ [] := mt String.toList_eq_nil_iff.1 htne
  have hchars : (s ++ between ++ t).toList = s.toList ++ (between.toList ++ t.toList) := by
    simp [String.toList_append]
  refine clean_iff.2 ⟨?_, ?_, ?_⟩
  · intro he
    simp [← String.toList_eq_nil_iff, hchars, hs'] at he
  · intro c hc
    rw [hchars, List.head?_append_of_ne_nil _ hs'] at hc
    exact hhead c hc
  · intro c hc
    rw [hchars, ← List.append_assoc, List.getLast?_append_of_ne_nil _ ht'] at hc
    exact hlast c hc

end PageExtract.Text
