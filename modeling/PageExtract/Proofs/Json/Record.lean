import PageExtract.Json.Record
import PageExtract.Proofs.Json.Quoted

/-! # Flat records are read back

An object is read member by member, and each member that is read is added to those before it. Main
statement: a record that fits a shape is read back from what is written for it, on one line or on
several.
-/
namespace PageExtract.Json

/-! ## Blanks -/

def Blanks (cs : List Char) : Prop := ∀ c ∈ cs, isBlank c

theorem blanks_nil : Blanks [] := nofun

theorem Blanks.append {gap gap' : List Char} (h : Blanks gap) (h' : Blanks gap') :
    Blanks (gap ++ gap') := by
  intro c hc
  exact (List.mem_append.1 hc).elim (h c) (h' c)

theorem skipBlanks_append {blanks : List Char} (h : Blanks blanks) (cs : List Char) :
    skipBlanks (blanks ++ cs) = skipBlanks cs := List.dropWhile_append_of_pos h

theorem skipBlanks_cons {c : Char} (h : isBlank c = false) (cs : List Char) :
    skipBlanks (c :: cs) = c :: cs := by
  simp [skipBlanks, h]

theorem skipBlanks_gap {blanks : List Char} (hb : Blanks blanks) {c : Char} (hc : isBlank c = false)
    (cs : List Char) : skipBlanks (blanks ++ c :: cs) = c :: cs := by
  rw [skipBlanks_append hb, skipBlanks_cons hc]

theorem skipBlanks_of_blanks {blanks : List Char} (h : Blanks blanks) : skipBlanks blanks = [] := by
  simpa [skipBlanks] using skipBlanks_append h []

/-! ## Objects -/

section
variable {shape : Shape} {before middle after : Record} {cs gap gap' rest : List Char}

theorem readMembers_of_error {fault : Fault} (h : readMember shape before cs = .error fault) :
    readMembers shape before cs = .error fault := by
  rw [readMembers]
  split <;> simp_all

theorem readMembers_of_last (h : readMember shape before cs = .ok (after, gap ++ '}' :: rest))
    (hgap : Blanks gap) : readMembers shape before cs = .ok (after, rest) := by
  rw [readMembers]
  split
  · simp_all
  · rename_i hr
    obtain ⟨rfl, rfl⟩ := Prod.mk.inj (Except.ok.inj (h.symm.trans hr))
    rw [skipBlanks_gap hgap (by decide)]
    rfl

theorem readMembers_of_more
    (h : readMember shape before cs = .ok (middle, gap ++ ',' :: (gap' ++ '\x22' :: rest)))
    (hgap : Blanks gap) (hgap' : Blanks gap') :
    readMembers shape before cs = readMembers shape middle rest := by
  rw [readMembers]
  split
  · simp_all
  · rename_i hr
    obtain ⟨rfl, rfl⟩ := Prod.mk.inj (Except.ok.inj (h.symm.trans hr))
    rw [skipBlanks_gap hgap (by decide)]
    simp only
    rw [skipBlanks_gap hgap' (by decide)]
    rfl

end

/-- A member, from behind the quote that opens its key, is read as an addition to the members before
it. -/
def Adds (shape : Shape) (member : List Char) (before after : Record) : Prop :=
  ∀ rest, readMember shape before (member ++ rest) = .ok (after, rest)

inductive AddsAll (shape : Shape) : List Char → Record → Record → Prop
  | last {member gap : List Char} {before after : Record} (h : Adds shape member before after)
      (hgap : Blanks gap) : AddsAll shape (member ++ gap) before after
  | more {member gap gap' members : List Char} {before middle after : Record}
      (h : Adds shape member before middle) (hgap : Blanks gap) (hgap' : Blanks gap')
      (hmore : AddsAll shape members middle after) :
      AddsAll shape (member ++ gap ++ ',' :: gap' ++ '\x22' :: members) before after

theorem AddsAll.readMembers {shape : Shape} {members : List Char} {before after : Record}
    (h : AddsAll shape members before after) (rest : List Char) :
    readMembers shape before (members ++ '}' :: rest) = .ok (after, rest) := by
  induction h with
  | @last member gap before after h hgap =>
    rw [List.append_assoc]
    exact readMembers_of_last (h _) hgap
  | @more member gap gap' members before middle after h hgap hgap' _ ih =>
    have hsplit : member ++ gap ++ ',' :: gap' ++ '\x22' :: members ++ '}' :: rest =
        member ++ (gap ++ ',' :: (gap' ++ '\x22' :: (members ++ '}' :: rest))) := by simp
    rw [hsplit, readMembers_of_more (h _) hgap hgap']
    exact ih

/-- An object alone in its text, with gaps around it. -/
theorem AddsAll.readRecord {shape : Shape} {members : List Char} {record : Record}
    (h : AddsAll shape members [] record) {before gap behind : List Char} (hbefore : Blanks before)
    (hgap : Blanks gap) (hbehind : Blanks behind) :
    readRecord shape (before ++ '{' :: (gap ++ '\x22' :: (members ++ '}' :: behind))) =
      .ok record := by
  have hobject : readObject shape (gap ++ '\x22' :: (members ++ '}' :: behind)) =
      .ok (record, behind) := by
    rw [readObject, skipBlanks_gap hgap (by decide)]
    exact h.readMembers behind
  rw [Json.readRecord, skipBlanks_gap hbefore (by decide)]
  simp only [hobject, finish, skipBlanks_of_blanks hbehind, if_true]

/-! ## What is written -/

/-- The names of a record are known to the shape, none occurs twice, and one that asks for a text
has one. -/
structure Record.Fits (r : Record) (shape : Shape) : Prop where
  nodup : (r.map (·.1)).Nodup
  known : ∀ m ∈ r, ∃ slot, shape.slots.find? (·.name = m.1) = some slot ∧
    (slot.nullable = true ∨ m.2 ≠ none)

theorem Record.Fits.of_append {r more : Record} {shape : Shape} (h : (r ++ more).Fits shape) :
    r.Fits shape := by
  refine ⟨?_, fun m hm => h.known m (List.mem_append_left more hm)⟩
  have hnodup := h.nodup
  rw [List.map_append] at hnodup
  exact (List.nodup_append.1 hnodup).1

theorem toList_quote (s : String) :
    (quote s).toList = '\x22' :: (s.toList.flatMap escape ++ ['\x22']) := by
  simp [quote, quoteChars]

/-- A quoted text behind a gap. -/
theorem gap_quote (gap : List Char) (s : String) (rest : List Char) :
    gap ++ (quote s).toList ++ rest =
      gap ++ '\x22' :: (s.toList.flatMap escape ++ '\x22' :: rest) := by
  simp [toList_quote]

theorem readString_spells {gap body : List Char} (hgap : Blanks gap) {s : String}
    (h : Spells body s.toList) (rest : List Char) :
    readString (gap ++ '\x22' :: (body ++ '\x22' :: rest)) = .ok (s, rest) := by
  rw [readString, skipBlanks_gap hgap (by decide)]
  simp [h.readText, Except.map]

theorem readNullable_spells {gap body : List Char} (hgap : Blanks gap) {s : String}
    (h : Spells body s.toList) (rest : List Char) :
    readNullable (gap ++ '\x22' :: (body ++ '\x22' :: rest)) = .ok (some s, rest) := by
  have hs := readString_spells blanks_nil h rest
  rw [List.nil_append] at hs
  rw [readNullable, skipBlanks_gap hgap (by decide)]
  simp [hs, Except.map]

theorem readString_quote {gap : List Char} (hgap : Blanks gap) (s : String) (rest : List Char) :
    readString (gap ++ (quote s).toList ++ rest) = .ok (s, rest) := by
  rw [gap_quote]
  exact readString_spells hgap (spells_escapes s.toList) rest

theorem readNullable_quote {gap : List Char} (hgap : Blanks gap) (s : String) (rest : List Char) :
    readNullable (gap ++ (quote s).toList ++ rest) = .ok (some s, rest) := by
  rw [gap_quote]
  exact readNullable_spells hgap (spells_escapes s.toList) rest

theorem readNullable_null {gap : List Char} (hgap : Blanks gap) (rest : List Char) :
    readNullable (gap ++ "null".toList ++ rest) = .ok (none, rest) := by
  have hsplit : gap ++ "null".toList ++ rest = gap ++ 'n' :: 'u' :: 'l' :: 'l' :: rest := by simp
  rw [hsplit, readNullable, skipBlanks_gap hgap (by decide)]
  simp [readWord, Except.map]

theorem read_writeText? {slot : Slot} {value : Option String}
    (hv : slot.nullable = true ∨ value ≠ none) {gap : List Char} (hgap : Blanks gap)
    (rest : List Char) :
    slot.read (gap ++ (writeText? value).toList ++ rest) = .ok (value, rest) := by
  rw [Slot.read]
  split
  · cases value with
    | none => exact readNullable_null hgap rest
    | some s => exact readNullable_quote hgap s rest
  · rename_i hn
    obtain ⟨s, rfl⟩ := Option.ne_none_iff_exists'.1 (hv.resolve_left hn)
    rw [writeText?, readString_quote hgap s rest]
    rfl

def memberChars (gap : List Char) (m : String × Option String) : List Char :=
  m.1.toList.flatMap escape ++ '\x22' :: ':' :: (gap ++ (writeText? m.2).toList)

theorem toList_writeMember {colon : String} {gap : List Char} (h : colon.toList = ':' :: gap)
    (m : String × Option String) :
    (writeMember colon m).toList = '\x22' :: memberChars gap m := by
  simp [writeMember, toList_quote, memberChars, h]

theorem adds_memberChars {shape : Shape} {before : Record} {m : String × Option String}
    (h : (before ++ [m]).Fits shape) {gap : List Char} (hgap : Blanks gap) :
    Adds shape (memberChars gap m) before (before ++ [m]) := by
  intro rest
  obtain ⟨slot, hslot, hv⟩ := h.known m (by simp)
  have hname : slot.name = m.1 := by simpa using List.find?_some hslot
  have hnew : ¬ before.any (·.1 = m.1) := by
    have hnodup := h.nodup
    rw [List.map_append, List.nodup_append] at hnodup
    simp only [List.any_eq_true, decide_eq_true_eq, not_exists, not_and]
    intro m' hm'
    exact hnodup.2.2 _ (List.mem_map_of_mem hm') _ (by simp)
  have hsplit : memberChars gap m ++ rest =
      m.1.toList.flatMap escape ++ '\x22' :: ':' :: (gap ++ (writeText? m.2).toList ++ rest) := by
    simp [memberChars]
  have hcolon : readColon (':' :: (gap ++ (writeText? m.2).toList ++ rest)) =
      .ok (gap ++ (writeText? m.2).toList ++ rest) := by
    rw [readColon, skipBlanks_cons (by decide)]
    rfl
  rw [hsplit, readMember, readText_escapes]
  simp only [String.ofList_toList, hslot, hname, if_neg hnew, hcolon, read_writeText? hv hgap]
  rfl

/-- The members of a record with the same separator between any two of them. -/
theorem addsAll_members {shape : Shape} {separator colon : String} {gap gap' : List Char}
    (hseparator : separator.toList = ',' :: gap) (hcolon : colon.toList = ':' :: gap')
    (hgap : Blanks gap) (hgap' : Blanks gap') {behind : List Char} (hbehind : Blanks behind)
    (before : Record) (m : String × Option String) (more : Record)
    (h : (before ++ m :: more).Fits shape) :
    ∃ members,
      (String.intercalate separator ((m :: more).map (writeMember colon))).toList =
        '\x22' :: members ∧
      AddsAll shape (members ++ behind) before (before ++ m :: more) := by
  induction more generalizing before m with
  | nil =>
    refine ⟨memberChars gap' m, ?_, .last (adds_memberChars h hgap') hbehind⟩
    simp [toList_writeMember hcolon]
  | cons next more ih =>
    have hmore : ((before ++ [m]) ++ next :: more).Fits shape := by simpa using h
    have hm : (before ++ [m]).Fits shape := hmore.of_append
    obtain ⟨members, hmembers, hadds⟩ := ih (before ++ [m]) next hmore
    refine ⟨memberChars gap' m ++ ',' :: gap ++ '\x22' :: members, ?_, ?_⟩
    · rw [List.map_cons, String.intercalate_cons_of_ne_nil (by simp), String.toList_append,
        String.toList_append, hmembers, toList_writeMember hcolon, hseparator]
      simp
    · have hall := AddsAll.more (adds_memberChars hm hgap') blanks_nil hgap hadds
      simpa using hall

theorem readRecord_empty (shape : Shape) {behind : List Char} (hbehind : Blanks behind) :
    readRecord shape ('{' :: '}' :: behind) = .ok [] := by
  rw [readRecord, skipBlanks_cons (by decide)]
  simp only [readObject, skipBlanks_cons (by decide : isBlank '}' = false), finish,
    skipBlanks_of_blanks hbehind, if_true]

theorem readRecord_compact {shape : Shape} {r : Record} (h : r.Fits shape) (behind : String)
    (hbehind : Blanks behind.toList) : readRecord shape (r.compact ++ behind).toList = .ok r := by
  cases r with
  | nil => simpa [Record.compact] using readRecord_empty shape hbehind
  | cons m more =>
    have hseparator : ",".toList = [','] := rfl
    have hcolon : ":".toList = [':'] := rfl
    obtain ⟨members, hmembers, hadds⟩ :=
      addsAll_members hseparator hcolon blanks_nil blanks_nil blanks_nil [] m more h
    have hr := hadds.readRecord blanks_nil blanks_nil hbehind
    simp only [Record.compact, String.toList_append, hmembers]
    simpa using hr

theorem readRecord_pretty {shape : Shape} {r : Record} (h : r.Fits shape) (behind : String)
    (hbehind : Blanks behind.toList) : readRecord shape (r.pretty ++ behind).toList = .ok r := by
  cases r with
  | nil => simpa [Record.pretty] using readRecord_empty shape hbehind
  | cons m more =>
    have hindent : Blanks ['\n', ' ', ' '] := by simp [Blanks, isBlank]
    have hspace : Blanks [' '] := by simp [Blanks, isBlank]
    have hfeed : Blanks ['\n'] := by simp [Blanks, isBlank]
    have hseparator : ",\n  ".toList = [',', '\n', ' ', ' '] := rfl
    have hcolon : ": ".toList = [':', ' '] := rfl
    obtain ⟨members, hmembers, hadds⟩ :=
      addsAll_members hseparator hcolon hindent hspace hfeed [] m more h
    have hr := hadds.readRecord blanks_nil hindent hbehind
    rw [Record.pretty, if_neg (by simp)]
    simp only [String.toList_append, hmembers]
    simpa using hr

end PageExtract.Json
