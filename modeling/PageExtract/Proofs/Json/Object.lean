import Mathlib.Data.List.Nodup
import PageExtract.Proofs.Json.WellFormed

/-! # Objects in any layout

The members of an object come in any order and with any blanks, and some have names that nobody
knows. What a reader of records needs of a value is its content: a text, nothing, or neither. Main
statement: a record is read from an object exactly if no known name occurs twice and each known name
has a content that it may have; the record then holds the known names with their texts.
-/
namespace PageExtract.Json

/-! ## Contents -/

inductive Content where
  | text (s : String)
  | null
  | other
  deriving DecidableEq

def Content.text? : Content → Option String
  | text s => some s
  | null | other => none

/-- The content of a well-formed value. One whose escapes stand for no characters is no text. -/
inductive Holds : List Char → Content → Prop
  | text {body : List Char} {s : String} (h : Spells body s.toList) :
      Holds ('\x22' :: (body ++ ['\x22'])) (.text s)
  | null : Holds ['n', 'u', 'l', 'l'] .null
  | other {cs : List Char} (h : WellFormed .value cs) (hnull : cs ≠ ['n', 'u', 'l', 'l'])
      (htext : ∀ body text, cs = '\x22' :: (body ++ ['\x22']) → ¬ Spells body text) :
      Holds cs .other

theorem Holds.wellFormed {cs : List Char} {content : Content} (h : Holds cs content) :
    WellFormed .value cs := by
  cases h with
  | text h => exact .text h.escaped
  | null => exact .word (by simp)
  | other h _ _ => exact h

/-- Whatever stands as a value holds something. -/
theorem WellFormed.exists_holds {cs : List Char} (h : WellFormed .value cs) :
    ∃ content, Holds cs content := by
  by_cases hnull : cs = ['n', 'u', 'l', 'l']
  · exact ⟨.null, hnull ▸ .null⟩
  · by_cases htext : ∃ body text, cs = '\x22' :: (body ++ ['\x22']) ∧ Spells body text
    · obtain ⟨body, text, rfl, hs⟩ := htext
      exact ⟨.text (String.ofList text), .text (by simpa using hs)⟩
    · exact ⟨.other, .other h hnull fun body text hcs hs => htext ⟨body, text, hcs, hs⟩⟩

/-! ## Reading a value -/

def Slot.accepts (slot : Slot) : Content → Bool
  | .text _ => true
  | .null => slot.nullable
  | .other => false

theorem readString_of_ne {gap : List Char} (hgap : Blanks gap) {c : Char}
    (hblank : isBlank c = false) (hc : c ≠ '\x22') (cs : List Char) :
    ∃ fault, readString (gap ++ c :: cs) = .error fault := by
  refine ⟨otherValue (c :: cs), ?_⟩
  rw [readString, skipBlanks_gap hgap hblank]
  split
  · simp_all
  · rfl

theorem readNullable_of_ne {gap : List Char} (hgap : Blanks gap) {c : Char}
    (hblank : isBlank c = false) (hc : c ≠ 'n') (cs : List Char) :
    readNullable (gap ++ c :: cs) =
      (readString (c :: cs)).map fun (text, rest) => (some text, rest) := by
  rw [readNullable, skipBlanks_gap hgap hblank]
  split
  · simp_all
  · rfl

/-- A value that is not null starts with its quote if it is a text, and otherwise like neither. -/
theorem WellFormed.first_of_ne_null {cs : List Char} (h : WellFormed .value cs)
    (hnull : cs ≠ ['n', 'u', 'l', 'l']) :
    ∃ c more, cs = c :: more ∧ isBlank c = false ∧ c ≠ 'n' ∧
      (c = '\x22' → ∃ body, more = body ++ ['\x22'] ∧ Escaped body) := by
  cases h with
  | word h =>
    simp only [List.mem_cons, List.not_mem_nil, or_false] at h
    rcases h with rfl | rfl | rfl
    · exact absurd rfl hnull
    · exact ⟨'t', _, rfl, by decide, by decide, fun hc => absurd hc (by decide)⟩
    · exact ⟨'f', _, rfl, by decide, by decide, fun hc => absurd hc (by decide)⟩
  | number h =>
    obtain ⟨c, more, rfl, hblank, -⟩ := h.exists_first
    obtain ⟨_, _, hcs, hc⟩ := h.exists_head
    obtain ⟨rfl, -⟩ := List.cons.inj hcs
    refine ⟨c, more, rfl, hblank, ?_, ?_⟩
    · rintro rfl
      simp at hc
    · rintro rfl
      simp at hc
  | @text body h => exact ⟨'\x22', _, rfl, by decide, by decide, fun _ => ⟨body, rfl, h⟩⟩
  | empty b | filled b =>
    refine ⟨b.opening, _, rfl, isBlank_opening b, ?_, ?_⟩
    · cases b <;> decide
    · cases b <;> intro hb <;> cases hb

theorem readString_other {cs : List Char} (h : Holds cs .other) {gap : List Char}
    (hgap : Blanks gap) (rest : List Char) :
    ∃ fault, readString (gap ++ (cs ++ rest)) = .error fault := by
  cases h with
  | other h hnull htext =>
    obtain ⟨c, more, rfl, hblank, -, hquote⟩ := h.first_of_ne_null hnull
    by_cases hc : c = '\x22'
    · subst hc
      obtain ⟨body, rfl, hbody⟩ := hquote rfl
      have hsplit : gap ++ ('\x22' :: (body ++ ['\x22']) ++ rest) =
          gap ++ '\x22' :: (body ++ '\x22' :: rest) := by simp
      rw [hsplit, readString, skipBlanks_gap hgap (by decide)]
      cases hr : readText (body ++ '\x22' :: rest) with
      | error fault => exact ⟨fault, by simp [hr, Except.map]⟩
      | ok p => exact absurd (hbody.spells_of_readText hr).1 (htext body p.1 rfl)
    · exact readString_of_ne hgap hblank hc _

theorem readNullable_other {cs : List Char} (h : Holds cs .other) {gap : List Char}
    (hgap : Blanks gap) (rest : List Char) :
    ∃ fault, readNullable (gap ++ (cs ++ rest)) = .error fault := by
  obtain ⟨fault, hfault⟩ := readString_other h blanks_nil rest
  cases h with
  | other h hnull _ =>
    obtain ⟨c, more, rfl, hblank, hc, -⟩ := h.first_of_ne_null hnull
    rw [List.nil_append, List.cons_append] at hfault
    rw [List.cons_append, readNullable_of_ne hgap hblank hc, hfault]
    exact ⟨fault, rfl⟩

section
variable {α β : Type} {r : Except Fault α}

theorem toOption_eq_none_iff : r.toOption = none ↔ ∃ fault, r = .error fault := by
  cases r <;> simp [Except.toOption]

theorem toOption_eq_some_iff {a : α} : r.toOption = some a ↔ r = .ok a := by
  cases r <;> simp [Except.toOption]

theorem toOption_map (f : α → β) : (r.map f).toOption = r.toOption.map f := by
  cases r <;> rfl

end

/-- A slot is read from a value exactly if it accepts what the value holds. -/
theorem toOption_read {cs : List Char} {content : Content} (h : Holds cs content) (slot : Slot)
    {gap : List Char} (hgap : Blanks gap) (rest : List Char) :
    (slot.read (gap ++ (cs ++ rest))).toOption =
      if slot.accepts content then some (content.text?, rest) else none := by
  cases content with
  | text s =>
    cases h with
    | @text body _ hs =>
      have hsplit : gap ++ ('\x22' :: (body ++ ['\x22']) ++ rest) =
          gap ++ '\x22' :: (body ++ '\x22' :: rest) := by simp
      rw [hsplit, Slot.read, readString_spells hgap hs, readNullable_spells hgap hs]
      split <;> rfl
  | null =>
    cases h with
    | null =>
      rw [Slot.read]
      split
      · rename_i hn
        have hr : readNullable (gap ++ (['n', 'u', 'l', 'l'] ++ rest)) = .ok (none, rest) := by
          simpa using readNullable_null hgap rest
        rw [hr]
        simp [Slot.accepts, hn, Except.toOption, Content.text?]
      · rename_i hn
        have hblank : isBlank 'n' = false := by decide
        obtain ⟨fault, hfault⟩ :=
          readString_of_ne hgap hblank (by decide) (['u', 'l', 'l'] ++ rest)
        simp_all [Slot.accepts, Except.toOption, Except.map]
  | other =>
    obtain ⟨fault, hfault⟩ := readString_other h hgap rest
    obtain ⟨fault', hfault'⟩ := readNullable_other h hgap rest
    rw [Slot.read, hfault, hfault']
    split <;> rfl

/-! ## Members -/

/-- A member from behind the quote that opens its key, with the text that the key spells. -/
inductive Member : List Char → String × Content → Prop
  | parts {key gap gap' value : List Char} {name : String} {content : Content}
      (hkey : Spells key name.toList) (hgap : Blanks gap) (hgap' : Blanks gap')
      (hvalue : Holds value content) :
      Member (key ++ '\x22' :: (gap ++ ':' :: (gap' ++ value))) (name, content)

inductive Members : List Char → List (String × Content) → Prop
  | last {member gap : List Char} {m : String × Content} (h : Member member m)
      (hgap : Blanks gap) : Members (member ++ gap) [m]
  | more {member gap gap' members : List Char} {m : String × Content}
      {ms : List (String × Content)} (h : Member member m) (hgap : Blanks gap)
      (hgap' : Blanks gap') (hmore : Members members ms) :
      Members (member ++ (gap ++ ',' :: (gap' ++ '\x22' :: members))) (m :: ms)

/-- A text that holds one object and nothing else. -/
inductive ObjectText : List Char → List (String × Content) → Prop
  | empty {before gap behind : List Char} (hbefore : Blanks before) (hgap : Blanks gap)
      (hbehind : Blanks behind) : ObjectText (before ++ '{' :: (gap ++ '}' :: behind)) []
  | filled {before gap members behind : List Char} {ms : List (String × Content)}
      (hbefore : Blanks before) (hgap : Blanks gap) (h : Members members ms)
      (hbehind : Blanks behind) :
      ObjectText (before ++ '{' :: (gap ++ '\x22' :: (members ++ '}' :: behind))) ms

def Shape.knows (shape : Shape) (name : String) : Bool :=
  (shape.slots.find? (·.name = name)).isSome

def Shape.accepts (shape : Shape) (m : String × Content) : Bool :=
  (shape.slots.find? (·.name = m.1)).all (·.accepts m.2)

def Shape.entries (shape : Shape) (ms : List (String × Content)) : Record :=
  (ms.filter (shape.knows ·.1)).map fun m => (m.1, m.2.text?)

def Shape.add? (shape : Shape) (before : Record) (m : String × Content) : Option Record :=
  if shape.knows m.1 && before.any (·.1 = m.1) then none
  else if shape.accepts m then some (before ++ shape.entries [m])
  else none

theorem toOption_readMember {shape : Shape} {member : List Char} {m : String × Content}
    (h : Member member m) (before : Record) {rest : List Char} (hrest : StopsAt isNumeric rest) :
    (readMember shape before (member ++ rest)).toOption =
      (shape.add? before m).map fun after => (after, rest) := by
  obtain ⟨hkey, hgap, hgap', hvalue⟩ := h
  rename_i key gap gap' value name content
  have hsplit : key ++ '\x22' :: (gap ++ ':' :: (gap' ++ value)) ++ rest =
      key ++ '\x22' :: (gap ++ ':' :: (gap' ++ (value ++ rest))) := by simp
  have hcolon : readColon (gap ++ ':' :: (gap' ++ (value ++ rest))) =
      .ok (gap' ++ (value ++ rest)) := by
    rw [readColon, skipBlanks_gap hgap (by decide)]
    rfl
  rw [hsplit, readMember, hkey.readText]
  simp only [String.ofList_toList]
  cases hslot : shape.slots.find? (·.name = name) with
  | none =>
    simp [hcolon, hvalue.wellFormed.skipValue_append hgap' hrest, Except.map, Except.toOption,
      Shape.add?, Shape.knows, Shape.accepts, Shape.entries, hslot]
  | some slot =>
    obtain rfl : slot.name = name := by simpa using List.find?_some hslot
    by_cases hthere : before.any (·.1 = slot.name)
    · simp [hthere, Except.toOption, Shape.add?, Shape.knows, hslot]
    · simp only [if_neg hthere, hcolon]
      rw [toOption_map, toOption_read hvalue slot hgap' rest]
      cases hcontent : slot.accepts content <;>
        simp [hthere, hcontent, Shape.add?, Shape.knows, Shape.accepts, Shape.entries, hslot]

section
variable {shape : Shape} {member : List Char} {m : String × Content} {before after : Record}

theorem readMember_of_add? (h : Member member m) (hadd : shape.add? before m = some after)
    {rest : List Char} (hrest : StopsAt isNumeric rest) :
    readMember shape before (member ++ rest) = .ok (after, rest) := by
  refine toOption_eq_some_iff.1 ?_
  rw [toOption_readMember h before hrest, hadd, Option.map_some]

theorem readMember_of_refused (h : Member member m) (hadd : shape.add? before m = none)
    {rest : List Char} (hrest : StopsAt isNumeric rest) :
    ∃ fault, readMember shape before (member ++ rest) = .error fault := by
  refine toOption_eq_none_iff.1 ?_
  rw [toOption_readMember h before hrest, hadd, Option.map_none]

end

/-- The members of an object are added one by one, up to its closing bracket. -/
theorem toOption_readMembers {shape : Shape} {members : List Char} {ms : List (String × Content)}
    (h : Members members ms) (before : Record) (rest : List Char) :
    (readMembers shape before (members ++ '}' :: rest)).toOption =
      (ms.foldlM shape.add? before).map fun after => (after, rest) := by
  induction h generalizing before with
  | @last member gap m h hgap =>
    have hend : StopsAt isNumeric (gap ++ '}' :: rest) := (stopsAt_closing .object rest).blanks hgap
    rw [List.append_assoc, List.foldlM_cons]
    cases hadd : shape.add? before m with
    | none =>
      obtain ⟨fault, hfault⟩ := readMember_of_refused h hadd hend
      rw [readMembers_of_error hfault]
      rfl
    | some after =>
      rw [readMembers_of_last (readMember_of_add? h hadd hend) hgap]
      rfl
  | @more member gap gap' members m ms h hgap hgap' _ ih =>
    have hend : StopsAt isNumeric (gap ++ ',' :: (gap' ++ '\x22' :: (members ++ '}' :: rest))) :=
      StopsAt.blanks hgap (stopsAt_cons (by decide) _)
    have hsplit : member ++ (gap ++ ',' :: (gap' ++ '\x22' :: members)) ++ '}' :: rest =
        member ++ (gap ++ ',' :: (gap' ++ '\x22' :: (members ++ '}' :: rest))) := by simp
    rw [hsplit, List.foldlM_cons]
    cases hadd : shape.add? before m with
    | none =>
      obtain ⟨fault, hfault⟩ := readMember_of_refused h hadd hend
      rw [readMembers_of_error hfault]
      rfl
    | some middle =>
      rw [readMembers_of_more (readMember_of_add? h hadd hend) hgap hgap', ih middle]
      rfl

theorem toOption_finish_map {α : Type} {r : Reply α} {a : Option α} {behind : List Char}
    (hbehind : Blanks behind) (h : r.toOption = a.map fun value => (value, behind)) :
    (finish r).toOption = a := by
  cases a with
  | none =>
    obtain ⟨fault, rfl⟩ := toOption_eq_none_iff.1 h
    rfl
  | some value =>
    obtain rfl := toOption_eq_some_iff.1 h
    simp [finish, skipBlanks_of_blanks hbehind, Except.toOption]

theorem toOption_readRecord {shape : Shape} {cs : List Char} {ms : List (String × Content)}
    (h : ObjectText cs ms) : (readRecord shape cs).toOption = ms.foldlM shape.add? [] := by
  cases h with
  | empty hbefore hgap hbehind =>
    rw [readRecord, skipBlanks_gap hbefore (by decide)]
    refine toOption_finish_map hbehind ?_
    simp only [readObject]
    rw [skipBlanks_gap hgap (by decide)]
    rfl
  | filled hbefore hgap h hbehind =>
    rw [readRecord, skipBlanks_gap hbefore (by decide)]
    refine toOption_finish_map hbehind ?_
    simp only [readObject]
    rw [skipBlanks_gap hgap (by decide)]
    exact toOption_readMembers h [] _

/-! ## What the members add -/

/-- The members that a record can be read from. -/
structure Shape.Admits (shape : Shape) (ms : List (String × Content)) : Prop where
  once : ((ms.map (·.1)).filter shape.knows).Nodup
  accepts : ∀ m ∈ ms, shape.accepts m = true

section
variable {shape : Shape} {m : String × Content} {ms : List (String × Content)}

theorem entries_cons (m : String × Content) (ms : List (String × Content)) :
    shape.entries (m :: ms) = shape.entries [m] ++ shape.entries ms := by
  simp [Shape.entries, List.filter_cons]
  split <;> simp

theorem map_fst_entries : (shape.entries ms).map (·.1) = (ms.map (·.1)).filter shape.knows := by
  simp [Shape.entries, List.filter_map, Function.comp_def]

theorem nodup_append_entries_iff {before : Record} (h : (before.map (·.1)).Nodup) :
    ((before ++ shape.entries [m]).map (·.1)).Nodup ↔
      ¬ (shape.knows m.1 && before.any (·.1 = m.1)) = true := by
  rw [List.map_append, map_fst_entries, List.nodup_append']
  by_cases hknows : shape.knows m.1 = true <;> simp [hknows, h]

theorem foldlM_add?_eq_some_iff {before after : Record} (h : (before.map (·.1)).Nodup) :
    ms.foldlM shape.add? before = some after ↔
      ((before ++ shape.entries ms).map (·.1)).Nodup ∧ (∀ m ∈ ms, shape.accepts m = true) ∧
        before ++ shape.entries ms = after := by
  induction ms generalizing before with
  | nil => simp [Shape.entries, h]
  | cons m ms ih =>
    have hsplit : before ++ shape.entries (m :: ms) =
        before ++ shape.entries [m] ++ shape.entries ms := by
      rw [entries_cons, List.append_assoc]
    have hstep : ((before ++ shape.entries [m]).map (·.1)).Nodup ↔
        ¬ (shape.knows m.1 && before.any (·.1 = m.1)) = true := nodup_append_entries_iff h
    rw [List.foldlM_cons, hsplit, Shape.add?]
    split
    · rename_i hthere
      have hdouble : ¬ ((before ++ shape.entries [m] ++ shape.entries ms).map (·.1)).Nodup := by
        intro hnodup
        rw [List.map_append, List.nodup_append] at hnodup
        exact hstep.1 hnodup.1 hthere
      exact iff_of_false nofun fun hall => hdouble hall.1
    · rename_i hthere
      split
      · rename_i haccepts
        simp [ih (hstep.2 hthere), haccepts]
      · rename_i haccepts
        simp [haccepts]

/-- A record is read from an object exactly if its members can be taken together, and it then holds
those with known names. -/
theorem readRecord_eq_ok_iff {cs : List Char} (h : ObjectText cs ms) {r : Record} :
    readRecord shape cs = .ok r ↔ shape.Admits ms ∧ r = shape.entries ms := by
  rw [← toOption_eq_some_iff, toOption_readRecord h, foldlM_add?_eq_some_iff (by simp),
    List.nil_append, map_fst_entries]
  constructor
  · rintro ⟨hnodup, haccepts, rfl⟩
    exact ⟨⟨hnodup, haccepts⟩, rfl⟩
  · rintro ⟨⟨hnodup, haccepts⟩, rfl⟩
    exact ⟨hnodup, haccepts, rfl⟩

theorem lookup_entries {name : String} (hknows : shape.knows name = true) :
    (shape.entries ms).lookup name = (ms.lookup name).map Content.text? := by
  induction ms with
  | nil => rfl
  | cons m ms ih =>
    obtain ⟨key, content⟩ := m
    rw [entries_cons, List.lookup_append, ih, List.lookup_cons]
    by_cases hkey : name = key
    · subst hkey
      simp [Shape.entries, hknows]
    · have hother : (shape.entries [(key, content)]).lookup name = none := by
        simp only [Shape.entries, List.filter_cons, List.filter_nil]
        split <;> simp [List.lookup_cons, beq_false_of_ne hkey]
      rw [hother, beq_false_of_ne hkey, Option.none_or]

end

end PageExtract.Json
