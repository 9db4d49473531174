import PageExtract.DomainRules.Json
import PageExtract.Proofs.Json.Object

/-! # Rules are decoded from any object

Main statement: which rules an object decodes to depends on the contents of its known members alone,
not on their order, the blanks between them or what stands under other names. What goes against the
known names is refused.
-/
namespace PageExtract.DomainRules
open Json

def names : List String := ["domain", "title", "content", "thumbnail"]

/-- Each known name has at most one member, the domain is a text, and a rule is a text or null. -/
structure Readable (ms : List (String × Content)) : Prop where
  once : ∀ name ∈ names, (ms.map (·.1)).count name ≤ 1
  domain : ∀ content, ("domain", content) ∈ ms → ∃ s, content = .text s
  rules : ∀ (field : Field) content, (field.name, content) ∈ ms →
    content = .null ∨ ∃ s, content = .text s

theorem shape_knows_iff {name : String} : shape.knows name = true ↔ name ∈ names := by
  have hnames : names = shape.slots.map (·.name) := rfl
  rw [hnames, Shape.knows, List.find?_isSome, List.mem_map]
  simp only [decide_eq_true_eq]

theorem once_iff {ms : List (String × Content)} :
    ((ms.map (·.1)).filter shape.knows).Nodup ↔
      ∀ name ∈ names, (ms.map (·.1)).count name ≤ 1 := by
  rw [List.nodup_iff_count_le_one]
  constructor
  · intro h name hname
    have hcount := h name
    rwa [List.count_filter (shape_knows_iff.2 hname)] at hcount
  · intro h name
    by_cases hname : shape.knows name = true
    · rw [List.count_filter hname]
      exact h name (shape_knows_iff.1 hname)
    · rw [List.count_eq_zero.2 (by simp [hname])]
      exact Nat.zero_le 1

theorem shape_accepts_domain_iff {content : Content} :
    shape.accepts ("domain", content) = true ↔ ∃ s, content = .text s := by
  cases content <;> simp [Shape.accepts, shape, Slot.accepts]

theorem shape_accepts_rule_iff {field : Field} {content : Content} :
    shape.accepts (field.name, content) = true ↔ content = .null ∨ ∃ s, content = .text s := by
  cases field <;> cases content <;> simp [Shape.accepts, shape, Slot.accepts, Field.name]

theorem names_cases {name : String} (h : name ∈ names) :
    name = "domain" ∨ ∃ field : Field, name = field.name := by
  simp only [names, List.mem_cons, List.not_mem_nil, or_false] at h
  rcases h with rfl | rfl | rfl | rfl
  · exact .inl rfl
  · exact .inr ⟨.title, rfl⟩
  · exact .inr ⟨.content, rfl⟩
  · exact .inr ⟨.thumbnail, rfl⟩

theorem field_name_mem_names (field : Field) : field.name ∈ names := by cases field <;> decide

theorem admits_iff {ms : List (String × Content)} : shape.Admits ms ↔ Readable ms := by
  constructor
  · rintro ⟨honce, haccepts⟩
    refine ⟨once_iff.1 honce, ?_, ?_⟩
    · intro content hm
      exact shape_accepts_domain_iff.1 (haccepts _ hm)
    · intro field content hm
      exact shape_accepts_rule_iff.1 (haccepts _ hm)
  · rintro ⟨honce, hdomain, hrules⟩
    refine ⟨once_iff.2 honce, ?_⟩
    rintro ⟨name, content⟩ hm
    by_cases hname : shape.knows name = true
    · rcases names_cases (shape_knows_iff.1 hname) with rfl | ⟨field, rfl⟩
      · exact shape_accepts_domain_iff.2 (hdomain content hm)
      · exact shape_accepts_rule_iff.2 (hrules field content hm)
    · rw [Shape.knows, Bool.not_eq_true, Option.isSome_eq_false_iff, Option.isNone_iff_eq_none]
        at hname
      rw [Shape.accepts, hname]
      rfl

/-- The contents of an object decide whether it is decoded, and as what. -/
theorem ofJson_eq_ok_iff {text : String} {ms : List (String × Content)}
    (h : ObjectText text.toList ms) {d : DomainRules} :
    ofJson text = .ok d ↔ Readable ms ∧ d = ofRecord (shape.entries ms) := by
  rw [ofJson]
  cases hr : readRecord shape text.toList with
  | ok r =>
    obtain ⟨hadmits, rfl⟩ := (readRecord_eq_ok_iff h).1 hr
    simp [Except.map, admits_iff.1 hadmits, eq_comm]
  | error fault =>
    have hnot : ¬ Readable ms := by
      intro hreadable
      have hok := (readRecord_eq_ok_iff h).2 ⟨admits_iff.2 hreadable, rfl⟩
      simp [hr] at hok
    simp [Except.map, hnot]

theorem refused_of_not_readable {text : String} {ms : List (String × Content)}
    (h : ObjectText text.toList ms) (hms : ¬ Readable ms) :
    ∃ fault, ofJson text = .error fault := by
  cases hd : ofJson text with
  | ok d => exact absurd ((ofJson_eq_ok_iff h).1 hd).1 hms
  | error fault => exact ⟨fault, rfl⟩

theorem lookup_eq_some_iff {name : String} {content : Content} {ms : List (String × Content)}
    (h : (ms.map (·.1)).count name ≤ 1) :
    ms.lookup name = some content ↔ (name, content) ∈ ms := by
  induction ms with
  | nil => simp
  | cons m ms ih =>
    obtain ⟨key, held⟩ := m
    rw [List.map_cons, List.count_cons] at h
    rw [List.lookup_cons, List.mem_cons, Prod.mk.injEq]
    by_cases hkey : name = key
    · subst hkey
      have hnone : (ms.map (·.1)).count name = 0 := by simpa using h
      have hlater : (name, content) ∉ ms := by
        intro hm
        exact List.count_eq_zero.1 hnone (List.mem_map_of_mem hm)
      simp [hlater, eq_comm]
    · have hcount : (ms.map (·.1)).count name ≤ 1 := by omega
      simp [beq_false_of_ne hkey, hkey, ih hcount]

theorem text?_eq_some_iff {content : Content} {s : String} :
    content.text? = some s ↔ content = .text s := by
  cases content <;> simp [Content.text?]

section
variable {ms : List (String × Content)} (h : Readable ms)
include h

theorem join_lookup_entries {name : String} (hname : name ∈ names) {s : String} :
    ((shape.entries ms).lookup name).join = some s ↔ (name, .text s) ∈ ms := by
  rw [lookup_entries (shape_knows_iff.2 hname), ← lookup_eq_some_iff (h.once name hname)]
  cases ms.lookup name <;> simp [text?_eq_some_iff]

theorem rule_ofRecord_entries {field : Field} {s : String} :
    (ofRecord (shape.entries ms)).rule field = some s ↔ (field.name, .text s) ∈ ms := by
  rw [← join_lookup_entries h (field_name_mem_names field)]
  cases field <;> rfl

theorem domain_ofRecord_entries :
    ("domain", .text (ofRecord (shape.entries ms)).domain) ∈ ms ∨
      (ofRecord (shape.entries ms)).domain = "" ∧ ∀ content, ("domain", content) ∉ ms := by
  have hdomain : (ofRecord (shape.entries ms)).domain =
      ((shape.entries ms).lookup "domain").join.getD "" := rfl
  cases htext : ((shape.entries ms).lookup "domain").join with
  | some s =>
    rw [hdomain, htext]
    exact .inl ((join_lookup_entries h (by decide)).1 htext)
  | none =>
    refine .inr ⟨by rw [hdomain, htext]; rfl, ?_⟩
    intro content hm
    obtain ⟨s, rfl⟩ := h.domain content hm
    have hs := (join_lookup_entries h (by decide)).2 hm
    simp [htext] at hs

end

/-- An object whose known members can be rules is decoded to the rules that they give, and one with
a known name twice, without a text for its domain or with another value under a known name is
refused. -/
theorem ofJson_object {text : String} {ms : List (String × Content)}
    (h : ObjectText text.toList ms) :
    (Readable ms → ∃ d, ofJson text = .ok d ∧
        (("domain", .text d.domain) ∈ ms ∨
          d.domain = "" ∧ ∀ content, ("domain", content) ∉ ms) ∧
        ∀ (field : Field) s, d.rule field = some s ↔ (field.name, .text s) ∈ ms) ∧
    (∀ name ∈ names, 1 < (ms.map (·.1)).count name → ∃ fault, ofJson text = .error fault) ∧
    (("domain", .null) ∈ ms → ∃ fault, ofJson text = .error fault) ∧
    ∀ name ∈ names, (name, .other) ∈ ms → ∃ fault, ofJson text = .error fault := by
  refine ⟨?_, ?_, ?_, ?_⟩
  · intro hms
    refine ⟨_, (ofJson_eq_ok_iff h).2 ⟨hms, rfl⟩, domain_ofRecord_entries hms, ?_⟩
    intro field s
    exact rule_ofRecord_entries hms
  · intro name hname hcount
    exact refused_of_not_readable h fun hms => Nat.not_le.2 hcount (hms.once name hname)
  · intro hm
    refine refused_of_not_readable h fun hms => ?_
    obtain ⟨s, hs⟩ := hms.domain _ hm
    cases hs
  · intro name hname hm
    refine refused_of_not_readable h fun hms => ?_
    rcases names_cases hname with rfl | ⟨field, rfl⟩
    · obtain ⟨s, hs⟩ := hms.domain _ hm
      cases hs
    · rcases hms.rules field _ hm with hs | ⟨s, hs⟩ <;> cases hs

/-- A title behind a list that is skipped, with brackets and quotes in its texts and an escape that
stands for no character. -/
def scattered (first : String) : String :=
  "\t\x7b" ++ first ++ "\"x\\u007d\" : [\x7b\"]\\\"\": -0.5e+3\x7d, [ ],\"\\ud800\"],\n" ++
    "\"t\\u0069tle\":\"D'h1'#\" ,\"content\":null\x7d "

def scatteredMembers : List (String × Content) :=
  [("x\x7d", .other), ("title", .text "D'h1'#"), ("content", .null)]

theorem blanks_singleton {c : Char} (h : isBlank c = true) : Blanks [c] := by
  simpa [Blanks] using h

theorem number_scattered : Number ['-', '0', '.', '5', 'e', '+', '3'] := by
  have hdigit : ∀ d : Char, d.isDigit = true → Digits [d] := by
    intro d hd
    exact ⟨by simp, by simpa using hd⟩
  have h : Number (['-'] ++ (['0'] ++ (['.', '5'] ++ ['e', '+', '3']))) :=
    .parts (.inr rfl) ⟨hdigit '0' (by decide), fun _ => rfl⟩ (.digits (hdigit '5' (by decide)))
      (.digits (.inl rfl) (.inr (.inl rfl)) (hdigit '3' (by decide)))
  exact h

theorem holds_scattered : Holds "[\x7b\"]\\\"\": -0.5e+3\x7d, [ ],\"\\ud800\"]".toList .other := by
  have hspace : Blanks [' '] := blanks_singleton (by decide)
  have hkey : Escaped [']', '\\', '\x22'] :=
    .plain (by decide) (by decide) (by decide) (.short (by decide) .done)
  have hlone : Escaped ['\\', 'u', 'd', '8', '0', '0'] := .unit (by decide) .done
  have hobject := WellFormed.filled .object
    (.member blanks_nil hkey blanks_nil hspace (.number number_scattered) blanks_nil)
  have hlist := WellFormed.filled .list (.more (.item blanks_nil hobject blanks_nil)
    (.more (.item hspace (.empty .list hspace) blanks_nil)
      (.item blanks_nil (.text hlone) blanks_nil)))
  refine .other (by simpa [Bracket.opening, Bracket.closing] using hlist) (by simp) ?_
  intro body text hcs
  simp at hcs

theorem members_scattered : ∃ members, Members members scatteredMembers ∧
    ∀ first, (scattered first).toList =
      ['\t'] ++ '{' :: (first.toList ++ '\x22' :: (members ++ '}' :: [' '])) := by
  have hspace : Blanks [' '] := blanks_singleton (by decide)
  have hfeed : Blanks ['\n'] := blanks_singleton (by decide)
  have hx : Stands ['x'] 'x' := .plain (by decide) (by decide) (by decide)
  have hbrace : Stands ['\\', 'u', '0', '0', '7', 'd'] '}' :=
    .unit (n := 0x7d) (by decide) (by decide) (by decide)
  have ht : Stands ['t'] 't' := .plain (by decide) (by decide) (by decide)
  have hi : Stands ['\\', 'u', '0', '0', '6', '9'] 'i' :=
    .unit (n := 0x69) (by decide) (by decide) (by decide)
  have hfirst : Member _ ("x\x7d", .other) :=
    .parts (.more hx (.more hbrace .done)) hspace hspace holds_scattered
  have htitle : Member _ ("title", .text "D'h1'#") :=
    .parts (.more ht (.more hi (spells_escapes ['t', 'l', 'e']))) blanks_nil blanks_nil
      (.text (spells_escapes "D'h1'#".toList))
  have hcontent : Member _ ("content", .null) :=
    .parts (spells_escapes "content".toList) blanks_nil blanks_nil .null
  refine ⟨_, .more hfirst blanks_nil hfeed (.more htitle hspace blanks_nil
    (.last hcontent blanks_nil)), ?_⟩
  intro first
  simp [scattered, escape]

theorem objectText_scattered : ObjectText (scattered "").toList scatteredMembers := by
  obtain ⟨members, h, hchars⟩ := members_scattered
  rw [hchars]
  exact .filled (blanks_singleton (by decide)) blanks_nil h (blanks_singleton (by decide))

/-- The same text with one more member in front. -/
theorem objectText_scattered_cons (first : String) {member : List Char} {m : String × Content}
    (h : Member member m) (hfirst : first.toList = '\x22' :: (member ++ [','])) :
    ObjectText (scattered first).toList (m :: scatteredMembers) := by
  obtain ⟨members, hmembers, hchars⟩ := members_scattered
  have hall := Members.more h blanks_nil blanks_nil hmembers
  have htext := ObjectText.filled (blanks_singleton (by decide : isBlank '\t' = true)) blanks_nil
    hall (blanks_singleton (by decide : isBlank ' ' = true))
  rw [hchars, hfirst]
  simpa using htext

theorem ofJson_object_scattered :
    ofJson (scattered "") = .ok ⟨"", some "D'h1'#", none, none⟩ ∧
    (∃ fault, ofJson (scattered "\"title\":\"\",") = .error fault) ∧
    (∃ fault, ofJson (scattered "\"domain\":null,") = .error fault) ∧
    ∃ fault, ofJson (scattered "\"thumbnail\":[],") = .error fault := by
  have hlist : Holds "[]".toList .other :=
    .other (.empty .list blanks_nil) (by simp) (by simp)
  have htwice := objectText_scattered_cons "\"title\":\"\","
    (.parts (spells_escapes "title".toList) blanks_nil blanks_nil (.text (s := "") .done))
    (by simp [escape])
  have hnull := objectText_scattered_cons "\"domain\":null,"
    (.parts (spells_escapes "domain".toList) blanks_nil blanks_nil .null) (by simp [escape])
  have hother := objectText_scattered_cons "\"thumbnail\":[],"
    (.parts (spells_escapes "thumbnail".toList) blanks_nil blanks_nil hlist) (by simp [escape])
  refine ⟨?_, ?_, ?_, ?_⟩
  · have hreadable : Readable scatteredMembers := by
      refine ⟨by decide, by simp [scatteredMembers], ?_⟩
      rintro (_ | _ | _) content hm <;> simp_all [scatteredMembers, Field.name]
    obtain ⟨d, hd, hdomain, hrules⟩ := (ofJson_object objectText_scattered).1 hreadable
    have hempty : d.domain = "" := by simpa [scatteredMembers] using hdomain
    have htitle : d.title = some "D'h1'#" :=
      (hrules .title _).2 (by simp [scatteredMembers, Field.name])
    have hcontent : d.content = none := by
      refine Option.eq_none_iff_forall_ne_some.2 fun s hs => ?_
      simpa [scatteredMembers, Field.name] using (hrules .content s).1 hs
    have hthumbnail : d.thumbnail = none := by
      refine Option.eq_none_iff_forall_ne_some.2 fun s hs => ?_
      simpa [scatteredMembers, Field.name] using (hrules .thumbnail s).1 hs
    have hfields : d = ⟨"", some "D'h1'#", none, none⟩ := by
      cases d
      simp_all
    rw [hd, hfields]
  · exact (ofJson_object htwice).2.1 "title" (by decide) (by decide)
  · exact (ofJson_object hnull).2.2.1 (by simp)
  · exact (ofJson_object hother).2.2.2 "thumbnail" (by decide) (by simp)

end PageExtract.DomainRules
