import PageExtract.Proofs.Rule.Grammar

/-! # Well-formed rules

The rules that can be written: alternatives nest to the right, every chain fits its selection, and
every text can stand between its marks. Main statement: they are what the grammar derives from
tokens of a source.
-/
namespace PageExtract.Rule

def Op.Reads (name : String → Prop) : Op → Prop
  | .text => True
  | .attr n => name n
  | .each _ _ => False

/-- A single selection is read by one operation that ends the chain. A list selection is mapped by
one `>`, whose chain fits what it is applied to. -/
inductive Selection.Fits (selector : Quoted → Prop) (name : String → Prop) : Selection → Prop
  | single {text : String} {op : Op} (hq : selector ⟨.single, text⟩) (hop : op.Reads name) :
      Fits selector name ⟨⟨.single, text⟩, [op]⟩
  | nested {text : String} {s : Selection} (hq : selector ⟨.triple, text⟩)
      (h : Fits selector name s) :
      Fits selector name ⟨⟨.triple, text⟩, [.each (some s.selector) s.ops]⟩
  | items {text : String} {op : Op} (hq : selector ⟨.triple, text⟩) (hop : op.Reads name) :
      Fits selector name ⟨⟨.triple, text⟩, [.each none [op]]⟩

def Quoted.IsSelector (q : Quoted) : Prop := Text.trim q.text ≠ "" ∧ q.Writable

def IsName (name : String) : Prop := name ≠ "" ∧ Text.trim name = name ∧ '\x27' ∉ name.toList

def Selection.WellFormed : Selection → Prop := Selection.Fits Quoted.IsSelector IsName

inductive WellFormed : Rule → Prop
  | term {s : Selection} (h : s.WellFormed) : WellFormed (select s)
  | chain {s : Selection} {second : Rule} (h : s.WellFormed) (hmore : WellFormed second) :
      WellFormed (orElse (select s) second)

def Selection.WellShaped : Selection → Prop := Selection.Fits (fun _ => True) fun _ => True

theorem Op.Reads.mono {name name' : String → Prop} (h : ∀ n, name n → name' n) {op : Op}
    (hop : op.Reads name) : op.Reads name' := by
  cases op with
  | text => trivial
  | attr n => exact h n hop
  | each => exact hop

theorem Selection.Fits.mono {selector selector' : Quoted → Prop} {name name' : String → Prop}
    (hq : ∀ q, selector q → selector' q) (hn : ∀ n, name n → name' n) {s : Selection}
    (h : s.Fits selector name) : s.Fits selector' name' := by
  induction h with
  | single hs hop => exact .single (hq _ hs) (hop.mono hn)
  | nested hs _ ih => exact .nested (hq _ hs) ih
  | items hs hop => exact .items (hq _ hs) (hop.mono hn)

theorem Selection.WellFormed.wellShaped {s : Selection} (h : s.WellFormed) : s.WellShaped :=
  Selection.Fits.mono (fun _ _ => trivial) (fun _ _ => trivial) h

theorem WellFormed.of_mem {rule : Rule} (h : rule.WellFormed) {s : Selection}
    (hs : s ∈ rule.alternatives) : s.WellFormed := by
  induction h with
  | term h => simpa [List.mem_singleton.1 hs] using h
  | chain h _ ih =>
    rcases List.mem_cons.1 hs with rfl | hs
    · exact h
    · exact ih hs

/-! ## Selectors and readers

What is written in a selection, from left to right, whatever its shape.
-/

mutual

def Op.selectors : Op → List Quoted
  | .text => []
  | .attr _ => []
  | .each none ops => Op.selectorsAll ops
  | .each (some sub) ops => sub :: Op.selectorsAll ops

def Op.selectorsAll : List Op → List Quoted
  | [] => []
  | op :: ops => op.selectors ++ Op.selectorsAll ops

end

mutual

def Op.readers : Op → List Op
  | .text => [.text]
  | .attr name => [.attr name]
  | .each _ ops => Op.readersAll ops

def Op.readersAll : List Op → List Op
  | [] => []
  | op :: ops => op.readers ++ Op.readersAll ops

end

def Selection.selectors (s : Selection) : List Quoted := s.selector :: Op.selectorsAll s.ops

def Selection.readers (s : Selection) : List Op := Op.readersAll s.ops

section
variable {name : String → Prop} {op : Op} (h : op.Reads name)
include h

theorem Selection.selectors_single (q : Quoted) : Selection.selectors ⟨q, [op]⟩ = [q] := by
  cases op with
  | each => exact h.elim
  | _ => rfl

theorem Selection.readers_single (q : Quoted) : Selection.readers ⟨q, [op]⟩ = [op] := by
  cases op with
  | each => exact h.elim
  | _ => rfl

theorem Selection.selectors_items (q : Quoted) :
    Selection.selectors ⟨q, [.each none [op]]⟩ = [q] := by
  cases op with
  | each => exact h.elim
  | _ => rfl

theorem Selection.readers_items (q : Quoted) :
    Selection.readers ⟨q, [.each none [op]]⟩ = [op] := by
  cases op with
  | each => exact h.elim
  | _ => rfl

end

theorem Selection.selectors_nested (q : Quoted) (s : Selection) :
    Selection.selectors ⟨q, [.each (some s.selector) s.ops]⟩ = q :: s.selectors := by
  simp [Selection.selectors, Op.selectorsAll, Op.selectors]

theorem Selection.readers_nested (q : Quoted) (s : Selection) :
    Selection.readers ⟨q, [.each (some s.selector) s.ops]⟩ = s.readers := by
  simp [Selection.readers, Op.readersAll, Op.readers]

/-- A chain fits if its shape does and so does all that is written in it. -/
theorem Selection.fits_iff {selector : Quoted → Prop} {name : String → Prop} {s : Selection} :
    s.Fits selector name ↔
      s.WellShaped ∧ (∀ q ∈ s.selectors, selector q) ∧ ∀ op ∈ s.readers, op.Reads name := by
  constructor
  · intro h
    refine ⟨Selection.Fits.mono (fun _ _ => trivial) (fun _ _ => trivial) h, ?_⟩
    induction h with
    | single hq hop =>
      rw [selectors_single hop, readers_single hop]
      exact ⟨List.forall_mem_singleton.2 hq, List.forall_mem_singleton.2 hop⟩
    | nested hq _ ih =>
      rw [selectors_nested, readers_nested]
      exact ⟨List.forall_mem_cons.2 ⟨hq, ih.1⟩, ih.2⟩
    | items hq hop =>
      rw [selectors_items hop, readers_items hop]
      exact ⟨List.forall_mem_singleton.2 hq, List.forall_mem_singleton.2 hop⟩
  · rintro ⟨hs, hselectors, hreaders⟩
    induction hs with
    | single _ hop =>
      rw [selectors_single hop] at hselectors
      rw [readers_single hop] at hreaders
      exact .single (hselectors _ (by simp)) (hreaders _ (by simp))
    | nested _ _ ih =>
      rw [selectors_nested] at hselectors
      rw [readers_nested] at hreaders
      obtain ⟨hq, hrest⟩ := List.forall_mem_cons.1 hselectors
      exact .nested hq (ih hrest hreaders)
    | items _ hop =>
      rw [selectors_items hop] at hselectors
      rw [readers_items hop] at hreaders
      exact .items (hselectors _ (by simp)) (hreaders _ (by simp))

/-- What stands before a `?` is a single selection. -/
def RightNested : Rule → Prop
  | select _ => True
  | orElse first second => (∃ s, first = select s) ∧ second.RightNested

theorem wellFormed_iff {rule : Rule} :
    rule.WellFormed ↔ rule.RightNested ∧ ∀ s ∈ rule.alternatives, s.WellFormed := by
  constructor
  · intro h
    refine ⟨?_, fun s => h.of_mem⟩
    induction h with
    | term => trivial
    | @chain s second _ _ ih => exact ⟨⟨s, rfl⟩, ih⟩
  · rintro ⟨hnest, hs⟩
    induction rule with
    | select s => exact .term (hs s (by simp))
    | orElse first second _ ih =>
      obtain ⟨⟨s, rfl⟩, hsecond⟩ := hnest
      rw [alternatives_orElse, List.forall_mem_append] at hs
      exact .chain (hs.1 s (by simp)) (ih hsecond hs.2)

/-! ## From tokens to well-formed rules -/

theorem isName_trim {written : String} (h : Text.trim written ≠ "")
    (hw : (Quoted.mk .single written).Writable) : IsName (Text.trim written) := by
  refine ⟨h, Text.trim_trim written, ?_⟩
  intro hc
  exact hw (Text.mem_of_mem_trim hc)

theorem reads_of_terminal {kinds : List Kind} {op : Op} (h : Terminal kinds op)
    (hw : ∀ kind ∈ kinds, kind.Writable) : op.Reads IsName := by
  cases h with
  | text => trivial
  | @attr written hname => exact isName_trim hname (hw (.quoted ⟨.single, written⟩) (by simp))

theorem wellFormed_of_reading {kinds : List Kind} {s : Selection} (h : Reading kinds s)
    (hw : ∀ kind ∈ kinds, kind.Writable) : s.WellFormed := by
  induction h with
  | single hq ht =>
    obtain ⟨hself, hread⟩ := List.forall_mem_cons.1 hw
    exact .single ⟨hq, hself⟩ (reads_of_terminal ht hread)
  | nested hq _ ih =>
    obtain ⟨hself, hmap⟩ := List.forall_mem_cons.1 hw
    obtain ⟨-, hread⟩ := List.forall_mem_cons.1 hmap
    exact .nested ⟨hq, hself⟩ (ih hread)
  | items hq ht =>
    obtain ⟨hself, hmap⟩ := List.forall_mem_cons.1 hw
    obtain ⟨-, hread⟩ := List.forall_mem_cons.1 hmap
    exact .items ⟨hq, hself⟩ (reads_of_terminal ht hread)

theorem wellFormed_of_derives {kinds : List Kind} {rule : Rule} (h : Derives kinds rule)
    (hw : ∀ kind ∈ kinds, kind.Writable) : rule.WellFormed := by
  induction h with
  | term h =>
    obtain ⟨-, hread⟩ := List.forall_mem_cons.1 hw
    exact .term (wellFormed_of_reading h hread)
  | chain h _ ih =>
    obtain ⟨-, hall⟩ := List.forall_mem_cons.1 hw
    obtain ⟨hfirst, htail⟩ := List.forall_mem_append.1 hall
    obtain ⟨-, hsecond⟩ := List.forall_mem_cons.1 htail
    exact .chain (wellFormed_of_reading h hfirst) (ih hsecond)

/-- Whatever is parsed is well-formed. -/
theorem wellFormed_of_parse {source : String} {rule : Rule} (h : parse source = .ok rule) :
    rule.WellFormed := by
  obtain ⟨kinds, hs, hd⟩ := parse_eq_ok_iff_scans.1 h
  obtain ⟨hw, -⟩ := List.forall_mem_append.1 hs.writable
  exact wellFormed_of_derives hd hw

/-! ## From well-formed rules to tokens -/

theorem terminal_of_reads {op : Op} (h : op.Reads IsName) : Terminal (Op.kindsAll [op]) op := by
  cases op with
  | text => simpa [Op.kindsAll, Op.kinds] using Terminal.text
  | attr n =>
    obtain ⟨hne, htrim, -⟩ := h
    have ht : Terminal [.atSign, .quoted ⟨.single, n⟩] (.attr (Text.trim n)) :=
      .attr (by rw [htrim]; exact hne)
    rw [htrim] at ht
    simpa [Op.kindsAll, Op.kinds] using ht
  | each => exact h.elim

theorem reading_of_wellFormed {s : Selection} (h : s.WellFormed) :
    Reading (.quoted s.selector :: Op.kindsAll s.ops) s := by
  induction h with
  | single hq hop => exact .single hq.1 (terminal_of_reads hop)
  | nested hq _ ih => exact .nested hq.1 (by simpa [Op.kinds, Op.kindsAll] using ih)
  | @items text op hq hop =>
    have hr := Reading.items hq.1 (terminal_of_reads hop)
    simpa [Op.kinds, Op.kindsAll] using hr

theorem derives_of_wellFormed {rule : Rule} (h : rule.WellFormed) : Derives rule.kinds rule := by
  induction h with
  | term h => exact .term (reading_of_wellFormed h)
  | chain h _ ih => exact .chain (reading_of_wellFormed h) ih

end PageExtract.Rule
