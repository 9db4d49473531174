import PageExtract.Css.Engine
import PageExtract.Proofs.Css.Search

/-! # What a selector means

An element matches a selector if it matches the last compound and some element that the combinator
leads back to matches the rest; no search and no order of looking is involved. Main statement: in
the elements of a page, with the elements that a query is about given by their paths, a selector
fits exactly the elements that match it, and this is what it means to the engine.
-/
namespace PageExtract

namespace Css

/-! ## The elements a selector refers to -/

theorem back_subset_elements {p : Page} {e : Element} (he : e ∈ p.elements) (c : Combinator) :
    c.back e ⊆ p.elements := by
  intro x hx
  rw [Page.mem_elements_iff] at he ⊢
  cases c with
  | child => exact (Element.top_of_parent? (Option.mem_toList.1 hx)).symm.trans he
  | descendant => exact (Element.top_of_mem_ancestors hx).symm.trans he
  | nextSibling =>
    have hx : x ∈ e.earlier := by
      simp [Element.earlier_of_previous? (Option.mem_toList.1 hx)]
    exact (Element.top_of_mem_earlier hx).trans he
  | laterSibling => exact (Element.top_of_mem_earlier hx).trans he

theorem ahead_subset_elements {p : Page} {e : Element} (he : e ∈ p.elements) (c : Combinator) :
    c.ahead e ⊆ p.elements := by
  have hbelow : e.descendants ⊆ p.elements := fun x => Page.descendant_mem_elements he
  have hbehind : (e.later.flatMap fun y => y :: y.descendants) ⊆ p.elements := by
    intro x hx
    obtain ⟨y, hy, hx⟩ := List.mem_flatMap.1 hx
    have hy : y ∈ p.elements :=
      Page.mem_elements_iff.2 ((Element.top_of_mem_later hy).trans (Page.mem_elements_iff.1 he))
    rcases List.mem_cons.1 hx with rfl | hx
    · exact hy
    · exact Page.descendant_mem_elements hy hx
  cases c with
  | child | descendant => exact hbelow
  | nextSibling | laterSibling => exact hbehind

/-! ## Meaning -/

mutual

def Simple.Matches (scope : Element) (anchor : Option Element) (e : Element) : Simple → Prop
  | .name name => e.tag.name = name
  | .id id => e.attr? "id" = some id
  | .className name => ∃ v, e.attr? "class" = some v ∧ (AttributeTest.ofClass name).holds v
  | .attr name test => ∃ v, e.attr? name = some v ∧ test.holds v
  | .root => e.parent? = none
  | .scope => e = scope
  | .empty => e.children = []
  | .nth counting a b => isNth a b (counting.number e)
  | .isNot list => ¬ Selector.AnyMatches scope anchor e list
  | .isAny list => Selector.AnyMatches scope anchor e list
  | .has list => Relative.AnyMatches scope e list
  | .anchor => anchor = some e
  | .never => False

def Simple.AllMatch (scope : Element) (anchor : Option Element) (e : Element) :
    List Simple → Prop
  | [] => True
  | s :: rest => s.Matches scope anchor e ∧ Simple.AllMatch scope anchor e rest

def Selector.Matches (scope : Element) (anchor : Option Element) (e : Element) : Selector → Prop
  | .compound parts => Simple.AllMatch scope anchor e parts
  | .join left c parts =>
    Simple.AllMatch scope anchor e parts ∧ ∃ x ∈ c.back e, left.Matches scope anchor x

def Selector.AnyMatches (scope : Element) (anchor : Option Element) (e : Element) :
    List Selector → Prop
  | [] => False
  | s :: rest => s.Matches scope anchor e ∨ Selector.AnyMatches scope anchor e rest

def Relative.Matches (scope e : Element) : Relative → Prop
  | .starting first selector => ∃ x ∈ first.ahead e, selector.Matches scope (some e) x

def Relative.AnyMatches (scope e : Element) : List Relative → Prop
  | [] => False
  | r :: rest => r.Matches scope e ∨ Relative.AnyMatches scope e rest

end

/-- A context that names these elements of a page by their paths. No path for the scope names the
root. -/
structure Context.Names (context : Context) (p : Page) (scope : Element)
    (anchor : Option Element) : Prop where
  scope_mem : scope ∈ p.elements
  scope_eq : context.scope = some scope.path ∨ context.scope = none ∧ scope = p.root
  anchor_mem : ∀ a ∈ anchor, a ∈ p.elements
  anchor_eq : context.anchor = anchor.map Element.path

section
variable {context : Context} {p : Page} {scope e : Element} {anchor : Option Element}
  (h : context.Names p scope anchor) (he : e ∈ p.elements)
include h he

theorem Context.Names.anchored :
    Context.Names { context with anchor := some e.path } p scope (some e) where
  scope_mem := h.scope_mem
  scope_eq := h.scope_eq
  anchor_mem := by simpa using he
  anchor_eq := rfl

theorem Context.Names.fits_scope_iff : Simple.scope.fits context e ↔ e = scope := by
  rcases h.scope_eq with hscope | ⟨hscope, rfl⟩
  · simp only [Simple.fits, hscope, decide_eq_true_eq]
    exact ⟨Page.eq_of_path_eq he h.scope_mem, fun heq => heq ▸ rfl⟩
  · simp only [Simple.fits, hscope, List.isEmpty_iff]
    exact Page.above_eq_nil_iff he

theorem Context.Names.fits_anchor_iff : Simple.anchor.fits context e ↔ anchor = some e := by
  have hmem := h.anchor_mem
  simp only [Simple.fits, h.anchor_eq, decide_eq_true_eq]
  cases anchor with
  | none => simp
  | some a =>
    simp only [Option.map_some, Option.some.injEq]
    exact ⟨fun hpath => Page.eq_of_path_eq (hmem a rfl) he hpath, fun heq => heq ▸ rfl⟩

end

-- A relative selector changes the anchor, so the context is not fixed in the induction.
mutual

theorem Simple.fits_iff {context : Context} {p : Page} {scope : Element} {anchor : Option Element}
    (h : context.Names p scope anchor) {e : Element} (he : e ∈ p.elements) :
    (s : Simple) → (s.fits context e ↔ s.Matches scope anchor e)
  | .name name => by simp [Simple.fits, Simple.Matches]
  | .id id => by simp [Simple.fits, Simple.Matches]
  | .className name => by
    cases hv : e.attr? "class" <;> simp [Simple.fits, Simple.Matches, hv]
  | .attr name test => by
    cases hv : e.attr? name <;> simp [Simple.fits, Simple.Matches, hv]
  | .root => by simp [Simple.fits, Simple.Matches]
  | .scope => by
    rw [h.fits_scope_iff he, Simple.Matches]
  | .empty => by simp [Simple.fits, Simple.Matches]
  | .nth counting a b => by simp [Simple.fits, Simple.Matches]
  | .isNot list => by
    simp only [Simple.fits, Simple.Matches, ← Selector.anyFits_iff h he list]
    simp
  | .isAny list => by
    simpa only [Simple.fits, Simple.Matches] using Selector.anyFits_iff h he list
  | .has list => by
    simpa only [Simple.fits, Simple.Matches] using Relative.anyFits_iff (h.anchored he) he list
  | .anchor => by
    rw [h.fits_anchor_iff he, Simple.Matches]
  | .never => by simp [Simple.fits, Simple.Matches]

theorem Simple.allFit_iff {context : Context} {p : Page} {scope : Element}
    {anchor : Option Element} (h : context.Names p scope anchor) {e : Element}
    (he : e ∈ p.elements) :
    (list : List Simple) → (Simple.allFit context e list ↔ Simple.AllMatch scope anchor e list)
  | [] => by simp [Simple.allFit, Simple.AllMatch]
  | s :: rest => by
    simp only [Simple.allFit, Simple.AllMatch, Bool.and_eq_true]
    exact and_congr (s.fits_iff h he) (Simple.allFit_iff h he rest)

theorem Selector.judge_iff {context : Context} {p : Page} {scope : Element}
    {anchor : Option Element} (h : context.Names p scope anchor) {e : Element}
    (he : e ∈ p.elements) :
    (s : Selector) → (s.judge context e = .fits ↔ s.Matches scope anchor e)
  | .compound parts => by
    simp only [Selector.judge, Selector.Matches, ← Simple.allFit_iff h he parts]
    simp
  | .join left c parts => by
    have hback : (∃ x ∈ c.back e, left.judge context x = .fits) ↔
        ∃ x ∈ c.back e, left.Matches scope anchor x :=
      exists_congr fun x => and_congr_right fun hx =>
        Selector.judge_iff h (back_subset_elements he c hx) left
    rw [Selector.Matches, ← hback, ← Simple.allFit_iff h he parts,
      ← search_eq_fits_iff (sound_judge context left), Selector.judge]
    by_cases hparts : Simple.allFit context e parts <;> simp [hparts]

theorem Selector.anyFits_iff {context : Context} {p : Page} {scope : Element}
    {anchor : Option Element} (h : context.Names p scope anchor) {e : Element}
    (he : e ∈ p.elements) :
    (list : List Selector) →
      (Selector.anyFits context e list ↔ Selector.AnyMatches scope anchor e list)
  | [] => by simp [Selector.anyFits, Selector.AnyMatches]
  | s :: rest => by
    simp only [Selector.anyFits, Selector.AnyMatches, Bool.or_eq_true, decide_eq_true_eq]
    exact or_congr (s.judge_iff h he) (Selector.anyFits_iff h he rest)

theorem Relative.fits_iff {context : Context} {p : Page} {scope e : Element}
    (h : context.Names p scope (some e)) (he : e ∈ p.elements) :
    (r : Relative) → (r.fits context e ↔ r.Matches scope e)
  | .starting first selector => by
    simp only [Relative.fits, Relative.Matches, List.any_eq_true, decide_eq_true_eq]
    exact exists_congr fun x => and_congr_right fun hx =>
      Selector.judge_iff h (ahead_subset_elements he first hx) selector

theorem Relative.anyFits_iff {context : Context} {p : Page} {scope e : Element}
    (h : context.Names p scope (some e)) (he : e ∈ p.elements) :
    (list : List Relative) → (Relative.anyFits context e list ↔ Relative.AnyMatches scope e list)
  | [] => by simp [Relative.anyFits, Relative.AnyMatches]
  | r :: rest => by
    simp only [Relative.anyFits, Relative.AnyMatches, Bool.or_eq_true]
    exact or_congr (r.fits_iff h he) (Relative.anyFits_iff h he rest)

end

theorem engine_means : SelectorEngine.Means
    fun (list : List Selector) scope e => Selector.AnyMatches scope none e list where
  element hscope he :=
    Selector.anyFits_iff ⟨hscope, .inl rfl, by simp, rfl⟩ he _
  page he :=
    Selector.anyFits_iff ⟨List.mem_cons_self, .inr ⟨rfl, rfl⟩, by simp, rfl⟩ he _

end Css

end PageExtract
