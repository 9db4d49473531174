import PageExtract.Page.Scope
import PageExtract.Proofs.Css.Matches

/-! # Queries of a page

Queries of a page lead to elements of it, and queries of those to further ones. Main statements: at
every node they lead to, a query finds what matches among the elements it looks at, in document
order, or is rejected for its text alone; and a page is queried like its root, except that the root
may itself be found.
-/
namespace PageExtract

namespace PageNode

section
variable [SelectorEngine]

/-- The nodes that queries lead to from a page. -/
inductive Reached (p : Page) : PageNode → Prop
  | page : Reached p (.page p)
  | first {n m : PageNode} {selector : String} (h : Reached p n)
      (hm : Scope.first n selector = .ok (some m)) : Reached p m
  | all {n m : PageNode} {selector : String} {found : List PageNode} (h : Reached p n)
      (hfound : Scope.all n selector = .ok found) (hm : m ∈ found) : Reached p m

end

inductive Within (p : Page) : PageNode → Prop
  | page : Within p (.page p)
  | element {e : Element} (he : e ∈ p.elements) : Within p (.element e)

def scope : PageNode → Element
  | page p => p.root
  | element e => e

/-- A page encloses the elements that lead up to its root, an element those that it is around. -/
def Encloses : PageNode → Element → Prop
  | page p, e => e.top = p.root
  | element e, f => e ∈ f.ancestors

theorem mem_candidates_iff {n : PageNode} {e : Element} : e ∈ n.candidates ↔ n.Encloses e := by
  cases n with
  | page p => exact Page.mem_elements_iff
  | element f => exact Element.mem_descendants_iff

theorem pairwise_candidates (n : PageNode) :
    n.candidates.Pairwise fun e f => e.path < f.path := by
  cases n with
  | page p => exact p.pairwise_elements
  | element e => exact Element.pairwise_elementsFrom ..

theorem Within.candidates_subset {p : Page} {n : PageNode} (h : Within p n) :
    n.candidates ⊆ p.elements := by
  cases h with
  | page => exact List.Subset.refl _
  | element he => exact fun _ => Page.descendant_mem_elements he

/-! ## One query -/

section
variable [SelectorEngine]

/-- A query for the first match stops where a query for all goes on. -/
theorem first_eq_head? (n : PageNode) (selector : String) :
    Scope.first n selector = (Scope.all n selector).map List.head? := by
  show n.first selector = (n.all selector).map List.head?
  rw [first, all]
  cases selectors selector with
  | error fault => rfl
  | ok list => simp [Except.map, List.head?_filter]

section
variable {selector : String}

theorem all_of_read {list : SelectorEngine.Selectors}
    (h : SelectorEngine.read selector = .ok list) (n : PageNode) :
    Scope.all n selector = .ok ((n.candidates.filter (n.fits list)).map element) := by
  show n.all selector = _
  rw [all, selectors, h]
  rfl

theorem first_of_read {list : SelectorEngine.Selectors}
    (h : SelectorEngine.read selector = .ok list) (n : PageNode) :
    Scope.first n selector = .ok ((n.candidates.filter (n.fits list)).head?.map element) := by
  rw [first_eq_head?, all_of_read h]
  simp [Except.map]

/-- Neither the node nor the kind of query matters to a rejection. -/
theorem rejected_of_not_read {reason : String} (h : SelectorEngine.read selector = .error reason)
    (n : PageNode) :
    Scope.first n selector = .error ⟨selector, reason⟩ ∧
      Scope.all n selector = .error ⟨selector, reason⟩ := by
  have hall : Scope.all n selector = .error ⟨selector, reason⟩ := by
    show n.all selector = _
    rw [all, selectors, h]
    rfl
  rw [first_eq_head?, hall]
  exact ⟨rfl, rfl⟩

/-- Whatever a query finds is an element it looked at. -/
theorem exists_candidate_of_all {n m : PageNode} {found : List PageNode}
    (h : Scope.all n selector = .ok found) (hm : m ∈ found) :
    ∃ e ∈ n.candidates, m = .element e := by
  cases hread : SelectorEngine.read selector with
  | error reason => rw [(rejected_of_not_read hread n).2] at h; cases h
  | ok list =>
    rw [all_of_read hread] at h
    obtain rfl := Except.ok.inj h
    obtain ⟨e, he, rfl⟩ := List.mem_map.1 hm
    exact ⟨e, (List.mem_filter.1 he).1, rfl⟩

theorem exists_candidate_of_first {n m : PageNode} (h : Scope.first n selector = .ok (some m)) :
    ∃ e ∈ n.candidates, m = .element e := by
  rw [first_eq_head?] at h
  cases hall : Scope.all n selector with
  | error fault => rw [hall] at h; cases h
  | ok found =>
    rw [hall] at h
    exact exists_candidate_of_all hall (List.mem_of_head? (Except.ok.inj h))

end

end

/-! ## Queries for a name -/

section
variable {selector name : String}
  (h : SelectorEngine.read selector = .ok [Css.Selector.compound [.name name]])
include h

theorem all_of_name (n : PageNode) :
    Scope.all n selector = .ok ((n.candidates.filter (·.tag.name = name)).map element) := by
  have hfits : n.fits [Css.Selector.compound [.name name]] =
      fun e : Element => decide (e.tag.name = name) := by
    funext e
    simp [fits, SelectorEngine.fits, Css.Selector.anyFits, Css.Selector.judge, Css.Simple.allFit,
      Css.Simple.fits]
  rw [all_of_read h, hfits]

theorem first_of_name (n : PageNode) :
    Scope.first n selector = .ok ((n.candidates.filter (·.tag.name = name)).head?.map element) := by
  rw [first_eq_head?, all_of_name h]
  simp [Except.map]

end

/-! ## Queries of the nodes that are reached -/

section
variable [SelectorEngine]

/-- Queries of a page never lead out of it. -/
theorem Reached.within {p : Page} {n : PageNode} (h : Reached p n) : Within p n := by
  induction h with
  | page => exact .page
  | first _ hm ih =>
    obtain ⟨e, he, rfl⟩ := exists_candidate_of_first hm
    exact .element (ih.candidates_subset he)
  | all _ hfound hm ih =>
    obtain ⟨e, he, rfl⟩ := exists_candidate_of_all hfound hm
    exact .element (ih.candidates_subset he)

variable {Matches : SelectorEngine.Selectors → Element → Element → Prop}
  (hmeans : SelectorEngine.Means Matches)
include hmeans

/-- An element that a query looks at fits the selectors if it matches them. -/
theorem Within.fits_iff {p : Page} {n : PageNode} (h : Within p n) {e : Element}
    (he : e ∈ p.elements) (list : SelectorEngine.Selectors) :
    n.fits list e ↔ Matches list n.scope e := by
  cases h with
  | page => exact hmeans.page he
  | element hscope => exact hmeans.element hscope he

/-- Whether a selector is rejected depends on its text alone. Where it is not, `all` finds, at every
node that queries lead to, the elements that the node encloses and that match the selector, each
once and in document order, and `first` finds the first of them. -/
theorem queries_of_reached (selector : String) :
    (∃ reason, SelectorEngine.read selector = .error reason ∧
      ∀ n : PageNode,
        Scope.first n selector = .error ⟨selector, reason⟩ ∧
        Scope.all n selector = .error ⟨selector, reason⟩) ∨
    (∃ list, SelectorEngine.read selector = .ok list ∧ ∀ p n, Reached p n →
      ∃ found : List Element,
        Scope.all n selector = .ok (found.map element) ∧
        Scope.first n selector = .ok (found.head?.map element) ∧
        found.Nodup ∧ found.Pairwise (fun e f => e.path < f.path) ∧
        ∀ e, e ∈ found ↔ n.Encloses e ∧ Matches list n.scope e) := by
  cases hread : SelectorEngine.read selector with
  | error reason => exact .inl ⟨reason, rfl, rejected_of_not_read hread⟩
  | ok list =>
    refine .inr ⟨list, rfl, fun p n hn => ?_⟩
    have hsorted := n.pairwise_candidates.filter (n.fits list)
    refine ⟨_, all_of_read hread n, first_of_read hread n, ?_, hsorted, fun e => ?_⟩
    · refine hsorted.imp fun hlt heq => ?_
      rw [heq] at hlt
      exact List.lt_irrefl _ hlt
    · rw [List.mem_filter, mem_candidates_iff]
      refine and_congr_right fun henclosed => ?_
      have he : e ∈ p.elements :=
        hn.within.candidates_subset (mem_candidates_iff.2 henclosed)
      exact hn.within.fits_iff hmeans he list

end

def threeDeep : Page := ⟨⟨"html", []⟩, [.element ⟨"b", []⟩ [.element ⟨"i", []⟩ []]]⟩

def secondDeep : Element := ⟨⟨"b", []⟩, [.element ⟨"i", []⟩ []], [⟨⟨"html", []⟩, [], []⟩]⟩

theorem queries_of_reached_secondDeep :
    Reached threeDeep (element secondDeep) ∧ ∃ found : List Element,
      Scope.all (element secondDeep) ":scope > i" = .ok (found.map element) ∧
      Scope.first (element secondDeep) ":scope > i" = .ok (found.head?.map element) ∧
      found.Nodup ∧ found.Pairwise (fun e f => e.path < f.path) ∧
      ∀ e, e ∈ found ↔ secondDeep ∈ e.ancestors ∧ Css.Selector.AnyMatches secondDeep none e
        [.join (.compound [.scope]) .child [.name "i"]] := by
  have hb : SelectorEngine.read "b" = .ok [Css.Selector.compound [.name "b"]] := by
    with_unfolding_all rfl
  have hfirst : Scope.first (page threeDeep) "b" = .ok (some (element secondDeep)) := by
    rw [first_of_name hb]
    simp [threeDeep, secondDeep, candidates, Page.elements, Page.root, Element.descendants,
      Element.elementsFrom]
  have hread : SelectorEngine.read ":scope > i" =
      .ok [Css.Selector.join (.compound [.scope]) .child [.name "i"]] := by with_unfolding_all rfl
  have hreached : Reached threeDeep (element secondDeep) := .first .page hfirst
  rcases queries_of_reached Css.engine_means ":scope > i" with ⟨reason, hfault, -⟩ | hfound
  · cases hread.symm.trans hfault
  · obtain ⟨list, hlist, hfound⟩ := hfound
    obtain rfl := Except.ok.inj (hread.symm.trans hlist)
    exact ⟨hreached, hfound threeDeep (element secondDeep) hreached⟩

/-- A page finds its root if that matches, and then whatever the root finds. -/
theorem queries_of_page [SelectorEngine]
    {Matches : SelectorEngine.Selectors → Element → Element → Prop}
    (hmeans : SelectorEngine.Means Matches) {selector : String} {list : SelectorEngine.Selectors}
    (h : SelectorEngine.read selector = .ok list) (p : Page) :
    ∃ below : List Element,
      Scope.all (element p.root) selector = .ok (below.map element) ∧
      Scope.first (element p.root) selector = .ok (below.head?.map element) ∧
      (Matches list p.root p.root →
        Scope.all (page p) selector = .ok (element p.root :: below.map element) ∧
        Scope.first (page p) selector = .ok (some (element p.root))) ∧
      (¬ Matches list p.root p.root →
        Scope.all (page p) selector = Scope.all (element p.root) selector ∧
        Scope.first (page p) selector = Scope.first (element p.root) selector) := by
  have hpage : Within p (page p) := .page
  have hroot : p.root ∈ p.elements := List.mem_cons_self
  have hrootWithin : Within p (element p.root) := .element hroot
  have hbelow : p.root.descendants.filter ((page p).fits list) =
      p.root.descendants.filter ((element p.root).fits list) := by
    apply List.filter_congr
    intro e he
    have he := Page.descendant_mem_elements hroot he
    have hpageFits := hpage.fits_iff hmeans he list
    exact Bool.eq_iff_iff.2 (hpageFits.trans (hrootWithin.fits_iff hmeans he list).symm)
  refine ⟨_, all_of_read h _, first_of_read h _, fun hmatch => ?_, fun hmatch => ?_⟩
  · have hfits := (hpage.fits_iff hmeans hroot list).2 hmatch
    simp [all_of_read h, first_of_read h, candidates, Page.elements, hfits, hbelow]
  · have hfits := mt (hpage.fits_iff hmeans hroot list).1 hmatch
    simp [all_of_read h, first_of_read h, candidates, Page.elements, hfits, hbelow]

theorem queries_of_page_threeDeep :
    SelectorEngine.read ":root, i" =
      .ok [Css.Selector.compound [.root], Css.Selector.compound [.name "i"]] ∧
    ∃ below : List Element,
      Scope.all (element threeDeep.root) ":root, i" = .ok (below.map element) ∧
      Scope.first (element threeDeep.root) ":root, i" = .ok (below.head?.map element) ∧
      Scope.all (page threeDeep) ":root, i" =
        .ok (element threeDeep.root :: below.map element) ∧
      Scope.first (page threeDeep) ":root, i" = .ok (some (element threeDeep.root)) := by
  have hread : SelectorEngine.read ":root, i" =
      .ok [Css.Selector.compound [.root], Css.Selector.compound [.name "i"]] := by
    with_unfolding_all rfl
  obtain ⟨below, hall, hfirst, hroot, -⟩ := queries_of_page Css.engine_means hread threeDeep
  exact ⟨hread, below, hall, hfirst, hroot (.inl ⟨threeDeep.parent?_root, trivial⟩)⟩

end PageNode

end PageExtract
