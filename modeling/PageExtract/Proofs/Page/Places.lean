import Mathlib.Data.List.Nodup
import PageExtract.Page.Element

/-! # Places in a page

The crumbs of an element lead up to the root, and the elements below another are listed from the top
down. Main statements: the elements listed below another are those that it is found above, the
elements of a page are those that its root is found above, and each list is in document order, which
is the lexicographic order of paths.
-/
namespace PageExtract

/-- A list of all that steps lead to, one after the other. -/
structure ListsSteps {α : Type} (step? : α → Option α) (steps : α → List α) : Prop where
  last : ∀ {a}, step? a = none → steps a = []
  further : ∀ {a b}, step? a = some b → steps a = b :: steps b

namespace ListsSteps
variable {α : Type} {step? : α → Option α} {steps : α → List α} (h : ListsSteps step? steps)
include h

theorem induction {P : α → Prop} (last : ∀ a, step? a = none → P a)
    (step : ∀ a b, step? a = some b → P b → P a) (a : α) : P a := by
  induction hs : steps a generalizing a with
  | nil =>
    cases hb : step? a with
    | none => exact last a hb
    | some b => simp [h.further hb] at hs
  | cons b more ih =>
    cases hc : step? a with
    | none => simp [h.last hc] at hs
    | some c =>
      rw [h.further hc] at hs
      obtain ⟨rfl, hmore⟩ := List.cons.inj hs
      exact step a c hc (ih c hmore)

/-- A relation that holds along each step and is transitive holds along any number of them. -/
theorem related {R : α → α → Prop} (hstep : ∀ a b, step? a = some b → R a b)
    (htrans : ∀ a b c, R a b → R b c → R a c) {a b : α} (hb : b ∈ steps a) : R a b := by
  induction a using h.induction with
  | last a hs => simp [h.last hs] at hb
  | step a c hc ih =>
    rw [h.further hc] at hb
    rcases List.mem_cons.1 hb with rfl | hb
    · exact hstep a b hc
    · exact htrans a c b (hstep a c hc) (ih hb)

theorem subset_of_mem {a b : α} (hb : b ∈ steps a) : steps b ⊆ steps a := by
  refine h.related (R := fun a b => steps b ⊆ steps a) ?_ ?_ hb
  · intro a b hs
    rw [h.further hs]
    exact List.subset_cons_self ..
  · intro a b c hab hbc
    exact List.Subset.trans hbc hab

end ListsSteps

namespace Element

@[simp] theorem path_mk (tag : Tag) (children : List Node) (above : List Crumb) :
    path ⟨tag, children, above⟩ = (above.map (·.before.length)).reverse := rfl

@[simp] theorem parent?_eq_none_iff {e : Element} : e.parent? = none ↔ e.above = [] := by
  rcases e with ⟨tag, children, _ | ⟨crumb, above⟩⟩ <;> simp [parent?]

/-! ## Ancestors -/

theorem listsSteps_ancestors : ListsSteps parent? ancestors where
  last := by
    rintro ⟨tag, children, _ | ⟨crumb, above⟩⟩ h
    · rfl
    · cases h
  further := by
    rintro ⟨tag, children, _ | ⟨crumb, above⟩⟩ x h
    · cases h
    · obtain rfl := Option.some.inj h
      rfl

theorem ancestors_of_root {e : Element} (h : e.parent? = none) : e.ancestors = [] :=
  listsSteps_ancestors.last h

theorem ancestors_of_parent? {e x : Element} (h : e.parent? = some x) :
    e.ancestors = x :: x.ancestors := listsSteps_ancestors.further h

theorem ancestors_congr {e x : Element} (h : x.parent? = e.parent?) :
    x.ancestors = e.ancestors := by
  cases hp : e.parent? with
  | none => rw [ancestors_of_root hp, ancestors_of_root (h.trans hp)]
  | some y => rw [ancestors_of_parent? hp, ancestors_of_parent? (h.trans hp)]

def top (e : Element) : Element := (e :: e.ancestors).getLast (List.cons_ne_nil _ _)

theorem top_of_parent? {e x : Element} (h : e.parent? = some x) : e.top = x.top := by
  simp [top, ancestors_of_parent? h]

theorem top_of_root {e : Element} (h : e.parent? = none) : e.top = e := by
  simp [top, ancestors_of_root h]

theorem top_of_mem_ancestors {e x : Element} (h : x ∈ e.ancestors) : e.top = x.top :=
  listsSteps_ancestors.related (fun _ _ => top_of_parent?) (fun _ _ _ => Eq.trans) h

theorem top_congr {e x y : Element} (h : e.parent? = some x) (hy : y.parent? = e.parent?) :
    y.top = e.top := by
  rw [top_of_parent? h, top_of_parent? (hy.trans h)]

theorem top_mem_ancestors {e x : Element} (h : e.parent? = some x) : e.top ∈ e.ancestors := by
  have hne : e.ancestors ≠ [] := by simp [ancestors_of_parent? h]
  rw [top, List.getLast_cons hne]
  exact List.getLast_mem hne

/-! ## Siblings -/

theorem parent?_of_nearestBefore {parent : Tag} {above : List Crumb} {after before : List Node}
    {x : Element} (h : nearestBefore parent above after before = some x) :
    x.parent? = some ⟨parent, before.reverse ++ after, above⟩ := by
  fun_induction nearestBefore parent above after before with
  | case1 => cases h
  | case2 after s before ih => simpa using ih h
  | case3 after tag children before =>
    obtain rfl := Option.some.inj h
    simp [parent?]

theorem parent?_of_previous? {e x : Element} (h : e.previous? = some x) :
    x.parent? = e.parent? := by
  rcases e with ⟨tag, children, _ | ⟨crumb, above⟩⟩
  · cases h
  · exact parent?_of_nearestBefore h

theorem siblingsBefore_eq (parent : Tag) (above : List Crumb) (after before : List Node) :
    siblingsBefore parent above after before =
      match nearestBefore parent above after before with
      | none => []
      | some x => x :: x.earlier := by
  fun_induction nearestBefore parent above after before <;> simp_all [siblingsBefore, earlier]

theorem listsSteps_earlier : ListsSteps previous? earlier where
  last := by
    intro e h
    rw [← head?_earlier] at h
    exact List.head?_eq_none_iff.1 h
  further := by
    rintro ⟨tag, children, _ | ⟨crumb, above⟩⟩ x h
    · cases h
    · have hnearest : nearestBefore crumb.parent above (.element tag children :: crumb.after)
          crumb.before = some x := h
      show siblingsBefore crumb.parent above (.element tag children :: crumb.after) crumb.before = _
      rw [siblingsBefore_eq, hnearest]

theorem earlier_of_first {e : Element} (h : e.previous? = none) : e.earlier = [] :=
  listsSteps_earlier.last h

theorem earlier_of_previous? {e x : Element} (h : e.previous? = some x) :
    e.earlier = x :: x.earlier := listsSteps_earlier.further h

theorem parent?_of_mem_earlier {e x : Element} (h : x ∈ e.earlier) : x.parent? = e.parent? :=
  listsSteps_earlier.related (fun _ _ => parent?_of_previous?)
    (fun _ _ _ hxy hyz => hyz.trans hxy) h

theorem parent?_of_mem_siblingsAfter {parent : Tag} {above : List Crumb} {before after : List Node}
    {x : Element} (h : x ∈ siblingsAfter parent above before after) :
    x.parent? = some ⟨parent, before.reverse ++ after, above⟩ := by
  fun_induction siblingsAfter parent above before after with
  | case1 => cases h
  | case2 before s after ih => simpa using ih h
  | case3 before tag children after ih =>
    rcases List.mem_cons.1 h with rfl | h
    · simp [parent?]
    · simpa using ih h

theorem parent?_of_mem_later {e x : Element} (h : x ∈ e.later) : x.parent? = e.parent? := by
  rcases e with ⟨tag, children, _ | ⟨crumb, above⟩⟩
  · cases h
  · simpa [parent?] using parent?_of_mem_siblingsAfter h

theorem exists_parent_of_sibling {e x : Element} (h : x ∈ e.earlier ∨ x ∈ e.later) :
    ∃ parent, e.parent? = some parent := by
  rcases e with ⟨tag, children, _ | ⟨crumb, above⟩⟩
  · simp [earlier, later] at h
  · exact ⟨_, rfl⟩

theorem top_of_mem_earlier {e x : Element} (h : x ∈ e.earlier) : x.top = e.top := by
  obtain ⟨parent, hp⟩ := exists_parent_of_sibling (.inl h)
  exact top_congr hp (parent?_of_mem_earlier h)

theorem top_of_mem_later {e x : Element} (h : x ∈ e.later) : x.top = e.top := by
  obtain ⟨parent, hp⟩ := exists_parent_of_sibling (.inr h)
  exact top_congr hp (parent?_of_mem_later h)

/-! ## Descendants -/

theorem parent_mem_ancestors {parent : Tag} {above : List Crumb} {before nodes : List Node}
    {f : Element} (h : f ∈ elementsFrom parent above before nodes) :
    ⟨parent, before.reverse ++ nodes, above⟩ ∈ f.ancestors := by
  fun_induction elementsFrom parent above before nodes with
  | case1 => cases h
  | case2 parent above before s after ih => simpa using ih h
  | case3 parent above before tag children after crumbs ihChildren ihAfter =>
    have hparent : parent? ⟨tag, children, crumbs⟩ =
        some ⟨parent, before.reverse ++ .element tag children :: after, above⟩ := rfl
    rcases List.mem_cons.1 h with rfl | h
    · rw [ancestors_of_parent? hparent]
      exact List.mem_cons_self
    · rcases List.mem_append.1 h with h | h
      · apply listsSteps_ancestors.subset_of_mem (ihChildren h)
        rw [List.reverse_nil, List.nil_append, ancestors_of_parent? hparent]
        exact List.mem_cons_self
      · simpa using ihAfter h

theorem elementsFrom_subset (parent : Tag) (above : List Crumb) (before nodes : List Node) :
    elementsFrom parent above before nodes ⊆
      elementsFrom parent above [] (before.reverse ++ nodes) := by
  induction before generalizing nodes with
  | nil => simp
  | cons node before ih =>
    have hnode : elementsFrom parent above (node :: before) nodes ⊆
        elementsFrom parent above before (node :: nodes) := by
      cases node with
      | text s => simp [elementsFrom]
      | element tag children =>
        intro f hf
        simp [elementsFrom, hf]
    simpa using List.Subset.trans hnode (ih (node :: nodes))

theorem mem_descendants_of_parent? {f x : Element} (h : f.parent? = some x) :
    f ∈ x.descendants := by
  rcases f with ⟨tag, children, _ | ⟨crumb, above⟩⟩
  · cases h
  · obtain rfl := Option.some.inj h
    apply elementsFrom_subset crumb.parent above crumb.before
    simp [elementsFrom]

theorem descendants_subset {parent : Tag} {above : List Crumb} {before nodes : List Node}
    {x : Element} (h : x ∈ elementsFrom parent above before nodes) :
    x.descendants ⊆ elementsFrom parent above before nodes := by
  fun_induction elementsFrom parent above before nodes with
  | case1 => cases h
  | case2 parent above before s after ih => exact ih h
  | case3 parent above before tag children after crumbs ihChildren ihAfter =>
    intro f hf
    rcases List.mem_cons.1 h with rfl | h
    · exact List.mem_cons_of_mem _ (List.mem_append_left _ hf)
    · rcases List.mem_append.1 h with h | h
      · exact List.mem_cons_of_mem _ (List.mem_append_left _ (ihChildren h hf))
      · exact List.mem_cons_of_mem _ (List.mem_append_right _ (ihAfter h hf))

theorem mem_descendants_iff {e f : Element} : f ∈ e.descendants ↔ e ∈ f.ancestors := by
  constructor
  · exact parent_mem_ancestors
  · intro h
    induction f using listsSteps_ancestors.induction with
    | last f hp => simp [ancestors_of_root hp] at h
    | step f x hp ih =>
      have hf := mem_descendants_of_parent? hp
      rw [ancestors_of_parent? hp] at h
      rcases List.mem_cons.1 h with rfl | h
      · exact hf
      · exact descendants_subset (ih h) hf

/-! ## Document order -/

theorem path_of_mem_elementsFrom {parent : Tag} {above : List Crumb} {before nodes : List Node}
    {f : Element} (h : f ∈ elementsFrom parent above before nodes) :
    ∃ i more, before.length ≤ i ∧
      f.path = (above.map (·.before.length)).reverse ++ i :: more := by
  fun_induction elementsFrom parent above before nodes with
  | case1 => cases h
  | case2 parent above before s after ih =>
    obtain ⟨i, more, hi, hpath⟩ := ih h
    exact ⟨i, more, Nat.le_of_succ_le hi, hpath⟩
  | case3 parent above before tag children after crumbs ihChildren ihAfter =>
    rcases List.mem_cons.1 h with rfl | h
    · exact ⟨before.length, [], Nat.le_refl _, by simp [crumbs]⟩
    · rcases List.mem_append.1 h with h | h
      · obtain ⟨i, more, -, hpath⟩ := ihChildren h
        exact ⟨before.length, i :: more, Nat.le_refl _, by simp [hpath, crumbs]⟩
      · obtain ⟨i, more, hi, hpath⟩ := ihAfter h
        exact ⟨i, more, Nat.le_of_succ_le hi, hpath⟩

theorem pairwise_elementsFrom (parent : Tag) (above : List Crumb) (before nodes : List Node) :
    (elementsFrom parent above before nodes).Pairwise fun e f => e.path < f.path := by
  fun_induction elementsFrom parent above before nodes with
  | case1 => exact .nil
  | case2 parent above before s after ih => exact ih
  | case3 parent above before tag children after crumbs ihChildren ihAfter =>
    have hhead : path ⟨tag, children, crumbs⟩ =
        (above.map (·.before.length)).reverse ++ [before.length] := by simp [crumbs]
    have hbelow : ∀ f ∈ elementsFrom tag crumbs [] children, ∃ i more, f.path =
        (above.map (·.before.length)).reverse ++ before.length :: i :: more := by
      intro f hf
      obtain ⟨i, more, -, hpath⟩ := path_of_mem_elementsFrom hf
      exact ⟨i, more, by simp [hpath, crumbs]⟩
    have hbehind : ∀ f ∈ elementsFrom parent above (.element tag children :: before) after,
        ∃ i more, before.length < i ∧
          f.path = (above.map (·.before.length)).reverse ++ i :: more :=
      fun f hf => path_of_mem_elementsFrom hf
    refine List.pairwise_cons.2 ⟨?_, List.pairwise_append.2 ⟨ihChildren, ihAfter, ?_⟩⟩
    · intro f hf
      rcases List.mem_append.1 hf with hf | hf
      · obtain ⟨i, more, hpath⟩ := hbelow f hf
        rw [hhead, hpath]
        exact List.append_left_lt (by simp)
      · obtain ⟨i, more, hi, hpath⟩ := hbehind f hf
        rw [hhead, hpath]
        exact List.append_left_lt (by simp [List.cons_lt_cons_iff, hi])
    · intro e he f hf
      obtain ⟨i, more, hpath⟩ := hbelow e he
      obtain ⟨j, more', hj, hpath'⟩ := hbehind f hf
      rw [hpath, hpath']
      exact List.append_left_lt (by simp [List.cons_lt_cons_iff, hj])

end Element

namespace Page

theorem parent?_root (p : Page) : p.root.parent? = none := rfl

theorem mem_elements_iff {p : Page} {e : Element} : e ∈ p.elements ↔ e.top = p.root := by
  constructor
  · intro h
    rcases List.mem_cons.1 h with rfl | h
    · exact Element.top_of_root p.parent?_root
    · rw [Element.top_of_mem_ancestors (Element.mem_descendants_iff.1 h)]
      exact Element.top_of_root p.parent?_root
  · intro h
    cases hp : e.parent? with
    | none =>
      rw [Element.top_of_root hp] at h
      exact h ▸ List.mem_cons_self
    | some x =>
      have htop := Element.top_mem_ancestors hp
      rw [h] at htop
      exact List.mem_cons_of_mem _ (Element.mem_descendants_iff.2 htop)

theorem descendant_mem_elements {p : Page} {e x : Element} (he : e ∈ p.elements)
    (hx : x ∈ e.descendants) : x ∈ p.elements := by
  rw [mem_elements_iff, Element.top_of_mem_ancestors (Element.mem_descendants_iff.1 hx)]
  exact mem_elements_iff.1 he

/-- Only the root has nothing around it. -/
theorem above_eq_nil_iff {p : Page} {e : Element} (he : e ∈ p.elements) :
    e.above = [] ↔ e = p.root := by
  constructor
  · intro h
    rw [← mem_elements_iff.1 he, Element.top_of_root (Element.parent?_eq_none_iff.2 h)]
  · rintro rfl
    rfl

theorem pairwise_elements (p : Page) : p.elements.Pairwise fun e f => e.path < f.path := by
  refine List.pairwise_cons.2 ⟨?_, Element.pairwise_elementsFrom ..⟩
  intro f hf
  obtain ⟨i, more, -, hpath⟩ := Element.path_of_mem_elementsFrom hf
  rw [hpath]
  exact List.nil_lt_cons _ _

/-- No two places in a page have the same path. -/
theorem eq_of_path_eq {p : Page} {e f : Element} (he : e ∈ p.elements) (hf : f ∈ p.elements)
    (h : e.path = f.path) : e = f := by
  have hsorted : (p.elements.map Element.path).Pairwise (· < ·) :=
    List.pairwise_map.2 p.pairwise_elements
  have hnodup : (p.elements.map Element.path).Nodup := hsorted.imp fun hlt heq => by
    rw [heq] at hlt
    exact List.lt_irrefl _ hlt
  exact List.inj_on_of_nodup_map hnodup he hf h

end Page

end PageExtract
