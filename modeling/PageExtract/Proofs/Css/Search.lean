import Mathlib.Logic.Relation
import PageExtract.Css.Matching
import PageExtract.Proofs.Page.Places

/-! # The search behind a combinator

A search looks at the elements that a combinator leads back to, and stops early where a verdict says
that those further back cannot fit either. Main statement: the verdicts of a selector are right
about the elements further back, so a search finds a fit exactly if one of its elements fits.
-/
namespace PageExtract

namespace Element

/-- To the parent, or to the nearest sibling before. -/
def StepsBack (e x : Element) : Prop := e.parent? = some x ∨ e.previous? = some x

def LeadsBack : Element → Element → Prop := Relation.ReflTransGen StepsBack

theorem leadsBack_of_mem_ancestors {e x : Element} (h : x ∈ e.ancestors) : e.LeadsBack x :=
  listsSteps_ancestors.related (fun _ _ hp => .single (.inl hp)) (fun _ _ _ => .trans) h

theorem leadsBack_of_mem_earlier {e x : Element} (h : x ∈ e.earlier) : e.LeadsBack x :=
  listsSteps_earlier.related (fun _ _ hp => .single (.inr hp)) (fun _ _ _ => .trans) h

/-- Where steps back lead, there is nothing around that was not around the first element. -/
theorem ancestors_subset_of_leadsBack {e x : Element} (h : e.LeadsBack x) :
    x.ancestors ⊆ e.ancestors := by
  induction h with
  | refl => exact List.Subset.refl _
  | tail _ hs ih =>
    rcases hs with hp | hp
    · rw [ancestors_of_parent? hp] at ih
      exact List.subset_of_cons_subset ih
    · rwa [← ancestors_congr (parent?_of_previous? hp)] at ih

/-- Other than to the element itself, steps back lead where they lead from the sibling before it. -/
theorem leadsBack_cases {e x y : Element} (hp : e.previous? = some x) (h : e.LeadsBack y) :
    y = e ∨ x.LeadsBack y := by
  rcases Relation.ReflTransGen.cases_head h with rfl | ⟨z, hz, hmore⟩
  · exact .inl rfl
  · right
    rcases hz with hz | hz
    · have hx : x.StepsBack z := .inl ((parent?_of_previous? hp).trans hz)
      exact .head hx hmore
    · obtain rfl := Option.some.inj (hp.symm.trans hz)
      exact hmore

end Element

namespace Css
open Element

/-- What a verdict other than a fit says about the elements further back is right. -/
structure Sound (judge : Element → Verdict) : Prop where
  nothing : ∀ {e x : Element}, judge e = .nothing → e.LeadsBack x → judge x ≠ .fits
  noSibling : ∀ {e x : Element}, judge e = .noSibling → x ∈ e.earlier → judge x ≠ .fits

/-- What a verdict on a search from an element says: whether it found a fit and, if not, from where
else a search finds none. -/
inductive Outcome (judge : Element → Verdict) (c : Combinator) (e : Element) : Verdict → Prop
  | fits {x : Element} (hx : x ∈ c.back e) (hfit : judge x = .fits) : Outcome judge c e .fits
  | someOther (h : ∀ x ∈ c.back e, judge x ≠ .fits) : Outcome judge c e .someOther
  | noSibling (h : ∀ y ∈ e :: e.earlier, ∀ x ∈ c.back y, judge x ≠ .fits) :
      Outcome judge c e .noSibling
  | nothing (h : ∀ y, e.LeadsBack y → ∀ x ∈ c.back y, judge x ≠ .fits) :
      Outcome judge c e .nothing

section
variable {judge : Element → Verdict}

theorem Outcome.fits_iff {c : Combinator} {e : Element} {v : Verdict} (h : Outcome judge c e v) :
    v = .fits ↔ ∃ x ∈ c.back e, judge x = .fits := by
  have hnone : (∀ x ∈ c.back e, judge x ≠ .fits) → ¬ ∃ x ∈ c.back e, judge x = .fits := by
    rintro hback ⟨x, hx, hfit⟩
    exact hback x hx hfit
  cases h with
  | fits hx hfit => exact ⟨fun _ => ⟨_, hx, hfit⟩, fun _ => rfl⟩
  | someOther hback => simpa using hnone hback
  | noSibling hback => simpa using hnone (hback e List.mem_cons_self)
  | nothing hback => simpa using hnone (hback e .refl)

/-- Where only elements above are looked at and none of them fits, none fits for any element that
steps lead back to. -/
theorem outcome_of_ancestors {c : Combinator} {e : Element}
    (hc : ∀ {y x}, x ∈ c.back y → x ∈ y.ancestors) (h : ∀ x ∈ e.ancestors, judge x ≠ .fits) :
    Outcome judge c e .nothing :=
  .nothing fun _ hy x hx => h x (ancestors_subset_of_leadsBack hy (hc hx))

/-- What fails for the sibling before and for the element itself fails for both. -/
theorem Outcome.of_previous {c : Combinator} {e x : Element} {v : Verdict}
    (hp : e.previous? = some x) (h : ∀ z ∈ c.back e, judge z ≠ .fits) (hv : v ≠ .fits)
    (hx : Outcome judge c x v) : Outcome judge c e v := by
  cases hx with
  | fits => exact absurd rfl hv
  | someOther => exact .someOther h
  | noSibling hsiblings =>
    refine .noSibling fun y hy => ?_
    rcases List.mem_cons.1 hy with rfl | hy
    · exact h
    · exact hsiblings y (earlier_of_previous? hp ▸ hy)
  | nothing hall =>
    refine .nothing fun y hy => ?_
    rcases leadsBack_cases hp hy with rfl | hy
    · exact h
    · exact hall y hy

variable (h : Sound judge)
include h

theorem ne_fits_of_nothing {x : Element} (hx : judge x = .nothing) :
    ∀ z ∈ x :: x.ancestors, judge z ≠ .fits := by
  intro z hz
  rcases List.mem_cons.1 hz with rfl | hz
  · simp [hx]
  · exact h.nothing hx (leadsBack_of_mem_ancestors hz)

theorem outcome_child (e : Element) :
    Outcome judge .child e (Combinator.child.search judge e.parent?.toList) := by
  have habove : ∀ {y x : Element}, x ∈ Combinator.child.back y → x ∈ y.ancestors := by
    intro y x hx
    simp [ancestors_of_parent? (Option.mem_toList.1 hx)]
  cases hp : e.parent? with
  | none => exact outcome_of_ancestors habove (by simp [ancestors_of_root hp])
  | some x =>
    -- A parent that does not fit is the parent of every sibling as well.
    have hother : judge x ≠ .fits → ∀ y ∈ e :: e.earlier, ∀ z ∈ Combinator.child.back y,
        judge z ≠ .fits := by
      intro hx y hy z hz
      have hy : y.parent? = e.parent? := by
        rcases List.mem_cons.1 hy with rfl | hy
        · rfl
        · exact parent?_of_mem_earlier hy
      have hz : z = x := by simpa [Combinator.back, hy, hp, eq_comm] using hz
      exact hz ▸ hx
    cases hv : judge x with
    | fits =>
      simp only [Option.toList_some, Combinator.search, hv]
      exact .fits (by simp [Combinator.back, hp]) hv
    | nothing =>
      simp only [Option.toList_some, Combinator.search, hv]
      refine outcome_of_ancestors habove ?_
      rw [ancestors_of_parent? hp]
      exact ne_fits_of_nothing h hv
    | _ =>
      simp only [Option.toList_some, Combinator.search, hv]
      exact .noSibling (hother (by simp [hv]))

/-- A search through all ancestors finds a fit or shows that there is none. Unlike the other
searches it never ends in between, so the induction is on this and not on the outcome. -/
theorem search_ancestors (e : Element) :
    (∃ x ∈ e.ancestors, judge x = .fits) ∧
        Combinator.descendant.search judge e.ancestors = .fits ∨
      (∀ x ∈ e.ancestors, judge x ≠ .fits) ∧
        Combinator.descendant.search judge e.ancestors = .nothing := by
  induction e using listsSteps_ancestors.induction with
  | last e hp => simp [ancestors_of_root hp, Combinator.search, Combinator.exhausted]
  | step e x hp ih =>
    rw [ancestors_of_parent? hp]
    cases hv : judge x with
    | fits => simp [Combinator.search, hv]
    | nothing =>
      right
      exact ⟨ne_fits_of_nothing h hv, by simp [Combinator.search, hv]⟩
    | _ => simpa [Combinator.search, hv] using ih

theorem outcome_descendant (e : Element) :
    Outcome judge .descendant e (Combinator.descendant.search judge e.ancestors) := by
  rcases search_ancestors h e with ⟨⟨x, hx, hfit⟩, hsearch⟩ | ⟨hnone, hsearch⟩
  · rw [hsearch]
    exact .fits hx hfit
  · rw [hsearch]
    exact outcome_of_ancestors id hnone

/-- A verdict that rules out the elements further back also rules out a search from there. -/
theorem outcome_of_verdict {c : Combinator} {x : Element} {v : Verdict}
    (hc : ∀ {y z}, z ∈ c.back y → z ∈ y.earlier) (hv : judge x = v) (hfits : v ≠ .fits)
    (hother : v ≠ .someOther) : Outcome judge c x v := by
  cases v with
  | fits => exact absurd rfl hfits
  | someOther => exact absurd rfl hother
  | noSibling =>
    refine .noSibling fun y hy z hz => h.noSibling hv ?_
    rcases List.mem_cons.1 hy with rfl | hy
    · exact hc hz
    · exact listsSteps_earlier.subset_of_mem hy (hc hz)
  | nothing =>
    exact .nothing fun y hy z hz => h.nothing hv (hy.trans (leadsBack_of_mem_earlier (hc hz)))

theorem outcome_nextSibling (e : Element) :
    Outcome judge .nextSibling e (Combinator.nextSibling.search judge e.previous?.toList) := by
  have hbefore : ∀ {y x : Element}, x ∈ Combinator.nextSibling.back y → x ∈ y.earlier := by
    intro y x hx
    simp [earlier_of_previous? (Option.mem_toList.1 hx)]
  cases hp : e.previous? with
  | none => exact .noSibling (by simp [earlier_of_first hp, Combinator.back, hp])
  | some x =>
    have hback : judge x ≠ .fits → ∀ z ∈ Combinator.nextSibling.back e, judge z ≠ .fits := by
      simp [Combinator.back, hp]
    cases hv : judge x with
    | fits =>
      simp only [Option.toList_some, Combinator.search, hv]
      exact .fits (by simp [Combinator.back, hp]) hv
    | someOther =>
      simp only [Option.toList_some, Combinator.search, hv]
      exact .someOther (hback (by simp [hv]))
    | _ =>
      simp only [Option.toList_some, Combinator.search, hv]
      exact .of_previous hp (hback (by simp [hv])) (by simp)
        (outcome_of_verdict h hbefore hv (by simp) (by simp))

theorem outcome_laterSibling (e : Element) :
    Outcome judge .laterSibling e (Combinator.laterSibling.search judge e.earlier) := by
  induction e using listsSteps_earlier.induction with
  | last e hp =>
    rw [earlier_of_first hp]
    exact .noSibling (by simp [earlier_of_first hp, Combinator.back])
  | step e x hp ih =>
    rw [earlier_of_previous? hp]
    have hback : ∀ {z}, z ∈ Combinator.laterSibling.back e ↔ z = x ∨ z ∈ x.earlier := by
      simp [Combinator.back, earlier_of_previous? hp]
    -- Past `x`, the search goes on as one from `x` would begin.
    have hpass : judge x ≠ .fits → ∀ {v}, v ≠ .fits → Outcome judge .laterSibling x v →
        Outcome judge .laterSibling e v := by
      intro hx v hv hbefore
      refine .of_previous hp (fun z hz => ?_) hv hbefore
      rcases hback.1 hz with rfl | hz
      · exact hx
      · exact fun hfit => hv (hbefore.fits_iff.2 ⟨z, hz, hfit⟩)
    cases hv : judge x with
    | fits =>
      simp only [Combinator.search, hv]
      exact .fits (hback.2 (.inl rfl)) hv
    | someOther =>
      simp only [Combinator.search, hv]
      by_cases hfound : Combinator.laterSibling.search judge x.earlier = .fits
      · obtain ⟨z, hz, hfit⟩ := ih.fits_iff.1 hfound
        rw [hfound]
        exact .fits (hback.2 (.inr hz)) hfit
      · exact hpass (by simp [hv]) hfound ih
    | _ =>
      simp only [Combinator.search, hv]
      exact hpass (by simp [hv]) (by simp) (outcome_of_verdict h id hv (by simp) (by simp))

theorem search_outcome (c : Combinator) (e : Element) :
    Outcome judge c e (c.search judge (c.back e)) := by
  cases c with
  | child => exact outcome_child h e
  | descendant => exact outcome_descendant h e
  | nextSibling => exact outcome_nextSibling h e
  | laterSibling => exact outcome_laterSibling h e

/-- Nothing is missed by stopping early. -/
theorem search_eq_fits_iff (c : Combinator) (e : Element) :
    c.search judge (c.back e) = .fits ↔ ∃ x ∈ c.back e, judge x = .fits :=
  (search_outcome h c e).fits_iff

theorem sound_search (c : Combinator) (allFit : Element → Bool) :
    Sound fun e => if allFit e then c.search judge (c.back e) else .someOther := by
  have hsearch : ∀ {e : Element} {v : Verdict}, v ≠ .someOther →
      (if allFit e then c.search judge (c.back e) else .someOther) = v →
      Outcome judge c e v := by
    intro e v hv he
    split at he
    · exact he ▸ search_outcome h c e
    · exact absurd he.symm hv
  constructor
  · intro e x he hx hfit
    obtain ⟨z, hz, hz'⟩ := (hsearch (by simp) hfit).fits_iff.1 rfl
    cases hsearch (by simp) he with
    | nothing hnone => exact hnone x hx z hz hz'
  · intro e x he hx hfit
    obtain ⟨z, hz, hz'⟩ := (hsearch (by simp) hfit).fits_iff.1 rfl
    cases hsearch (by simp) he with
    | noSibling hnone => exact hnone x (List.mem_cons_of_mem _ hx) z hz hz'

end

/-- The verdicts on a selector are right about the elements further back. The induction is on the
compounds to the left, which are what a search asks about. -/
theorem sound_judge (context : Context) : (s : Selector) → Sound fun e => s.judge context e
  | .compound parts => by
    constructor <;> intro e x he <;> simp only [Selector.judge] at he <;> split at he <;> cases he
  | .join left c parts => by
    simpa only [Selector.judge] using
      sound_search (sound_judge context left) c fun e => Simple.allFit context e parts

end Css

end PageExtract
