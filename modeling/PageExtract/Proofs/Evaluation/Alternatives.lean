import PageExtract.Evaluate

/-! # Alternatives are tried from left to right

A rule is a tree of alternatives, and runs as a search through their list. Main statement: the
alternatives that find nothing are passed, the first one that finds a value or fails ends the run,
and no call is made for those behind it.
-/
namespace PageExtract

namespace Run
variable {κ ε α : Type}

def Misses (r : Run κ ε (Option α)) : Prop := r.result = .ok none

def orElse (first second : Run κ ε (Option α)) : Run κ ε (Option α) := do
  match ← first with
  | some a => pure (some a)
  | none => second

theorem orElse_of_misses {first : Run κ ε (Option α)} (h : first.Misses)
    (second : Run κ ε (Option α)) :
    first.orElse second = ⟨first.calls ++ second.calls, second.result⟩ :=
  bind_of_ok h _

theorem orElse_of_not_misses {first : Run κ ε (Option α)} (h : ¬ first.Misses)
    (second : Run κ ε (Option α)) : first.orElse second = first := by
  rcases first with ⟨calls, e | found⟩
  · exact bind_of_error rfl _
  · cases found with
    | none => exact absurd rfl h
    | some a =>
      rw [orElse, bind_of_ok rfl, calls_pure, result_pure, List.append_nil]

theorem orElse_assoc (first second third : Run κ ε (Option α)) :
    (first.orElse second).orElse third = first.orElse (second.orElse third) := by
  by_cases h : first.Misses
  · rw [orElse_of_misses h, orElse_of_misses h]
    -- the second run misses exactly if it does behind the calls of the first
    by_cases h' : second.Misses
    · have hall : (⟨first.calls ++ second.calls, second.result⟩ : Run κ ε (Option α)).Misses := h'
      rw [orElse_of_misses hall, orElse_of_misses h', List.append_assoc]
    · have hall : ¬ (⟨first.calls ++ second.calls, second.result⟩ : Run κ ε (Option α)).Misses := h'
      rw [orElse_of_not_misses hall, orElse_of_not_misses h']
  · rw [orElse_of_not_misses h, orElse_of_not_misses h, orElse_of_not_misses h]

/-- The runs of a list one after the other, until one does not miss. -/
def firstHit (runs : List (Run κ ε (Option α))) : Run κ ε (Option α) :=
  runs.foldr orElse (pure none)

@[simp] theorem firstHit_cons (r : Run κ ε (Option α)) (runs : List (Run κ ε (Option α))) :
    firstHit (r :: runs) = r.orElse (firstHit runs) := rfl

theorem firstHit_singleton (r : Run κ ε (Option α)) : firstHit [r] = r := by
  by_cases h : r.Misses
  · rw [firstHit_cons, orElse_of_misses h]
    rcases r with ⟨calls, result⟩
    obtain rfl : result = .ok none := h
    simp [firstHit]
  · exact orElse_of_not_misses h _

theorem firstHit_append (runs more : List (Run κ ε (Option α))) :
    firstHit (runs ++ more) = (firstHit runs).orElse (firstHit more) := by
  induction runs with
  | nil =>
    have hnil : (firstHit [] : Run κ ε (Option α)).Misses := rfl
    exact (orElse_of_misses hnil _).symm
  | cons r runs ih => rw [List.cons_append, firstHit_cons, ih, firstHit_cons, orElse_assoc]

/-- A search passes the runs that miss, and the first other one ends it. -/
theorem firstHit_map_cases {β : Type} (f : β → Run κ ε (Option α)) (items : List β) :
    (∃ before b after, items = before ++ b :: after ∧ (∀ c ∈ before, (f c).Misses) ∧
      ¬ (f b).Misses ∧
      firstHit (items.map f) =
        ⟨(before.flatMap fun c => (f c).calls) ++ (f b).calls, (f b).result⟩) ∨
    ((∀ c ∈ items, (f c).Misses) ∧
      firstHit (items.map f) = ⟨items.flatMap fun c => (f c).calls, .ok none⟩) := by
  induction items with
  | nil => exact .inr ⟨by simp, rfl⟩
  | cons c items ih =>
    by_cases hc : (f c).Misses
    · rw [List.map_cons, firstHit_cons, orElse_of_misses hc]
      rcases ih with ⟨before, b, after, rfl, hbefore, hb, hrun⟩ | ⟨hall, hrun⟩
      · refine .inl ⟨c :: before, b, after, rfl, ?_, hb, ?_⟩
        · exact List.forall_mem_cons.2 ⟨hc, hbefore⟩
        · rw [hrun, List.flatMap_cons, List.append_assoc]
      · refine .inr ⟨List.forall_mem_cons.2 ⟨hc, hall⟩, ?_⟩
        rw [hrun, List.flatMap_cons]
    · refine .inl ⟨[], c, items, rfl, by simp, hc, ?_⟩
      rw [List.map_cons, firstHit_cons, orElse_of_not_misses hc]
      rfl

end Run

namespace Rule
variable {ν : Type} [Scope ν]

theorem evaluate_orElse (first second : Rule) (scope : ν) :
    (orElse first second).evaluate scope =
      (first.evaluate scope).orElse (second.evaluate scope) := by
  rw [evaluate, Run.orElse]
  apply bind_congr
  intro found
  cases found <;> rfl

/-- The nesting of a rule is lost on its run. -/
theorem evaluate_eq_firstHit (rule : Rule) (scope : ν) :
    rule.evaluate scope = Run.firstHit (rule.alternatives.map fun s => s.evaluate scope) := by
  induction rule with
  | select s => exact (Run.firstHit_singleton _).symm
  | orElse first second ihFirst ihSecond =>
    rw [evaluate_orElse, ihFirst, ihSecond, alternatives_orElse, List.map_append,
      Run.firstHit_append]

/-- A rule runs its alternatives from left to right, up to the first one that finds a value or
fails, and finds nothing if there is none. Its calls are those of the alternatives that are run. -/
theorem evaluate_search_alternatives (rule : Rule) (scope : ν) :
    (∃ before s after, rule.alternatives = before ++ s :: after ∧
      (∀ t ∈ before, (t.evaluate scope).result = .ok none) ∧
      (s.evaluate scope).result ≠ .ok none ∧
      (rule.evaluate scope).result = (s.evaluate scope).result ∧
      (rule.evaluate scope).calls =
        (before.flatMap fun t => (t.evaluate scope).calls) ++ (s.evaluate scope).calls) ∨
    ((∀ t ∈ rule.alternatives, (t.evaluate scope).result = .ok none) ∧
      (rule.evaluate scope).result = .ok none ∧
      (rule.evaluate scope).calls =
        rule.alternatives.flatMap fun t => (t.evaluate scope).calls) := by
  rw [evaluate_eq_firstHit]
  rcases Run.firstHit_map_cases (fun s => s.evaluate scope) rule.alternatives with
    ⟨before, s, after, hsplit, hmiss, hs, hrun⟩ | ⟨hmiss, hrun⟩
  · left
    refine ⟨before, s, after, hsplit, hmiss, hs, ?_⟩
    rw [hrun]
    exact ⟨rfl, rfl⟩
  · right
    refine ⟨hmiss, ?_⟩
    rw [hrun]
    exact ⟨rfl, rfl⟩

end Rule

end PageExtract
