import PageExtract.Extract
import PageExtract.Proofs.Evaluation.Chains
import PageExtract.Proofs.Rule.WellFormed

/-! # How a run fails

A run is put together from calls, and from malformed chains unless its selections are well shaped.
Main statement: the text of a rule fails to give a result only where it does not parse, and at a
call that the scope rejects, which is then the last one.
-/
namespace PageExtract

section Runs
variable {ν : Type} [Scope ν]

/-- The properties of runs that hold of every call and are kept by sequencing. -/
structure Evaluation.Closed (P : {α : Type} → Evaluation ν α → Prop) : Prop where
  pure : ∀ {α : Type} (a : α), P (pure a : Evaluation ν α)
  bind : ∀ {α β : Type} {r : Evaluation ν α} {f : α → Evaluation ν β},
    P r → (∀ a, P (f a)) → P (r >>= f)
  first : ∀ (node : ν) (selector : String), P (Evaluation.first node selector)
  all : ∀ (node : ν) (selector : String), P (Evaluation.all node selector)
  text : ∀ node : ν, P (Evaluation.text node)
  attr : ∀ (node : ν) (name : String), P (Evaluation.attr node name)

namespace Evaluation.Closed
variable {P : {α : Type} → Evaluation ν α → Prop}

theorem gather (h : Closed P) {read : ν → Evaluation ν (Option String)}
    (hread : ∀ node, P (read node)) (nodes : List ν) : P (Evaluation.gather read nodes) := by
  induction nodes with
  | nil => exact h.pure []
  | cons node nodes ih =>
    apply h.bind (hread node)
    intro found
    apply h.bind ih
    intro rest
    exact h.pure _

theorem read (h : Closed P) {op : Rule.Op} (hop : op.Reads fun _ => True) (selector : Rule.Quoted)
    (node : ν) : P (op.read selector node) := by
  cases op with
  | text => exact h.bind (h.text node) fun _ => h.pure _
  | attr name => exact h.bind (h.attr node name) fun _ => h.pure _
  | each => exact hop.elim

theorem items (h : Closed P) {read : ν → Evaluation ν (Option String)}
    (hread : ∀ node, P (read node)) (text : String) (scope : ν) :
    P (Evaluation.items read text scope) := by
  apply h.bind (h.all scope text)
  intro nodes
  exact h.bind (h.gather hread nodes) fun _ => h.pure _

theorem evaluate_selection (h : Closed P) {s : Rule.Selection} (hs : s.WellShaped) (scope : ν) :
    P (s.evaluate scope) := by
  induction hs generalizing scope with
  | @single text op _ hop =>
    rw [Rule.evaluate_single]
    apply h.bind (h.first scope text)
    intro found
    cases found with
    | none => exact h.pure none
    | some node => exact h.read hop ⟨.single, text⟩ node
  | @nested text s _ _ ih =>
    rw [Rule.evaluate_nested]
    exact h.items ih text scope
  | @items text op _ hop =>
    rw [Rule.evaluate_items]
    have hread : ∀ node, P (op.read ⟨.triple, text⟩ node) := h.read hop ⟨.triple, text⟩
    exact h.items hread text scope

theorem evaluate (h : Closed P) {rule : Rule} (hr : ∀ s ∈ rule.alternatives, s.WellShaped)
    (scope : ν) : P (rule.evaluate scope) := by
  induction rule with
  | select s => exact h.evaluate_selection (hr s (by simp)) scope
  | orElse first second ihFirst ihSecond =>
    rw [Rule.alternatives_orElse, List.forall_mem_append] at hr
    obtain ⟨hfirst, hsecond⟩ := hr
    rw [Rule.evaluate]
    apply h.bind (ihFirst hfirst)
    intro found
    cases found with
    | some value => exact h.pure (some value)
    | none => exact ihSecond hsecond

end Evaluation.Closed

def rejectionOf {α : Type} : Except Rejection α → Option Rejection
  | .error r => some r
  | .ok _ => none

def Call.rejection? : Call ν → Option Rejection
  | .first node selector => rejectionOf (Scope.first node selector)
  | .all node selector => rejectionOf (Scope.all node selector)
  | .text _ => none
  | .attr _ _ => none

/-- A run with a rejected call ends there with the rejection. Any other run has no rejected call. -/
inductive Evaluation.Faithful {α : Type} (r : Evaluation ν α) : Prop
  | clean (hcalls : ∀ c ∈ r.calls, c.rejection? = none)
      (hresult : ∀ fault, r.result ≠ .error (.rejected fault))
  | rejected (before : List (Call ν)) (last : Call ν) (fault : Rejection)
      (hcalls : r.calls = before ++ [last]) (hbefore : ∀ c ∈ before, c.rejection? = none)
      (hlast : last.rejection? = some fault) (hresult : r.result = .error (.rejected fault))

namespace Evaluation
variable {α β : Type}

theorem Faithful.bind {r : Evaluation ν α} {f : α → Evaluation ν β} (h : Faithful r)
    (hf : ∀ a, Faithful (f a)) : Faithful (r >>= f) := by
  cases h with
  | rejected before last fault hcalls hbefore hlast hresult =>
    rw [Run.bind_of_error hresult]
    exact .rejected before last fault hcalls hbefore hlast rfl
  | clean hcalls hresult =>
    cases hr : r.result with
    | error e =>
      rw [Run.bind_of_error hr]
      refine .clean hcalls ?_
      intro fault he
      obtain rfl : e = .rejected fault := Except.error.inj he
      exact hresult fault hr
    | ok a =>
      rw [Run.bind_of_ok hr]
      cases hf a with
      | clean hnext hres => exact .clean (List.forall_mem_append.2 ⟨hcalls, hnext⟩) hres
      | rejected before last fault hnext hbefore hlast hres =>
        have hall : r.calls ++ (f a).calls = (r.calls ++ before) ++ [last] := by
          rw [hnext, List.append_assoc]
        exact .rejected (r.calls ++ before) last fault hall
          (List.forall_mem_append.2 ⟨hcalls, hbefore⟩) hlast hres

/-- A faithful run ends with a rejection exactly if its last call is rejected with it. -/
theorem Faithful.rejected_iff {r : Evaluation ν α} (h : Faithful r) {fault : Rejection} :
    r.result = .error (.rejected fault) ↔
      ∃ before last, r.calls = before ++ [last] ∧ (∀ c ∈ before, c.rejection? = none) ∧
        last.rejection? = some fault := by
  constructor
  · intro he
    cases h with
    | clean _ hresult => exact absurd he (hresult fault)
    | rejected before last fault' hcalls hbefore hlast hresult =>
      obtain rfl : fault' = fault := by simpa [hresult] using he
      exact ⟨before, last, hcalls, hbefore, hlast⟩
  · rintro ⟨before, last, hc, -, hlast⟩
    cases h with
    | clean hcalls _ =>
      have hnone := hcalls last (by simp [hc])
      simp [hnone] at hlast
    | rejected before' last' fault' hcalls _ hlast' hresult =>
      obtain ⟨-, hl⟩ := List.append_inj' (hcalls.symm.trans hc) rfl
      obtain rfl := (List.cons.inj hl).1
      obtain rfl : fault' = fault := Option.some.inj (hlast'.symm.trans hlast)
      exact hresult

/-- A call is faithful if its rejection is that of its answer. -/
theorem faithful_call {c : Call ν} {answer : Except Rejection α}
    (hc : c.rejection? = rejectionOf answer) :
    Faithful (Run.call c (answer.mapError .rejected)) := by
  cases answer with
  | error r => exact .rejected [] c r rfl (by simp) hc rfl
  | ok a =>
    have hcalls : ∀ d ∈ [c], d.rejection? = none := by
      intro d hd
      rw [List.mem_singleton.1 hd, hc]
      rfl
    exact .clean hcalls (by simp [Run.call, Except.mapError])

theorem closed_faithful : Closed fun (r : Evaluation ν _) => Faithful r where
  pure _ := .clean (by simp) (by simp)
  bind := Faithful.bind
  first node selector := faithful_call (c := .first node selector) rfl
  all node selector := faithful_call (c := .all node selector) rfl
  text node := .clean (by simp [text, Run.call, Call.rejection?]) (by simp [text, Run.call])
  attr node name := .clean (by simp [attr, Run.call, Call.rejection?]) (by simp [attr, Run.call])

def WellBehaved (r : Evaluation ν α) : Prop := ∀ q cause, r.result ≠ .error (.malformed q cause)

omit [Scope ν] in
theorem WellBehaved.ok_or_rejected {r : Evaluation ν α} (h : WellBehaved r) :
    (∃ a, r.result = .ok a) ∨ ∃ fault, r.result = .error (.rejected fault) := by
  cases hr : r.result with
  | ok a => exact .inl ⟨a, rfl⟩
  | error e =>
    cases e with
    | rejected fault => exact .inr ⟨fault, rfl⟩
    | malformed q cause => exact absurd hr (h q cause)

omit [Scope ν] in
theorem WellBehaved.bind {r : Evaluation ν α} {f : α → Evaluation ν β} (h : WellBehaved r)
    (hf : ∀ a, WellBehaved (f a)) : WellBehaved (r >>= f) := by
  intro q cause he
  cases hr : r.result with
  | error e =>
    rw [Run.bind_of_error hr] at he
    obtain rfl : e = .malformed q cause := Except.error.inj he
    exact h q cause hr
  | ok a =>
    rw [Run.bind_of_ok hr] at he
    exact hf a q cause he

omit [Scope ν] in
theorem wellBehaved_call (c : Call ν) (answer : Except Rejection α) :
    WellBehaved (Run.call c (answer.mapError .rejected)) := by
  intro q cause
  cases answer <;> simp [Run.call, Except.mapError]

theorem closed_wellBehaved : Closed fun (r : Evaluation ν _) => WellBehaved r where
  pure _ := by simp [WellBehaved]
  bind := WellBehaved.bind
  first node selector := wellBehaved_call (.first node selector) _
  all node selector := wellBehaved_call (.all node selector) _
  text node := by simp [WellBehaved, text, Run.call]
  attr node name := by simp [WellBehaved, attr, Run.call]

end Evaluation

/-! ## The text of a rule -/

theorem Rule.wellShaped_of_parse {source : String} {rule : Rule} (h : Rule.parse source = .ok rule)
    (s : Rule.Selection) (hs : s ∈ rule.alternatives) : s.WellShaped :=
  ((Rule.wellFormed_of_parse h).of_mem hs).wellShaped

theorem tryExtract_of_error {source : String} {e : Rule.ParseError}
    (h : Rule.parse source = .error e) (scope : ν) :
    tryExtract source scope = .fail (.unparsable e) := by
  rw [tryExtract, h]

theorem tryExtract_of_ok {source : String} {rule : Rule} (h : Rule.parse source = .ok rule)
    (scope : ν) : tryExtract source scope = (rule.evaluate scope).mapError .failed := by
  rw [tryExtract, h]

theorem tryExtract_failed_iff {source : String} {rule : Rule}
    (h : Rule.parse source = .ok rule) {scope : ν} {e : EvalError} :
    (tryExtract source scope).result = .error (.failed e) ↔
      (rule.evaluate scope).result = .error e := by
  rw [tryExtract_of_ok h, Run.result_mapError]
  cases (rule.evaluate scope).result <;> simp [Except.mapError]

theorem tryExtract_eq_ok_iff {source : String} {rule : Rule}
    (h : Rule.parse source = .ok rule) {scope : ν} {found : Option String} :
    (tryExtract source scope).result = .ok found ↔ (rule.evaluate scope).result = .ok found := by
  rw [tryExtract_of_ok h, Run.result_mapError]
  cases (rule.evaluate scope).result <;> simp [Except.mapError]

/-- A parsed rule finds something or nothing, or a query of it is rejected. -/
theorem Rule.result_of_parse {source : String} {rule : Rule} (h : Rule.parse source = .ok rule)
    (scope : ν) :
    (∃ found, (rule.evaluate scope).result = .ok found) ∨
      ∃ fault, (rule.evaluate scope).result = .error (.rejected fault) :=
  (Evaluation.closed_wellBehaved.evaluate (Rule.wellShaped_of_parse h) scope).ok_or_rejected

theorem tryExtract_ne_malformed (source : String) (scope : ν) (q : Rule.Quoted)
    (cause : ChainCause) :
    (tryExtract source scope).result ≠ .error (.failed (.malformed q cause)) := by
  cases h : Rule.parse source with
  | error e => simp [tryExtract_of_error h]
  | ok rule =>
    rw [ne_eq, tryExtract_failed_iff h]
    exact Evaluation.closed_wellBehaved.evaluate (Rule.wellShaped_of_parse h) scope q cause

theorem tryExtract_unparsable_iff {source : String} {scope : ν} {e : Rule.ParseError} :
    (tryExtract source scope).result = .error (.unparsable e) ↔ Rule.parse source = .error e := by
  cases h : Rule.parse source with
  | error e' => simp [tryExtract_of_error h]
  | ok rule =>
    rw [tryExtract_of_ok h, Run.result_mapError]
    cases (rule.evaluate scope).result <;> simp [Except.mapError]

theorem tryExtract_rejected_iff {source : String} {scope : ν} {fault : Rejection} :
    (tryExtract source scope).result = .error (.failed (.rejected fault)) ↔
      ∃ before last, (tryExtract source scope).calls = before ++ [last] ∧
        (∀ c ∈ before, c.rejection? = none) ∧ last.rejection? = some fault := by
  cases h : Rule.parse source with
  | error e => simp [tryExtract_of_error h]
  | ok rule =>
    rw [tryExtract_failed_iff h, tryExtract_of_ok h, Run.calls_mapError]
    exact (Evaluation.closed_faithful.evaluate (Rule.wellShaped_of_parse h) scope).rejected_iff

theorem malformed_not_mem_notices (source : Option String) (scope : ν) :
    Notice.malformed ∉ (extract source scope).notices := by
  unfold extract
  split
  · simp
  · rename_i rule _
    have hw := tryExtract_ne_malformed rule scope
    cases hr : (tryExtract rule scope).result with
    | ok value => cases value <;> simp [settle, hr]
    | error e =>
      rcases e with e | (fault | ⟨q, cause⟩)
      · simp [settle, hr]
      · simp [settle, hr]
      · exact absurd hr (hw q cause)

/-- The text of a rule fails only where it does not parse and at a query that the scope rejects. Its
chains fit every scope. -/
theorem tryExtract_failures (source : String) (scope : ν) :
    (∀ q cause, (tryExtract source scope).result ≠ .error (.failed (.malformed q cause))) ∧
    (∀ e, (tryExtract source scope).result = .error (.unparsable e) ↔
      Rule.parse source = .error e) ∧
    (∀ fault, (tryExtract source scope).result = .error (.failed (.rejected fault)) ↔
      ∃ before last, (tryExtract source scope).calls = before ++ [last] ∧
        (∀ c ∈ before, c.rejection? = none) ∧ last.rejection? = some fault) ∧
    ∀ rule : Option String, Notice.malformed ∉ (extract rule scope).notices := by
  refine ⟨tryExtract_ne_malformed source scope, ?_, ?_, ?_⟩
  · intro e
    exact tryExtract_unparsable_iff
  · intro fault
    exact tryExtract_rejected_iff
  · intro rule
    exact malformed_not_mem_notices rule scope

end Runs

end PageExtract
