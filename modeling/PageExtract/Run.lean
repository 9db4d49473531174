/-! # Runs

A run is a result together with the calls made on the way to it. A failure ends the run, and the
calls made before it stay.
-/
namespace PageExtract

structure Run (κ ε α : Type) where
  calls : List κ
  result : Except ε α

namespace Run
variable {κ ε ε' α β : Type}

def fail (e : ε) : Run κ ε α := ⟨[], .error e⟩

def call (c : κ) (result : Except ε α) : Run κ ε α := ⟨[c], result⟩

protected def bind (r : Run κ ε α) (f : α → Run κ ε β) : Run κ ε β :=
  match r.result with
  | .error e => ⟨r.calls, .error e⟩
  | .ok a =>
    let next := f a
    ⟨r.calls ++ next.calls, next.result⟩

instance : Monad (Run κ ε) where
  pure a := ⟨[], .ok a⟩
  bind := Run.bind

def mapError (f : ε → ε') (r : Run κ ε α) : Run κ ε' α := ⟨r.calls, r.result.mapError f⟩

@[simp] theorem calls_pure (a : α) : (pure a : Run κ ε α).calls = [] := rfl

@[simp] theorem result_pure (a : α) : (pure a : Run κ ε α).result = .ok a := rfl

@[simp] theorem calls_fail (e : ε) : (fail e : Run κ ε α).calls = [] := rfl

@[simp] theorem result_fail (e : ε) : (fail e : Run κ ε α).result = .error e := rfl

@[simp] theorem calls_mapError (f : ε → ε') (r : Run κ ε α) : (r.mapError f).calls = r.calls := rfl

@[simp] theorem result_mapError (f : ε → ε') (r : Run κ ε α) :
    (r.mapError f).result = r.result.mapError f := rfl

theorem bind_of_error {r : Run κ ε α} {e : ε} (h : r.result = .error e) (f : α → Run κ ε β) :
    r >>= f = ⟨r.calls, .error e⟩ := by
  show Run.bind r f = _
  unfold Run.bind
  rw [h]

theorem bind_of_ok {r : Run κ ε α} {a : α} (h : r.result = .ok a) (f : α → Run κ ε β) :
    r >>= f = ⟨r.calls ++ (f a).calls, (f a).result⟩ := by
  show Run.bind r f = _
  unfold Run.bind
  rw [h]

theorem result_bind (r : Run κ ε α) (f : α → Run κ ε β) :
    (r >>= f).result = r.result >>= fun a => (f a).result := by
  cases h : r.result with
  | error e => rw [bind_of_error h]; rfl
  | ok a => rw [bind_of_ok h]; rfl

theorem result_bind_eq_ok_iff {r : Run κ ε α} {f : α → Run κ ε β} {b : β} :
    (r >>= f).result = .ok b ↔ ∃ a, r.result = .ok a ∧ (f a).result = .ok b := by
  cases h : r.result with
  | error e => simp [bind_of_error h]
  | ok a => simp [bind_of_ok h]

protected theorem bind_pure (r : Run κ ε α) : r.bind (fun a => ⟨[], .ok a⟩) = r := by
  rcases r with ⟨calls, _ | a⟩ <;> simp [Run.bind]

protected theorem pure_bind (a : α) (f : α → Run κ ε β) : Run.bind ⟨[], .ok a⟩ f = f a := by
  simp [Run.bind]

protected theorem bind_assoc {γ : Type} (r : Run κ ε α) (f : α → Run κ ε β) (g : β → Run κ ε γ) :
    (r.bind f).bind g = r.bind fun a => (f a).bind g := by
  rcases r with ⟨calls, _ | a⟩
  · rfl
  · simp only [Run.bind]
    split <;> simp_all

instance : LawfulMonad (Run κ ε) :=
  LawfulMonad.mk' (Run κ ε) Run.bind_pure Run.pure_bind Run.bind_assoc

end Run

end PageExtract
