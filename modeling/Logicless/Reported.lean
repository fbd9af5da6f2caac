/-!
Computations that may fail and that give notices on their way. The notices before a failure are
kept.
-/

set_option autoImplicit false

namespace Logicless

@[simp] theorem ok_bind {ε α β : Type} (value : α) (next : α → Except ε β) :
    (Except.ok value).bind next = next value := rfl

@[simp] theorem error_bind {ε α β : Type} (error : ε) (next : α → Except ε β) :
    (Except.error error).bind next = .error error := rfl

@[simp] theorem ok_mapError {ε φ α : Type} (value : α) (adapt : ε → φ) :
    (Except.ok value).mapError adapt = .ok value := rfl

@[simp] theorem error_mapError {ε φ α : Type} (error : ε) (adapt : ε → φ) :
    (Except.error error : Except ε α).mapError adapt = .error (adapt error) := rfl

theorem exists_of_bind_eq_ok {ε α β : Type} {result : Except ε α} {next : α → Except ε β} {value : β}
    (whole : result.bind next = .ok value) : ∃ first, result = .ok first ∧ next first = .ok value := by
  cases result with
  | error failure => cases whole
  | ok first => exact ⟨first, rfl, whole⟩

theorem mapError_eq_ok_iff {ε φ α : Type} {result : Except ε α} {adapt : ε → φ} {value : α} :
    result.mapError adapt = .ok value ↔ result = .ok value := by
  cases result with
  | error failure => simp
  | ok found => simp

theorem bind_eq_error {ε α β : Type} {result : Except ε α} {next : α → Except ε β} {error : ε}
    (failed : result.bind next = .error error) :
    result = .error error ∨ ∃ first, result = .ok first ∧ next first = .error error := by
  cases result with
  | error failure =>
      cases failed
      exact .inl rfl
  | ok first => exact .inr ⟨first, rfl, failed⟩

theorem mapError_mapError {ε φ ψ α : Type} (result : Except ε α) (first : ε → φ) (second : φ → ψ) :
    (result.mapError first).mapError second = result.mapError (second ∘ first) := by
  cases result <;> rfl

theorem mapError_bind {ε φ α β : Type} (result : Except ε α) (next : α → Except ε β)
    (adapt : ε → φ) :
    (result.bind next).mapError adapt =
      (result.mapError adapt).bind fun value => (next value).mapError adapt := by
  cases result <;> rfl

structure Reported (ν ε α : Type) where
  notices : List ν
  result : Except ε α

namespace Reported

variable {ν ε α β : Type}

def ofExcept (result : Except ε α) : Reported ν ε α := ⟨[], result⟩

def note (notice : ν) : Reported ν ε Unit := ⟨[notice], .ok ()⟩

def fail (error : ε) : Reported ν ε α := ⟨[], .error error⟩

/-- Notices and failures of one kind seen as those of another. -/
def adapt {ν' ε' : Type} (notice : ν → ν') (error : ε → ε') (run : Reported ν ε α) :
    Reported ν' ε' α :=
  ⟨run.notices.map notice, run.result.mapError error⟩

instance : Monad (Reported ν ε) where
  pure value := ⟨[], .ok value⟩
  bind run next :=
    match run.result with
    | .ok value => ⟨run.notices ++ (next value).notices, (next value).result⟩
    | .error error => ⟨run.notices, .error error⟩

@[simp] theorem result_pure (value : α) : (pure value : Reported ν ε α).result = .ok value := rfl

@[simp] theorem result_note (notice : ν) : (note notice : Reported ν ε Unit).result = .ok () := rfl

@[simp] theorem result_fail (error : ε) : (fail error : Reported ν ε α).result = .error error := rfl

@[simp] theorem result_ofExcept (result : Except ε α) :
    (ofExcept result : Reported ν ε α).result = result := rfl

@[simp] theorem result_adapt {ν' ε' : Type} (notice : ν → ν') (error : ε → ε')
    (run : Reported ν ε α) : (run.adapt notice error).result = run.result.mapError error := rfl

theorem bind_bind {γ : Type} (result : Except ε α) (next : α → Except ε β) (last : β → Except ε γ) :
    (result.bind next).bind last = result.bind fun value => (next value).bind last := by
  cases result <;> rfl

@[simp] theorem result_bind (run : Reported ν ε α) (next : α → Reported ν ε β) :
    (run >>= next).result = run.result.bind fun value => (next value).result := by
  obtain ⟨notices, result⟩ := run
  cases result <;> rfl

theorem bind_pure_self (run : Reported ν ε α) : run >>= pure = run := by
  obtain ⟨notices, result⟩ := run
  cases result with
  | ok value => exact congrArg (Reported.mk · _) (List.append_nil notices)
  | error failure => rfl

end Reported

end Logicless
