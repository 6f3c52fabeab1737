namespace TransactionService.Fallible

/-! # Computations that may fail

When a sequence of fallible computations succeeds, and how it can fail. -/

variable {Failure : Type} {α β : Type}

def Succeeds (result : Except Failure α) : Prop :=
  ∃ value, result = .ok value

theorem bind_eq_ok {first : Except Failure α} {next : α → Except Failure β} {value : β} :
    (first >>= next) = .ok value ↔
      ∃ middle, first = .ok middle ∧ next middle = .ok value := by
  cases first with
  | error failure => simp [Bind.bind, Except.bind]
  | ok middle => simp [Bind.bind, Except.bind]

theorem succeeds_bind {first : Except Failure α} {next : α → Except Failure β} {later : Prop}
    (independent : ∀ value, Succeeds (next value) ↔ later) :
    Succeeds (first >>= next) ↔ Succeeds first ∧ later := by
  cases first with
  | error failure => simp [Succeeds, Bind.bind, Except.bind]
  | ok middle =>
      have first : Succeeds (.ok middle : Except Failure α) := ⟨middle, rfl⟩
      have same : Succeeds (.ok middle >>= next) ↔ later := independent middle
      rw [same]
      exact ⟨fun holds => ⟨first, holds⟩, fun both => both.2⟩

theorem succeeds_map {first : Except Failure α} (transform : α → β) :
    Succeeds (first >>= fun value => .ok (transform value)) ↔ Succeeds first := by
  have independent : ∀ value, Succeeds (.ok (transform value) : Except Failure β) ↔ True :=
    fun value => ⟨fun _ => trivial, fun _ => ⟨transform value, rfl⟩⟩
  exact (succeeds_bind independent).trans (and_iff_left trivial)

def FailsOnly (ways : Failure → Prop) (result : Except Failure α) : Prop :=
  ∀ failure, result = .error failure → ways failure

namespace FailsOnly

variable {ways : Failure → Prop}

theorem ok (value : α) : FailsOnly ways (.ok value : Except Failure α) := by
  intro failure fails
  cases fails

theorem error {failure : Failure} (way : ways failure) :
    FailsOnly ways (.error failure : Except Failure α) := by
  intro other fails
  cases fails
  exact way

theorem bind {first : Except Failure α} {next : α → Except Failure β}
    (fails : FailsOnly ways first) (later : ∀ value, FailsOnly ways (next value)) :
    FailsOnly ways (first >>= next) := by
  intro failure failed
  cases first with
  | error earlier =>
      cases failed
      exact fails _ rfl
  | ok value => exact later value failure failed

theorem eq_error {result : Except Failure α} (fails : FailsOnly ways result)
    (unsuccessful : ¬ Succeeds result) : ∃ failure, result = .error failure ∧ ways failure := by
  cases result with
  | error failure => exact ⟨failure, rfl, fails failure rfl⟩
  | ok value => exact absurd ⟨value, rfl⟩ unsuccessful

end FailsOnly

end TransactionService.Fallible
