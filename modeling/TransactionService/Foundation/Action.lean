namespace TransactionService

/-! # Request handlers as logged computations

A handler calls other components, may write the record it is about, and returns
a value or fails. Everything it did before a failure stays done. -/

/-- The calls made so far in order, the record last written, and the result. -/
structure Action (Call Record Failure : Type) (α : Type) where
  calls : List Call := []
  saved : Option Record := none
  result : Except Failure α

namespace Action

variable {Call Record Failure : Type} {α β : Type}

protected def pure (value : α) : Action Call Record Failure α :=
  { result := .ok value }

protected def bind (action : Action Call Record Failure α)
    (next : α → Action Call Record Failure β) : Action Call Record Failure β :=
  match action.result with
  | .error failure =>
      { calls := action.calls, saved := action.saved, result := .error failure }
  | .ok value =>
      { calls := action.calls ++ (next value).calls
        saved := (next value).saved.or action.saved
        result := (next value).result }

instance : Monad (Action Call Record Failure) where
  pure := Action.pure
  bind := Action.bind

def fail (failure : Failure) : Action Call Record Failure α :=
  { result := .error failure }

/-- Make one call whose answer is `answer`. -/
def perform (call : Call) (answer : Except Failure α) : Action Call Record Failure α :=
  { calls := [call], result := answer }

def save (record : Record) : Action Call Record Failure Unit :=
  { saved := some record, result := .ok () }

def logged (calls : List Call) : Action Call Record Failure Unit :=
  { calls, result := .ok () }

def ofExcept (result : Except Failure α) : Action Call Record Failure α :=
  { result }

def recover (action : Action Call Record Failure α) (handler : Failure → Option α) :
    Action Call Record Failure α :=
  { action with
    result :=
      match action.result with
      | .ok value => .ok value
      | .error failure =>
          match handler failure with
          | some value => .ok value
          | none => .error failure }

@[simp] theorem recover_calls (action : Action Call Record Failure α)
    (handler : Failure → Option α) : (action.recover handler).calls = action.calls :=
  rfl

@[simp] theorem recover_saved (action : Action Call Record Failure α)
    (handler : Failure → Option α) : (action.recover handler).saved = action.saved :=
  rfl

@[simp] theorem pure_eq (value : α) :
    (Pure.pure value : Action Call Record Failure α) = { result := .ok value } :=
  rfl

theorem bind_ok {action : Action Call Record Failure α} {value : α}
    (succeeds : action.result = .ok value) (next : α → Action Call Record Failure β) :
    (action >>= next) =
      { calls := action.calls ++ (next value).calls
        saved := (next value).saved.or action.saved
        result := (next value).result } := by
  simp only [Bind.bind, Action.bind, succeeds]

theorem bind_error {action : Action Call Record Failure α} {failure : Failure}
    (fails : action.result = .error failure)
    (next : α → Action Call Record Failure β) :
    (action >>= next) =
      { calls := action.calls, saved := action.saved, result := .error failure } := by
  simp only [Bind.bind, Action.bind, fails]

@[simp] theorem perform_error_bind (call : Call) (failure : Failure)
    (next : α → Action Call Record Failure β) :
    (perform call (.error failure) >>= next) =
      { calls := [call], result := .error failure } :=
  rfl

@[simp] theorem perform_ok_bind (call : Call) (value : α)
    (next : α → Action Call Record Failure β) :
    (perform call (.ok value) >>= next) =
      { calls := call :: (next value).calls
        saved := (next value).saved
        result := (next value).result } := by
  simp [Bind.bind, Action.bind, perform]

@[simp] theorem ofExcept_ok_bind (value : α) (next : α → Action Call Record Failure β) :
    (ofExcept (.ok value) >>= next) = next value := by
  simp [Bind.bind, Action.bind, ofExcept]

@[simp] theorem ofExcept_error_bind (failure : Failure)
    (next : α → Action Call Record Failure β) :
    (ofExcept (.error failure) >>= next) = fail failure :=
  rfl

/-! ## Taking a sequence apart -/

theorem result_bind {action : Action Call Record Failure α}
    {next : α → Action Call Record Failure β} {value : β}
    (succeeds : (action >>= next).result = .ok value) :
    ∃ middle, action.result = .ok middle ∧ (next middle).result = .ok value := by
  cases answer : action.result with
  | error failure =>
      rw [bind_error answer] at succeeds
      cases succeeds
  | ok middle =>
      rw [bind_ok answer] at succeeds
      exact ⟨middle, rfl, succeeds⟩

theorem mem_calls_bind {action : Action Call Record Failure α}
    {next : α → Action Call Record Failure β} {call : Call} :
    call ∈ (action >>= next).calls ↔
      call ∈ action.calls ∨
        ∃ middle, action.result = .ok middle ∧ call ∈ (next middle).calls := by
  cases answer : action.result with
  | error failure =>
      rw [bind_error answer]
      simp
  | ok middle =>
      rw [bind_ok answer]
      simp

theorem saved_bind {action : Action Call Record Failure α}
    {next : α → Action Call Record Failure β} {record : Record}
    (writes : (action >>= next).saved = some record) :
    action.saved = some record ∨
      ∃ middle, action.result = .ok middle ∧ (next middle).saved = some record := by
  cases answer : action.result with
  | error failure =>
      rw [bind_error answer] at writes
      exact Or.inl writes
  | ok middle =>
      rw [bind_ok answer] at writes
      rcases Option.or_eq_some_iff.mp writes with later | ⟨_, earlier⟩
      · exact Or.inr ⟨middle, rfl, later⟩
      · exact Or.inl earlier

@[simp] theorem saved_map (transform : α → β) (action : Action Call Record Failure α) :
    (transform <$> action).saved = action.saved := by
  cases answer : action.result with
  | error failure => simp [Functor.map, Action.bind, answer]
  | ok value => simp [Functor.map, Action.bind, answer, Action.pure]

@[simp] theorem calls_map (transform : α → β) (action : Action Call Record Failure α) :
    (transform <$> action).calls = action.calls := by
  cases answer : action.result with
  | error failure => simp [Functor.map, Action.bind, answer]
  | ok value => simp [Functor.map, Action.bind, answer, Action.pure]

theorem result_map {transform : α → β} {action : Action Call Record Failure α} {value : β}
    (succeeds : (transform <$> action).result = .ok value) :
    ∃ middle, action.result = .ok middle ∧ transform middle = value := by
  rcases result_bind succeeds with ⟨middle, answer, same⟩
  exact ⟨middle, answer, Except.ok.inj same⟩

theorem map_ok {action : Action Call Record Failure α} {value : α}
    (succeeds : action.result = .ok value) (transform : α → β) :
    (transform <$> action).result = .ok (transform value) := by
  have isBind : (transform <$> action) = action >>= fun value => pure (transform value) := rfl
  rw [isBind, bind_ok succeeds, pure_eq]

theorem saved_bind_of_none {action : Action Call Record Failure α}
    {next : α → Action Call Record Failure β} {record : Record}
    (silent : action.saved = none) (writes : (action >>= next).saved = some record) :
    ∃ middle, action.result = .ok middle ∧ (next middle).saved = some record := by
  rcases saved_bind writes with earlier | later
  · rw [silent] at earlier
    cases earlier
  · exact later

theorem saved_bind_eq_none {action : Action Call Record Failure α}
    {next : α → Action Call Record Failure β} (silent : action.saved = none)
    (nextSilent : ∀ value, (next value).saved = none) : (action >>= next).saved = none := by
  cases answer : action.result with
  | error failure => rw [bind_error answer, silent]
  | ok value => simp [bind_ok answer, silent, nextSilent value]

theorem save_then (record : Record) (found : Except Failure α) (answer : α → β) :
    ((save record : Action Call Record Failure Unit) >>= fun _ =>
      ofExcept found >>= fun value => Pure.pure (answer value)) =
      { saved := some record, result := answer <$> found } := by
  cases found <;> rfl

/-! ## What is written is kept

A computation that can still fail after its write leaves the write behind. -/

/-- Whatever has been written, the result is an acceptable value. -/
def Kept (accepts : α → Prop) (action : Action Call Record Failure α) : Prop :=
  ∀ record, action.saved = some record →
    ∃ value, action.result = .ok value ∧ accepts value

namespace Kept

variable {accepts : α → Prop} {acceptsLater : β → Prop}
  {action : Action Call Record Failure α} {next : α → Action Call Record Failure β}

theorem of_silent (silent : action.saved = none) : Kept accepts action := by
  intro record writes
  rw [silent] at writes
  cases writes

theorem mono {weaker : α → Prop} (kept : Kept accepts action)
    (implies : ∀ value, accepts value → weaker value) : Kept weaker action := by
  intro record writes
  rcases kept record writes with ⟨value, result, accepted⟩
  exact ⟨value, result, implies value accepted⟩

theorem bind_silent (silent : action.saved = none)
    (later : ∀ value, action.result = .ok value → Kept acceptsLater (next value)) :
    Kept acceptsLater (action >>= next) := by
  intro record writes
  rcases saved_bind_of_none silent writes with ⟨value, answer, written⟩
  rw [bind_ok answer]
  exact later value answer record written

theorem bind (kept : Kept (fun value => ∃ result,
      (next value).result = .ok result ∧ acceptsLater result) action)
    (later : ∀ value, action.result = .ok value → Kept acceptsLater (next value)) :
    Kept acceptsLater (action >>= next) := by
  intro record writes
  rcases saved_bind writes with earlier | ⟨value, answer, written⟩
  · rcases kept record earlier with ⟨value, answer, result, succeeds, accepted⟩
    rw [bind_ok answer]
    exact ⟨result, succeeds, accepted⟩
  · rw [bind_ok answer]
    exact later value answer record written

theorem map {transform : α → β} (kept : Kept (fun value => acceptsLater (transform value))
    action) : Kept acceptsLater (transform <$> action) := by
  intro record writes
  rw [saved_map] at writes
  rcases kept record writes with ⟨value, answer, accepted⟩
  refine ⟨transform value, ?_, accepted⟩
  have mapped : transform <$> action = action >>= fun value => Pure.pure (transform value) :=
    rfl
  rw [mapped, bind_ok answer]
  rfl

theorem recover (kept : Kept accepts action) (handler : Failure → Option α) :
    Kept accepts (action.recover handler) := by
  intro record writes
  rcases kept record writes with ⟨value, answer, accepted⟩
  refine ⟨value, ?_, accepted⟩
  simp only [Action.recover, answer]

end Kept

/-! ## What is called -/

structure CallsOnly (allowed : Call → Prop) (action : Action Call Record Failure α) :
    Prop where
  made : ∀ call ∈ action.calls, allowed call

namespace CallsOnly

variable {allowed : Call → Prop} {action : Action Call Record Failure α}
  {next : α → Action Call Record Failure β}

theorem of_silent (silent : action.calls = []) : CallsOnly allowed action := by
  constructor
  intro call made
  rw [silent] at made
  cases made

theorem value (result : α) :
    CallsOnly allowed (Pure.pure result : Action Call Record Failure α) :=
  of_silent rfl

theorem fail (failure : Failure) :
    CallsOnly allowed (Action.fail failure : Action Call Record Failure α) :=
  of_silent rfl

theorem ofExcept (result : Except Failure α) :
    CallsOnly allowed (Action.ofExcept result : Action Call Record Failure α) :=
  of_silent rfl

theorem perform {call : Call} (answer : Except Failure α) (isAllowed : allowed call) :
    CallsOnly allowed (Action.perform call answer : Action Call Record Failure α) := by
  constructor
  intro other made
  cases List.mem_singleton.mp made
  exact isAllowed

theorem bind (first : CallsOnly allowed action)
    (later : ∀ value, action.result = .ok value → CallsOnly allowed (next value)) :
    CallsOnly allowed (action >>= next) := by
  constructor
  intro call made
  rcases mem_calls_bind.mp made with earlier | ⟨value, answer, afterwards⟩
  · exact first.made call earlier
  · exact (later value answer).made call afterwards

theorem after {first : Except Failure α}
    (later : ∀ value, first = .ok value → CallsOnly allowed (next value)) :
    CallsOnly allowed (Action.ofExcept first >>= next) :=
  bind (ofExcept first) later

theorem map (only : CallsOnly allowed action) (transform : α → β) :
    CallsOnly allowed (transform <$> action) := by
  constructor
  rw [calls_map]
  exact only.made

theorem recover (only : CallsOnly allowed action) (handler : Failure → Option α) :
    CallsOnly allowed (action.recover handler) :=
  ⟨only.made⟩

theorem mono {weaker : Call → Prop} (only : CallsOnly allowed action)
    (implies : ∀ call, allowed call → weaker call) : CallsOnly weaker action :=
  ⟨fun call made => implies call (only.made call made)⟩

end CallsOnly

/-! ## Two computations side by side -/

inductive ResultsRelated (values : α → β → Prop) :
    Except Failure α → Except Failure β → Prop
  | ok {left : α} {right : β} (same : values left right) :
      ResultsRelated values (.ok left) (.ok right)
  | error (failure : Failure) : ResultsRelated values (.error failure) (.error failure)

structure Related (records : Record → Record → Prop) (values : α → β → Prop)
    (left : Action Call Record Failure α) (right : Action Call Record Failure β) :
    Prop where
  calls : left.calls = right.calls
  saved : Option.Rel records left.saved right.saved
  result : ResultsRelated values left.result right.result

namespace Related

variable {γ δ : Type} {records : Record → Record → Prop} {values : α → β → Prop}
  {outcomes : γ → δ → Prop}

theorem silent {action : Action Call Record Failure α} (writes : action.saved = none) :
    Related records Eq action action where
  calls := rfl
  saved := by
    rw [writes]
    exact .none
  result := by
    cases action.result with
    | ok value => exact .ok rfl
    | error failure => exact .error failure

theorem pure {left : α} {right : β} (same : values left right) :
    Related records values (Pure.pure left : Action Call Record Failure α)
      (Pure.pure right : Action Call Record Failure β) :=
  ⟨rfl, .none, .ok same⟩

theorem fail (failure : Failure) :
    Related records values (Action.fail failure : Action Call Record Failure α)
      (Action.fail failure : Action Call Record Failure β) :=
  ⟨rfl, .none, .error failure⟩

theorem bind {left : Action Call Record Failure α} {right : Action Call Record Failure β}
    {leftNext : α → Action Call Record Failure γ}
    {rightNext : β → Action Call Record Failure δ}
    (first : Related records values left right)
    (next : ∀ leftValue rightValue, values leftValue rightValue →
      Related records outcomes (leftNext leftValue) (rightNext rightValue)) :
    Related records outcomes (left >>= leftNext) (right >>= rightNext) := by
  rcases first with ⟨calls, saved, result⟩
  generalize leftResult : left.result = leftOutcome at result
  generalize rightResult : right.result = rightOutcome at result
  cases result with
  | error failure =>
      rw [bind_error leftResult, bind_error rightResult]
      exact ⟨calls, saved, .error failure⟩
  | ok same =>
      rename_i leftValue rightValue
      rcases next leftValue rightValue same with ⟨laterCalls, laterSaved, laterResult⟩
      rw [bind_ok leftResult, bind_ok rightResult]
      refine ⟨by rw [calls, laterCalls], ?_, laterResult⟩
      generalize (leftNext leftValue).saved = leftSaved at laterSaved ⊢
      generalize (rightNext rightValue).saved = rightSaved at laterSaved ⊢
      cases laterSaved with
      | none => exact saved
      | some written => exact .some written

end Related

end Action

end TransactionService
