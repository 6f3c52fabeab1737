import TransactionService.World.Pipeline

namespace TransactionService.Pipeline

open SharedStore SingleUse Sessions

/-! # The pipeline drains

Left alone, the queue and the worker stop after boundedly many steps, and then no
task is queued or running. -/

def IsInternal : Label → Prop
  | .client _ => False
  | .settle .thrown => False
  | _ => True

def callWork (store : ExchangeSystem) : Nat :=
  match store.sessions workerSession with
  | none => 7
  | some working =>
      2 * working.writes.length + (if working.checked.isSome then 1 else 2)

def workLeft (service : Service) : Nat :=
  10 * service.owed.length + 8 * service.queue.queue.length +
    service.queue.scheduled.length +
    (if service.queue.awaiting.isEmpty then 0 else callWork service.store)

variable {runtime : Runtime} {config : Config} {service next : Service}
  {store after : ExchangeSystem}

private theorem undisturbed_of_isInternal {label : Label} (internal : IsInternal label)
    (service : Service) : Undisturbed service label := by
  match label with
  | .client _ => cases internal
  | .settle .thrown => cases internal
  | .settle .resolved => trivial
  | .enqueue _ => trivial
  | .callback _ => trivial
  | .load _ => trivial
  | .compare => trivial
  | .swap => trivial

private theorem callWork_pos (store : ExchangeSystem) : 0 < callWork store := by
  unfold callWork
  split
  · omega
  · split <;> omega

theorem callWork_idle (idle : store.sessions workerSession = none) : callWork store = 7 := by
  simp only [callWork, idle]

theorem callWork_found {working : ExchangeSession}
    (found : store.sessions workerSession = some working) :
    callWork store =
      2 * working.writes.length + (if working.checked.isSome then 1 else 2) := by
  simp only [callWork, found]

theorem callWork_moved {system : ExchangeSystem} (working : ExchangeSession) :
    callWork (system.move workerSession working) =
      2 * working.writes.length + (if working.checked.isSome then 1 else 2) := by
  have found : Function.update system.sessions workerSession (some working) workerSession =
      some working := Function.update_self ..
  simp only [callWork, System.move, found]

private theorem workerWrites_length {answers : Answers} {exchangeId : String} {loaded : Exchange} :
    (workerWrites runtime config answers exchangeId loaded).length ≤ 2 := by
  unfold workerWrites
  split
  · exact Nat.zero_le _
  · exact Nat.le_refl _

/-! ## Every internal step uses up work -/

theorem advance_uses {state after : VerifyTaskQueue.Queue Processor}
    (isAfter : (VerifyTaskQueue.drainLoop state state.generation).1 = after)
    (noneAwaiting : state.awaiting = [])
    (idle : store.sessions workerSession = none) :
    8 * after.queue.length + after.scheduled.length +
      (if after.awaiting.isEmpty then 0 else callWork store) ≤
    8 * state.queue.length + state.scheduled.length := by
  rcases (drainLoop_advances isAfter).2 with
    ⟨empty, isEmpty, isAwaiting, isScheduled⟩ |
      ⟨exchangeId, rest, isList, isRest, isAwaiting, isScheduled⟩
  · rw [isEmpty, isAwaiting, isScheduled, noneAwaiting, empty]
    simp
  · rw [isRest, isAwaiting, isScheduled, noneAwaiting, isList, callWork_idle idle]
    simp only [List.nil_append, List.isEmpty_cons, Bool.false_eq_true, if_false,
      List.length_cons]
    omega

private theorem load_uses {exchangeId : String} {answers : Answers}
    (stepped : sessionStep runtime config store
      (.load workerSession exchangeId (.work answers)) = some after)
    (idle : store.sessions workerSession = none) : callWork after < callWork store := by
  rcases step_load stepped with ⟨loaded, -, rfl⟩
  have planned := @workerWrites_length runtime config answers exchangeId loaded
  rw [callWork_moved, callWork_idle idle]
  change 2 * (workerWrites runtime config answers exchangeId loaded).length + 2 < 7
  omega

private theorem compare_uses (unchecked : isUnchecked store = true)
    (stepped : sessionStep runtime config store (.compare workerSession) = some after) :
    callWork after < callWork store := by
  rcases step_compare_cases stepped with
    ⟨working, key, expected, update, rest, found, isNext, outcome⟩
  have isUnchecked : working.checked.isSome = false := by
    simpa [isUnchecked, found] using unchecked
  rw [callWork_found found, isUnchecked, isNext]
  rcases outcome with ⟨current, -, -, rfl⟩ | ⟨-, rfl⟩
  · rw [callWork_moved, isNext]
    simp
  · rw [callWork_moved]
    simp [Session.proceed]

private theorem swap_uses
    (stepped : sessionStep runtime config store (.swap workerSession) = some after) :
    callWork after < callWork store := by
  rcases step_swap stepped with
    ⟨working, key, expected, update, rest, current, found, isNext, isChecked, rfl⟩
  rw [callWork_found found, isChecked, isNext, callWork_moved]
  simp only [Session.proceed, List.length_cons, Option.isSome_none, Option.isSome_some,
    Bool.false_eq_true, if_false, if_true]
  omega

theorem call_uses (holds : Holds runtime config service) {working : ExchangeSession}
    (found : service.store.sessions workerSession = some working)
    (uses : callWork after < callWork service.store) :
    workLeft { service with store := after } < workLeft service := by
  rcases holds.worker working found with ⟨drainer, answers, isAwaiting, -, -⟩
  simpa [workLeft, isAwaiting] using uses

theorem step_uses {label : Label} (holds : Holds runtime config service)
    (internal : IsInternal label) (stepped : step runtime config service label = some next) :
    workLeft next < workLeft service := by
  cases label with
  | client label => cases internal
  | enqueue position =>
      simp only [step] at stepped
      split at stepped
      · cases stepped
      · rename_i exchangeId found
        rcases Option.map_eq_some_iff.mp stepped with ⟨queue, moved, rfl⟩
        cases moved
        rcases List.getElem?_eq_some_iff.mp found with ⟨inside, -⟩
        have shorter := List.length_eraseIdx_of_lt inside
        unfold workLeft
        dsimp only
        rw [shorter]
        unfold VerifyTaskQueue.enqueueVerifyTask
        split <;> simp only [List.length_append, List.length_singleton] <;> omega
  | callback position =>
      rcases Option.map_eq_some_iff.mp stepped with ⟨queue, moved, rfl⟩
      rcases callback_advances holds moved with ⟨inside, noneAwaiting, advances⟩
      have uses := advance_uses advances.isQueue advances.noneAwaiting
        (holds.idle noneAwaiting)
      have shorter := List.length_eraseIdx_of_lt inside
      dsimp only at uses
      unfold workLeft
      dsimp only
      omega
  | load answers =>
      simp only [step] at stepped
      split at stepped
      · cases stepped
      · rename_i drainer others isAwaiting
        rcases Option.map_eq_some_iff.mp stepped with ⟨store, moved, rfl⟩
        have uses := load_uses moved (step_load_free moved)
        simpa [workLeft, isAwaiting] using uses
  | compare =>
      simp only [step] at stepped
      split at stepped
      · rename_i unchecked
        rcases Option.map_eq_some_iff.mp stepped with ⟨store, moved, rfl⟩
        rcases step_compare_cases moved with ⟨working, _, _, _, _, found, -, -⟩
        exact call_uses holds found (compare_uses unchecked moved)
      · cases stepped
  | swap =>
      rcases Option.map_eq_some_iff.mp stepped with ⟨store, moved, rfl⟩
      rcases step_swap moved with ⟨working, _, _, _, _, _, found, -, -, -⟩
      exact call_uses holds found (swap_uses moved)
  | settle settled =>
      simp only [step] at stepped
      split at stepped
      · rename_i drainer others isAwaiting
        split at stepped
        · rcases settle_advances holds isAwaiting stepped with ⟨queue, rfl, advances⟩
          have idle : Function.update service.store.sessions workerSession none workerSession =
              none := Function.update_self ..
          have uses := @advance_uses { service.store with
            sessions := Function.update service.store.sessions workerSession none } _ _
              advances.isQueue advances.noneAwaiting idle
          have some := callWork_pos service.store
          dsimp only at uses
          unfold workLeft
          rw [isAwaiting]
          dsimp only [List.isEmpty_cons]
          simp only [Bool.false_eq_true, if_false]
          omega
        · cases stepped
      · cases internal
      · cases stepped

theorem usesUp : Machine.UsesUp (step runtime config) (Holds runtime config) IsInternal
    workLeft := by
  intro service label next holds internal stepped
  exact ⟨step_holds holds (undisturbed_of_isInternal internal service) stepped,
    step_uses holds internal stepped⟩

/-! ## Only an idle pipeline is stuck -/

private theorem enqueue_enabled {position : Nat} {exchangeId : String}
    (found : service.owed[position]? = some exchangeId) :
    (step runtime config service (.enqueue position)).isSome = true := by
  simp only [step, found]
  rfl

private theorem callback_enabled {position myGeneration : Nat}
    (found : service.queue.scheduled[position]? = some myGeneration) :
    (step runtime config service (.callback position)).isSome = true := by
  simp only [step, VerifyTaskQueue.step, found]
  rfl

theorem settle_enabled {drainer : VerifyTaskQueue.Drainer}
    {others : List VerifyTaskQueue.Drainer}
    (isAwaiting : service.queue.awaiting = drainer :: others)
    (returned : returns service.store drainer.processing = true) :
    (step runtime config service (.settle .resolved)).isSome = true := by
  simp only [step, isAwaiting, returned, if_true, step.finish, VerifyTaskQueue.step]
  rfl

private theorem call_enabled (holds : Holds runtime config service)
    {drainer : VerifyTaskQueue.Drainer} {others : List VerifyTaskQueue.Drainer}
    (isAwaiting : service.queue.awaiting = drainer :: others) :
    ∃ label, IsInternal label ∧ (step runtime config service label).isSome = true := by
  cases found : service.store.sessions workerSession with
  | none =>
      cases isStored : service.store.stored drainer.processing with
      | none =>
          refine ⟨.settle .resolved, trivial, settle_enabled isAwaiting ?_⟩
          simp only [returns, found, isStored]
          rfl
      | some loaded =>
          refine ⟨.load Answers.plain, trivial, ?_⟩
          simp only [step, isAwaiting, sessionStep, SharedStore.step, found, isStored]
          rfl
  | some working =>
      rcases worker_planned holds found with ⟨_, answers, -, -, -, planned⟩
      cases isNext : working.writes with
      | nil =>
          refine ⟨.settle .resolved, trivial, settle_enabled isAwaiting ?_⟩
          simp only [returns, found, isNext]
          rfl
      | cons write rest =>
          have guarded : ∃ key expected update, write = .guarded key expected update := by
            have member := planned.subset (isNext ▸ List.mem_cons_self)
            unfold workerWrites at member
            split at member
            · cases member
            · rcases List.mem_cons.mp member with rfl | last
              · exact ⟨_, _, _, rfl⟩
              · exact ⟨_, _, _, List.mem_singleton.mp last⟩
          rcases guarded with ⟨key, expected, update, rfl⟩
          have isPending := System.pending_of found isNext
          cases isChecked : working.checked with
          | none =>
              refine ⟨.compare, trivial, ?_⟩
              simp only [step, isUnchecked, found, Option.any_some, isChecked,
                Option.isNone_none, if_true, sessionStep, SharedStore.step, isPending]
              rfl
          | some current =>
              refine ⟨.swap, trivial, ?_⟩
              simp only [step, sessionStep, SharedStore.step, isPending, isChecked]
              rfl

private theorem quiescent_of_stuck (holds : Holds runtime config service)
    (stuck : Machine.Stuck (step runtime config) IsInternal service) : Quiescent service := by
  have disabled : ∀ label, IsInternal label →
      (step runtime config service label).isSome = true → False := by
    intro label internal enabled
    rw [stuck label internal] at enabled
    cases enabled
  refine ⟨?_, ?_⟩
  · cases isOwed : service.owed with
    | nil => rfl
    | cons exchangeId rest =>
        have found : service.owed[0]? = some exchangeId := by rw [isOwed]; rfl
        exact absurd (enqueue_enabled found) (disabled (.enqueue 0) trivial)
  · rintro (scheduled | ⟨drainer, member, -⟩)
    · rcases List.mem_iff_getElem?.mp scheduled with ⟨position, found⟩
      exact disabled (.callback position) trivial (callback_enabled found)
    · cases isAwaiting : service.queue.awaiting with
      | nil =>
          rw [isAwaiting] at member
          cases member
      | cons first others =>
          rcases call_enabled holds isAwaiting with ⟨label, internal, enabled⟩
          exact disabled label internal enabled

/-- From wherever a run has got to: the queue and the worker, left alone, take at
most `workLeft` steps, can always finish, and when they have finished no task is
queued or running. -/
theorem pipeline_drains {labels : List Label}
    (undisturbed : Machine.Along (step runtime config) Undisturbed start labels)
    (runs : Machine.run (step runtime config) start labels = some service) :
    (∀ later final, (∀ label ∈ later, IsInternal label) →
      Machine.run (step runtime config) service later = some final →
      later.length ≤ workLeft service ∧
        (Machine.Stuck (step runtime config) IsInternal final →
          ∀ exchangeId attemptId, ¬ StoredPending final.store exchangeId attemptId)) ∧
    ∃ later final, (∀ label ∈ later, IsInternal label) ∧
      Machine.run (step runtime config) service later = some final ∧
      Machine.Stuck (step runtime config) IsInternal final := by
  have holds := holds_of_run undisturbed runs
  refine ⟨?_, usesUp.exists_stuck holds⟩
  intro later final internals continues
  rcases usesUp.run holds internals continues with ⟨finalHolds, bound⟩
  exact ⟨Nat.le_of_add_left_le bound,
    fun stuck => finalHolds.quiescent (quiescent_of_stuck finalHolds stuck)⟩

theorem pipeline_drains_badge :
    ∃ service, Machine.run (step Finality.badgeRuntime {}) start badgeSubmitted =
        some service ∧
      ∃ later final, (∀ label ∈ later, IsInternal label) ∧
        Machine.run (step Finality.badgeRuntime {}) service later = some final ∧
        Machine.Stuck (step Finality.badgeRuntime {}) IsInternal final := by
  have ran : ∃ service, Machine.run (step Finality.badgeRuntime {}) start badgeSubmitted =
      some service := ⟨_, rfl⟩
  rcases ran with ⟨service, runs⟩
  exact ⟨service, runs, (pipeline_drains badgeSubmitted_undisturbed runs).2⟩

end TransactionService.Pipeline
