import TransactionService.World.Enqueues
import TransactionService.World.Finality

namespace TransactionService.WorkBound

open Enqueues World

/-! # How often the worker runs

Duplicate work is bounded: an exchange is handed to the worker no more often than
the attempts allow for each submission that queues a task. -/

section

variable (runtime : Runtime) (config : Config) (exchangeId : String)

def handsOver (world : World) : Event → Bool
  | .work _ => decide (world.queue.head? = some exchangeId)
  | _ => false

def queuesTask (world : World) : Event → Bool
  | .request requested workflowId endpoint answers =>
      decide (requested = exchangeId) && endpoint.takesPresentation &&
        !(enqueuedIds (serve runtime config answers workflowId endpoint
          (world.slots requested).record).calls).isEmpty
  | _ => false

def stepsWith (counted : World → Event → Bool) : World → List Event → Nat
  | _, [] => 0
  | world, event :: rest =>
      (if counted world event then 1 else 0) +
        match step runtime config world event with
        | none => 0
        | some next => stepsWith counted next rest

def attemptsAllowed : Nat :=
  max 1 config.verifyTaskMaxAttempts.toNat

/-! ## The work that is left -/

def retriesLeft (task : VerifyTask) : Nat :=
  if task.status.isTerminal then 0 else (task.maxAttempts - task.attempt).toNat

def slotRetries (slot : Slot) : Nat :=
  ((slot.record.bind Exchange.verifyTask).map retriesLeft).getD 0

/-- The times that the exchange waits, and the retries that may follow. -/
def workLeft (world : World) : Nat :=
  world.queue.count exchangeId + slotRetries (world.slots exchangeId)

end

/-! ## What one writer adds -/

variable {runtime : Runtime} {config : Config} {exchangeId : String}

def exchangeRetries (exchange : Exchange) : Nat :=
  (exchange.verifyTask.map retriesLeft).getD 0

theorem slotRetries_stored (exchange : Exchange) :
    slotRetries (.stored exchange) = exchangeRetries exchange :=
  rfl

private theorem exchangeRetries_congr {left right : Exchange}
    (same : left.verifyTask = right.verifyTask) :
    exchangeRetries left = exchangeRetries right := by
  unfold exchangeRetries
  rw [same]

theorem retriesLeft_unsettled {task : VerifyTask} (unsettled : task.status.isTerminal = false) :
    retriesLeft task = (task.maxAttempts - task.attempt).toNat := by
  simp [retriesLeft, unsettled]

private theorem not_isTerminal_of_isPending {status : VerifyTaskStatus}
    (pending : status.isPending = true) : status.isTerminal = false := by
  cases status <;> first | rfl | cases pending

private theorem retriesLeft_bumpAttempt {task : VerifyTask} (pending : task.status.isPending = true)
    (again : task.attempt < task.maxAttempts) (now : Timestamp) (attemptId : String)
    (deadlineMs : Int) :
    retriesLeft (bumpAttempt now attemptId task deadlineMs) + 1 = retriesLeft task := by
  rw [retriesLeft_unsettled (not_isTerminal_of_isPending pending), retriesLeft_unsettled rfl]
  dsimp only [bumpAttempt]
  omega

private theorem retriesLeft_newVerifyTask (config : Config) (now : Timestamp) (attemptId : String)
    (indices : List Nat) :
    retriesLeft (newVerifyTask now attemptId indices config.verifyTaskDeadlineMs
      config.verifyTaskMaxAttempts) + 1 = attemptsAllowed config := by
  rw [retriesLeft_unsettled rfl]
  dsimp only [newVerifyTask]
  unfold attemptsAllowed
  omega

private theorem effect_bound {answers : Answers} {endpoint : Endpoint} {loaded : Exchange}
    {saved : Option Exchange} {ids : List String}
    (effect : TaskEffect config answers endpoint loaded saved ids) :
    ids.length + exchangeRetries (saved.getD loaded) ≤ exchangeRetries loaded +
      attemptsAllowed config * (if endpoint.takesPresentation && !ids.isEmpty then 1 else 0) := by
  cases effect with
  | unwritten => exact Nat.le_of_eq (by simp)
  | kept same => simp [exchangeRetries_congr same]
  | gaveUp sweeps found hasTask pending spent => simp [exchangeRetries, Exchange.verifyTask,
      gaveUpExchange, retriesLeft, markGaveUp, VerifyTaskStatus.isTerminal]
  | @retried detail task sweeps found hasTask pending again =>
      subst found
      have less := retriesLeft_bumpAttempt pending again (answers.clock 1)
        (answers.randomUUID 0) config.verifyTaskDeadlineMs
      have before : exchangeRetries (.verify detail) = retriesLeft task := by
        simp [exchangeRetries, Exchange.verifyTask, hasTask]
      have after : exchangeRetries (.verify (withVerifyTask detail (bumpAttempt
          (answers.clock 1) (answers.randomUUID 0) task config.verifyTaskDeadlineMs))) =
          retriesLeft (bumpAttempt (answers.clock 1) (answers.randomUUID 0) task
            config.verifyTaskDeadlineMs) := rfl
      rw [Option.getD_some, before, after, List.length_singleton]
      omega
  | @queued detail next indices takes found hasTask =>
      have allowed := retriesLeft_newVerifyTask config (answers.clock 0)
        (answers.randomUUID 0) indices
      have after : exchangeRetries (.verify next) = retriesLeft (newVerifyTask
          (answers.clock 0) (answers.randomUUID 0) indices config.verifyTaskDeadlineMs
          config.verifyTaskMaxAttempts) := by
        simp [exchangeRetries, Exchange.verifyTask, hasTask]
      rw [Option.getD_some, after, takes, List.length_singleton]
      simp only [List.isEmpty_cons, Bool.not_false, Bool.and_self, if_true, Nat.mul_one]
      omega

private theorem effect_ids {answers : Answers} {endpoint : Endpoint} {loaded : Exchange}
    {saved : Option Exchange} {ids : List String}
    (effect : TaskEffect config answers endpoint loaded saved ids) :
    ids = [] ∨ ids = [loaded.exchangeId] := by
  cases effect with
  | unwritten => exact .inl rfl
  | kept same => exact .inl rfl
  | gaveUp sweeps found hasTask pending spent => exact .inl rfl
  | retried sweeps found hasTask pending again => exact .inr rfl
  | queued indices takes found hasTask => exact .inr rfl

private theorem worker_bound {answers : Answers} {exchange : ExchangeDetailVerify}
    {task : VerifyTask}
    {after : Exchange} (hasTask : exchange.vars.verifyTask = some task)
    (unsettled : task.status.isTerminal = false)
    (stores : WorkerStores runtime config answers exchange task after) :
    exchangeRetries after ≤ exchangeRetries (.verify exchange) := by
  have before : exchangeRetries (.verify exchange) = retriesLeft task := by
    simp [exchangeRetries, Exchange.verifyTask, hasTask]
  rw [before, retriesLeft_unsettled unsettled]
  cases stores with
  | running => exact Nat.le_refl _
  | failed message => exact Nat.le_refl _
  | settled hasResults passed => exact Nat.zero_le _

/-! ## One step -/

variable {world next : World}

theorem after_queue {action : Handler α} :
    (world.after action).queue = world.queue ++ enqueuedIds action.calls := by
  cases saved : action.saved <;> simp only [after, saved, write]

theorem after_unsaved {action : Handler α} (unsaved : action.saved = none) :
    (world.after action).slots = world.slots := by
  simp only [after, unsaved, write]

/-- The retries under one id after a handler has written a record of another, or
of the same with no more retries than `bound`. -/
theorem slotRetries_after {action : Handler α} {owner : String} {loaded : Exchange}
    {added : Nat} (found : world.slots owner = .stored loaded)
    (writes : ∀ record, action.saved = some record → record.exchangeId = owner)
    (bound : exchangeRetries (action.saved.getD loaded) ≤ added) :
    slotRetries ((world.after action).slots exchangeId) ≤
      if exchangeId = owner then added else slotRetries (world.slots exchangeId) := by
  cases saved : action.saved with
  | none =>
      rw [after_unsaved saved]
      rw [saved, Option.getD_none] at bound
      split
      · rename_i same
        rw [same, found, slotRetries_stored]
        exact bound
      · exact Nat.le_refl _
  | some record =>
      rw [saved, Option.getD_some] at bound
      simp only [after, saved, write_slots, writes record saved]
      split
      · exact bound
      · exact Nat.le_refl _

private theorem request_bound (keyed : Keyed world) (requested workflowId : String)
    (endpoint : Endpoint) (answers : Answers) :
    workLeft exchangeId (world.after (serve runtime config answers workflowId endpoint
        (world.slots requested).record)) ≤
      workLeft exchangeId world + attemptsAllowed config *
        (if queuesTask runtime config exchangeId world
          (.request requested workflowId endpoint answers) then 1 else 0) := by
  unfold workLeft
  cases slot : (world.slots requested).record with
  | none =>
      rcases @serve_none runtime config answers workflowId endpoint with ⟨unsaved, quiet⟩
      rw [after_queue, quiet, List.append_nil, after_unsaved unsaved]
      exact Nat.le_add_right _ _
  | some loaded =>
      have found := slot_of_record slot
      have own := keyed requested loaded found
      have writes : ∀ record, (serve runtime config answers workflowId endpoint
          (some loaded)).saved = some record → record.exchangeId = requested := by
        intro record saved
        rcases serve_saved saved with ⟨exchange, isLoaded, change⟩
        cases isLoaded
        exact (change_exchangeId change).trans own
      have effect := @serve_affects runtime config answers endpoint loaded workflowId
      simp only [queuesTask, slot]
      generalize serve runtime config answers workflowId endpoint (some loaded) = action
        at effect writes ⊢
      rw [after_queue, List.count_append]
      have ids := effect_ids effect
      have bound := effect_bound effect
      have retries := @slotRetries_after exchangeId world _ action requested loaded _ found
        writes (Nat.le_refl _)
      by_cases same : requested = exchangeId
      · have counted := List.count_le_length (a := exchangeId) (l := enqueuedIds action.calls)
        rw [if_pos same.symm] at retries
        have before : slotRetries (world.slots exchangeId) = exchangeRetries loaded := by
          rw [← same, found, slotRetries_stored]
        simp only [same, decide_true, Bool.true_and]
        omega
      · have elsewhere : (enqueuedIds action.calls).count exchangeId = 0 := by
          rcases ids with none | one
          · rw [none, List.count_nil]
          · rw [one, own, List.count_singleton]
            simp [same]
        rw [if_neg (Ne.symm same)] at retries
        omega

private theorem work_bound (keyed : Keyed world) {head : String} {rest : List String}
    (waiting : world.queue = head :: rest) (answers : Answers) :
    (if head = exchangeId then 1 else 0) +
      workLeft exchangeId (({ world with queue := rest } : World).after
        (processVerifyTask runtime config answers (world.slots head).record)) ≤
      workLeft exchangeId world := by
  unfold workLeft
  have quiet := processVerifyTask_quiet runtime config answers (world.slots head).record
  rw [after_queue, quiet, List.append_nil, waiting, List.count_cons]
  have kept : slotRetries ((({ world with queue := rest } : World).after
      (processVerifyTask runtime config answers (world.slots head).record)).slots
        exchangeId) ≤ slotRetries (world.slots exchangeId) := by
    cases slot : (world.slots head).record with
    | none =>
        have unsaved : (processVerifyTask runtime config answers none).saved = none := rfl
        rw [after_unsaved unsaved]
    | some loaded =>
        have found : ({ world with queue := rest } : World).slots head = .stored loaded :=
          slot_of_record slot
        have writes : ∀ record, (processVerifyTask runtime config answers
            (some loaded)).saved = some record →
              record.exchangeId = head ∧ exchangeRetries record ≤ exchangeRetries loaded := by
          intro record saved
          rcases processVerifyTask_saved runtime config answers saved with
            ⟨exchange, task, isLoaded, hasTask, unsettled, stores⟩
          cases isLoaded
          exact ⟨(workerStores_exchangeId stores).trans (keyed head _ found),
            worker_bound hasTask unsettled stores⟩
        have bound : exchangeRetries ((processVerifyTask runtime config answers
            (some loaded)).saved.getD loaded) ≤ exchangeRetries loaded := by
          cases saved : (processVerifyTask runtime config answers (some loaded)).saved with
          | none => exact Nat.le_refl _
          | some record => exact (writes record saved).2
        have retries := @slotRetries_after exchangeId _ _ _ head loaded _ found
          (fun record saved => (writes record saved).1) bound
        split at retries
        · rename_i same
          rw [same, slot_of_record slot, slotRetries_stored, ← same]
          exact retries
        · exact retries
  simp only [beq_iff_eq]
  omega

theorem step_bound (keyed : Keyed world) {event : Event}
    (stepped : step runtime config world event = some next) :
    (if handsOver exchangeId world event then 1 else 0) + workLeft exchangeId next ≤
      workLeft exchangeId world +
        attemptsAllowed config * (if queuesTask runtime config exchangeId world event then 1
          else 0) := by
  cases event with
  | create data answers =>
      simp only [step] at stepped
      split at stepped
      · cases stepped
        have slots : slotRetries ((world.after (saveExchange answers
            (createExchange config answers data))).slots exchangeId) ≤
            slotRetries (world.slots exchangeId) := by
          cases saved : (saveExchange answers (createExchange config answers data)).saved with
          | none => rw [after_unsaved saved]
          | some record =>
              simp only [after, saved, write_slots, saveExchange_saved saved]
              split
              · simp [slotRetries_stored, exchangeRetries]
              · exact Nat.le_refl _
        have queue : (world.after (saveExchange answers
            (createExchange config answers data))).queue = world.queue := by
          rw [after_queue, Quiet.save, List.append_nil]
        simp only [handsOver, queuesTask, workLeft, queue]
        simpa using slots
      · cases stepped
  | expire expired =>
      simp only [step] at stepped
      split at stepped
      · cases stepped
        have slots : slotRetries (Function.update world.slots expired .evicted exchangeId) ≤
            slotRetries (world.slots exchangeId) := by
          rw [Function.update_apply]
          split
          · exact Nat.zero_le _
          · exact Nat.le_refl _
        simp only [handsOver, queuesTask, workLeft]
        simpa using slots
      · cases stepped
  | request requested workflowId endpoint answers =>
      cases stepped
      have bound := @request_bound runtime config exchangeId world keyed requested workflowId
        endpoint answers
      simpa [handsOver] using bound
  | work answers =>
      simp only [step] at stepped
      split at stepped
      · cases stepped
      · rename_i head rest waiting
        cases stepped
        have bound := @work_bound runtime config exchangeId world keyed head rest waiting answers
        simpa [handsOver, queuesTask, waiting] using bound

/-! ## Runs -/

theorem run_bound {events : List Event} {final : World} (keyed : Keyed world)
    (runs : Machine.run (step runtime config) world events = some final) :
    stepsWith runtime config (handsOver exchangeId) world events + workLeft exchangeId final ≤
      workLeft exchangeId world + attemptsAllowed config *
        stepsWith runtime config (queuesTask runtime config exchangeId) world events := by
  induction events generalizing world with
  | nil =>
      cases runs
      simp [stepsWith]
  | cons event rest induction =>
      rcases Machine.run_cons runs with ⟨next, stepped, continued⟩
      have first := @step_bound runtime config exchangeId world next keyed event stepped
      have later := induction (step_keyed keyed stepped) continued
      simp only [stepsWith, stepped]
      rw [Nat.mul_add]
      omega

/-- In every run the exchange is handed to the worker at most so many times as the
submissions that queue a task for it allow attempts, counting the times that are
still to come. -/
theorem worker_runs_bounded {events : List Event} {final : World}
    (runs : Machine.run (step runtime config) start events = some final) :
    stepsWith runtime config (handsOver exchangeId) start events + workLeft exchangeId final ≤
      attemptsAllowed config *
        stepsWith runtime config (queuesTask runtime config exchangeId) start events := by
  have keyed : Keyed start := by
    intro exchangeId exchange found
    cases found
  have bound := @run_bound runtime config exchangeId start events final keyed runs
  have nothing : workLeft exchangeId start = 0 := rfl
  rwa [nothing, Nat.zero_add] at bound

def badgeEvents : List Event :=
  [Finality.createVerify, Finality.submit Finality.badge,
    .work (Finality.answersFor "unused" Finality.badge true),
    .request "exchange-1" "verify" (.exchangeDetail none true)
      (Finality.answersFor "attempt-2" Finality.badge true)]

theorem worker_runs_bounded_badge :
    ∃ final, Machine.run (step Finality.badgeRuntime {}) start badgeEvents = some final ∧
      stepsWith Finality.badgeRuntime {} (handsOver "exchange-1") start badgeEvents = 1 ∧
      stepsWith Finality.badgeRuntime {} (handsOver "exchange-1") start badgeEvents +
          workLeft "exchange-1" final ≤
        attemptsAllowed {} * stepsWith Finality.badgeRuntime {}
          (queuesTask Finality.badgeRuntime {} "exchange-1") start badgeEvents := by
  have ran : ∃ final, Machine.run (step Finality.badgeRuntime {}) start badgeEvents =
      some final := ⟨_, rfl⟩
  rcases ran with ⟨final, runs⟩
  exact ⟨final, runs, rfl, worker_runs_bounded runs⟩

end TransactionService.WorkBound
