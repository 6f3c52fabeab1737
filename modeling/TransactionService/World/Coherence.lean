import TransactionService.World.Finality

namespace TransactionService.Coherence

open World

/-! # Task, state and results agree

How the status of a verify task is tied to the state and the results that are
stored beside it. -/

def IndexesBadges (runtime : Runtime) (detail : ExchangeDetailVerify) (task : VerifyTask) :
    Prop :=
  ∃ results, detail.vars.results = some results ∧
    task.openBadgesCredentialIndices.Pairwise (· < ·) ∧
    ∀ index ∈ task.openBadgesCredentialIndices, ∃ credentialResult,
      results.credentialResults[index]? = some credentialResult ∧
        runtime.isOpenBadgeCredential credentialResult.verifiableCredential = true

def ReportsVerdict (detail : ExchangeDetailVerify) : Prop :=
  ∃ results, detail.vars.results = some results ∧
    detail.state = if results.verified then .complete else .invalid

def ReportsTimeout (detail : ExchangeDetailVerify) : Prop :=
  detail.state = .invalid ∧ ∃ results, detail.vars.results = some results ∧
    results.verified = false ∧
    ∃ check, results.presentationResults.getLast? = some check ∧
      check.id = "pipeline.timeout"

def AttemptsBounded (task : VerifyTask) : Prop :=
  1 ≤ task.attempt ∧ task.attempt ≤ max 1 task.maxAttempts

structure Coherent (runtime : Runtime) (detail : ExchangeDetailVerify)
    (task : VerifyTask) : Prop where
  pending : task.status.isPending = true →
    detail.state = .active ∧ IndexesBadges runtime detail task
  succeeded : task.status = .succeeded → ReportsVerdict detail
  gaveUp : task.status = .gaveUp → ReportsTimeout detail
  attempts : AttemptsBounded task

/-- The worker also runs failed tasks, so they have to be as good as pending
ones. -/
structure Runnable (runtime : Runtime) (detail : ExchangeDetailVerify)
    (task : VerifyTask) : Prop where
  unsettled : task.status.isTerminal = false →
    detail.state = .active ∧ IndexesBadges runtime detail task
  succeeded : task.status = .succeeded → ReportsVerdict detail
  gaveUp : task.status = .gaveUp → ReportsTimeout detail
  attempts : AttemptsBounded task

section

variable {runtime : Runtime} {config : Config} {detail : ExchangeDetailVerify}
  {task : VerifyTask} {answers : Answers}

theorem Runnable.coherent (runnable : Runnable runtime detail task) :
    Coherent runtime detail task where
  pending isPending := by
    apply runnable.unsettled
    cases status : task.status with
    | queued => rfl
    | running => rfl
    | failed => rfl
    | succeeded => simp [status, VerifyTaskStatus.isPending] at isPending
    | gaveUp => simp [status, VerifyTaskStatus.isPending] at isPending
  succeeded := runnable.succeeded
  gaveUp := runnable.gaveUp
  attempts := runnable.attempts

private theorem Runnable.not_pending (runnable : Runnable runtime detail task) :
    detail.state ≠ .pending := by
  intro pending
  cases settled : task.status.isTerminal with
  | false =>
      have active := (runnable.unsettled settled).1
      cases pending.symm.trans active
  | true =>
      cases status : task.status with
      | succeeded =>
          rcases runnable.succeeded status with ⟨results, -, state⟩
          rw [pending] at state
          split at state <;> cases state
      | gaveUp =>
          have invalid := (runnable.gaveUp status).1
          cases pending.symm.trans invalid
      | _ => simp [status, VerifyTaskStatus.isTerminal] at settled

/-! ## Submissions -/

private theorem identify_pairwise
    (credentialResults : List (CredentialVerificationResult CoreCheckResult)) :
    (identifyOpenBadgesCredentialIndices runtime credentialResults).Pairwise (· < ·) :=
  List.pairwise_lt_range.filter _

private theorem mem_identify {index : Nat} {result : PresentationVerificationResult}
    (member : index ∈ identifyOpenBadgesCredentialIndices runtime
      result.credentialResults) :
    ∃ credentialResult, (storedCredentialResults result)[index]? = some credentialResult ∧
      runtime.isOpenBadgeCredential credentialResult.verifiableCredential = true := by
  unfold identifyOpenBadgesCredentialIndices at member
  rcases List.mem_filter.mp member with ⟨-, isBadge⟩
  rcases (Option.any_eq_true _ _).mp isBadge with ⟨credentialResult, found, satisfies⟩
  refine ⟨ensureCredentialResultIds credentialResult, ?_, satisfies⟩
  rw [storedCredentialResults, List.getElem?_map, found]
  rfl

theorem queued_runnable {working stored : ExchangeDetailVerify}
    {result : PresentationVerificationResult} {log : List CheckResult} {debug : Bool}
    (applied : withSyncResultsAndQueuedVerifyTask config answers working result log debug
      (identifyOpenBadgesCredentialIndices runtime result.credentialResults) = .ok stored)
    (hasTask : stored.vars.verifyTask = some task) : Runnable runtime stored task := by
  rcases withSyncResults_ok config answers applied with ⟨finalized, finished, rfl⟩
  rcases applyVerificationResults_ok finished with
    ⟨results, -, -, credentialResults, -, -, rfl⟩
  cases hasTask
  refine ⟨fun _ => ⟨rfl, results, rfl, identify_pairwise _, ?_⟩,
    fun status => (nomatch status), fun status => (nomatch status), le_refl _,
    le_max_left _ _⟩
  intro index member
  rw [credentialResults]
  exact mem_identify member

def LeftCoherent (working : ExchangeDetailVerify) (result : PresentationVerificationResult)
    (task : VerifyTask) : Prop :=
  match task.status with
  | .succeeded => result.verified = true → Outcome.Acceptable working result
  | .gaveUp => result.verified = false ∧
      ∃ check, result.presentationResults.getLast? = some check ∧
        (ensureCheckResultId check).id = "pipeline.timeout"
  | _ => False

theorem finalized_runnable {working stored : ExchangeDetailVerify}
    {result : PresentationVerificationResult} {log : List CheckResult} {debug : Bool}
    (attempts : AttemptsBounded task) (left : LeftCoherent working result task)
    (applied : applyVerificationResults working result log debug = .ok stored) :
    Runnable runtime stored task := by
  have decided := Outcome.applyVerificationResults_state applied
  rcases applyVerificationResults_ok applied with
    ⟨results, flag, presentationResults, -, -, -, same⟩
  have hasResults : stored.vars.results = some results := by rw [same]
  refine ⟨fun unsettled => ?_, fun succeeded => ⟨results, hasResults, ?_⟩,
    fun gaveUp => ?_, attempts⟩
  · unfold LeftCoherent at left
    cases status : task.status <;>
      simp [status, VerifyTaskStatus.isTerminal] at unsettled left
  · simp only [LeftCoherent, succeeded] at left
    rcases decided with ⟨complete, acceptable⟩ | ⟨invalid, objection⟩
    · rw [complete, flag, acceptable.verified, if_pos rfl]
    · have negative : result.verified = false := by
        cases verdict : result.verified with
        | false => rfl
        | true => exact absurd (left verdict) objection
      rw [invalid, flag, negative]
      rfl
  · simp only [LeftCoherent, gaveUp] at left
    rcases left with ⟨negative, check, isLast, timeout⟩
    have invalid : stored.state = .invalid := by
      rcases decided with ⟨-, acceptable⟩ | ⟨invalid, -⟩
      · cases negative.symm.trans acceptable.verified
      · exact invalid
    refine ⟨invalid, results, hasResults, flag.trans negative,
      ensureCheckResultId check, ?_, timeout⟩
    rw [presentationResults, List.getLast?_map, isLast]
    rfl

/-! ## Sweeps and worker runs -/

private theorem retried_runnable (runnable : Runnable runtime detail task)
    (pending : task.status.isPending = true) (again : task.attempt < task.maxAttempts)
    (now : Timestamp) (attemptId : String) (deadlineMs : Int) :
    Runnable runtime (withVerifyTask detail (bumpAttempt now attemptId task deadlineMs))
      (bumpAttempt now attemptId task deadlineMs) where
  unsettled _ := runnable.coherent.pending pending
  succeeded status := (nomatch status)
  gaveUp status := (nomatch status)
  attempts := by
    have bounded := runnable.attempts
    have next : (bumpAttempt now attemptId task deadlineMs).attempt = task.attempt + 1 := rfl
    have limit : (bumpAttempt now attemptId task deadlineMs).maxAttempts =
      task.maxAttempts := rfl
    unfold AttemptsBounded at bounded ⊢
    omega

private theorem gaveUp_runnable (attempts : AttemptsBounded task) :
    Runnable runtime (gaveUpExchange detail task) (markGaveUp task) where
  unsettled status := (nomatch status)
  succeeded status := (nomatch status)
  gaveUp _ := by
    refine ⟨rfl, _, rfl, ?_, synthesizePipelineTimeoutCheckResult task, ?_, rfl⟩
    · cases detail.vars.results <;> rfl
    · cases detail.vars.results with
      | none => rfl
      | some results => exact List.getLast?_concat
  attempts := attempts

theorem worker_runnable {after : Exchange} (runnable : Runnable runtime detail task)
    (unsettled : task.status.isTerminal = false)
    (stores : WorkerStores runtime config answers detail task after) :
    ∃ next settled, after = .verify next ∧ next.vars.verifyTask = some settled ∧
      Runnable runtime next settled := by
  have ready := runnable.unsettled unsettled
  cases stores with
  | running =>
      exact ⟨_, _, rfl, rfl, fun _ => ready, fun status => (nomatch status),
        fun status => (nomatch status), runnable.attempts⟩
  | failed message =>
      exact ⟨_, _, rfl, rfl, fun _ => ready, fun status => (nomatch status),
        fun status => (nomatch status), runnable.attempts⟩
  | settled hasResults passed =>
      rename_i merged
      exact ⟨_, _, rfl, rfl, fun status => (nomatch status), fun _ => ⟨merged, rfl, rfl⟩,
        fun status => (nomatch status), runnable.attempts⟩

/-! ## One step -/

def RunnableSlot (runtime : Runtime) (slot : Slot) : Prop :=
  ∀ detail task, slot = .stored (.verify detail) → detail.vars.verifyTask = some task →
    Runnable runtime detail task

theorem change_runnable {world : World} {exchangeId workflowId : String}
    {endpoint : Endpoint} {after : ExchangeDetailVerify}
    (leaves : LeavesTask runtime config LeftCoherent world
      (.request exchangeId workflowId endpoint answers))
    (found : world.slots exchangeId = .stored (.verify detail))
    (addressed : endpoint.takesPresentation = true → WorkflowId.verify.text = workflowId)
    (change : VerifyChange runtime config answers endpoint detail after)
    (runnable : ∀ task, detail.vars.verifyTask = some task → Runnable runtime detail task)
    (hasTask : after.vars.verifyTask = some task) : Runnable runtime after task := by
  cases change with
  | activated pending => exact absurd pending (runnable task hasTask).not_pending
  | rebound state =>
      have earlier := runnable task hasTask
      exact ⟨earlier.unsettled, earlier.succeeded, earlier.gaveUp, earlier.attempts⟩
  | untouched => exact runnable task hasTask
  | retried active isTask pending again =>
      cases hasTask
      exact retried_runnable (runnable _ isTask) pending again _ _ _
  | gaveUp active isTask pending =>
      cases hasTask
      exact gaveUp_runnable (runnable _ isTask).attempts
  | finalized same atOnce applied =>
      have left := finalized_leaves leaves found addressed same atOnce applied hasTask
      have earlier : detail.vars.verifyTask = some task := by
        rw [← same.verifyTask, ← applied_verifyTask applied]
        exact hasTask
      exact finalized_runnable (runnable task earlier).attempts left applied
  | queued same applied => exact queued_runnable applied hasTask

private theorem slotStep_runnable {world : World} {event : Event} {exchangeId : String}
    {slot : Slot} (leaves : LeavesTask runtime config LeftCoherent world event)
    (runnable : RunnableSlot runtime (world.slots exchangeId))
    (stepped : SlotStep runtime config event exchangeId (world.slots exchangeId) slot) :
    RunnableSlot runtime slot := by
  intro detail task same hasTask
  generalize found : world.slots exchangeId = before at stepped runnable
  cases stepped with
  | unchanged => exact runnable detail task same hasTask
  | created isOwn =>
      have fresh := congrArg Exchange.verifyTask (Slot.stored.inj same)
      rw [createExchange_verifyTask] at fresh
      cases fresh.trans hasTask
  | evicted => cases same
  | changed isRequest addressed change =>
      subst isRequest
      rename_i workflowId endpoint answers stored after
      cases same
      cases stored with
      | verify earlier =>
          rcases change_verify change with ⟨next, isNext, changed⟩
          cases isNext
          exact change_runnable leaves found addressed changed
            (fun task isTask => runnable earlier task rfl isTask) hasTask
      | didAuth earlier => cases change_workflowId change
      | claim earlier => cases change_workflowId change
  | worked isWork isTask unsettled stores =>
      rcases worker_runnable (runnable _ _ rfl isTask) unsettled stores with
        ⟨next, settled, rfl, hasSettled, nextRunnable⟩
      cases same
      cases hasSettled.symm.trans hasTask
      exact nextRunnable

/-! ## Runs -/

/-- In every run in which submissions are finalized at once only over tasks that
agree with the outcome, every task agrees with state and results. -/
theorem coherent_of_run {events : List Event} {final : World} {exchangeId : String}
    (along : Machine.Along (step runtime config) (LeavesTask runtime config LeftCoherent)
      start events)
    (runs : Machine.run (step runtime config) start events = some final)
    (found : final.slots exchangeId = .stored (.verify detail))
    (hasTask : detail.vars.verifyTask = some task) : Coherent runtime detail task := by
  have runnable : EverySlot (RunnableSlot runtime) final := by
    apply everySlot_of_run ?_ ?_ along runs
    · intro detail task same
      cases same
    · intro world event exchangeId slot leaves runnable stepped
      exact slotStep_runnable leaves runnable stepped
  exact (runnable.2 exchangeId detail task found hasTask).coherent

/-- A badge waits for the worker. -/
theorem coherent_of_run_queued :
    ∃ final detail task,
      Machine.run (step Finality.badgeRuntime {}) start
        [Finality.createVerify, Finality.submit Finality.badge] = some final ∧
      final.slots "exchange-1" = .stored (.verify detail) ∧
      detail.vars.verifyTask = some task ∧ task.status = .queued ∧
      Coherent Finality.badgeRuntime detail task := by
  have ran : ∃ final, Machine.run (step Finality.badgeRuntime {}) start
      [Finality.createVerify, Finality.submit Finality.badge] = some final ∧
      ∃ detail, final.slots "exchange-1" = .stored (.verify detail) ∧
      ∃ task, detail.vars.verifyTask = some task ∧ task.status = .queued :=
    ⟨_, rfl, _, rfl, _, rfl, rfl⟩
  rcases ran with ⟨final, runs, detail, found, task, hasTask, queued⟩
  refine ⟨final, detail, task, runs, found, hasTask, queued,
    coherent_of_run ?_ runs found hasTask⟩
  refine ⟨leavesTask_of_isUnburdened rfl, fun _ first => ?_⟩
  cases first
  exact ⟨leavesTask_of_isUnburdened rfl, fun _ _ => trivial⟩

/-- The next presentation completes the exchange, and the badge still waits. -/
theorem completed_exchange_queued :
    ∃ final detail task,
      Machine.run (step Finality.badgeRuntime {}) start
        [Finality.createVerify, Finality.submit Finality.badge,
          Finality.submit sampleCredential] = some final ∧
      final.slots "exchange-1" = .stored (.verify detail) ∧
      detail.vars.verifyTask = some task ∧
      ¬ Coherent Finality.badgeRuntime detail task := by
  refine ⟨_, _, _, rfl, rfl, rfl, fun coherent => ?_⟩
  cases (coherent.pending rfl).1

end

end TransactionService.Coherence
