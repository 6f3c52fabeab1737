import TransactionService.Foundation.CompareAndSwap
import TransactionService.VerifyTask.Sweep
import TransactionService.VerifyTask.Worker

namespace TransactionService.Concurrency

open CompareAndSwap

/-! # Guarded writes under interleaving -/

/-! ## The two halves of a guarded write

Reading with the comparison, and writing, are separate steps of every call. -/

section Exclusivity

variable (expectedAttemptId : String) (updates : Nat → Exchange → Exchange)

def afterRead : Except SaveExchangeWithCASResult Exchange → Split.Phase Exchange
  | .ok current => .checked current
  | .error (.committed exchange) => .committed exchange
  | .error (.stale _) => .stale
  | .error .notFound => .notFound

def afterWrite : Except Thrown SaveExchangeWithCASResult → Split.Phase Exchange
  | .ok (.committed exchange) => .committed exchange
  | .ok (.stale _) => .stale
  | .ok .notFound => .notFound
  | .error _ => .failed

/-- One half of one of the concurrent calls of `saveExchangeWithCAS`. -/
def callStep (system : Split.System Exchange) :
    Split.Label → Option (Split.System Exchange)
  | .read caller =>
      match system.phase caller with
      | .waiting => some { system with
          phase := Function.update system.phase caller
            (afterRead (checkAttempt system.stored expectedAttemptId)) }
      | _ => none
  | .write caller accepted =>
      match system.phase caller with
      | .checked current =>
          let write := writeChecked accepted (updates caller current)
          some {
            stored := write.saved.or system.stored
            phase := Function.update system.phase caller (afterWrite write.result) }
      | _ => none

private theorem afterRead_checkAttempt (stored : Option Exchange) :
    afterRead (checkAttempt stored expectedAttemptId) =
      Split.check readVerifyTaskAttemptId expectedAttemptId stored := by
  cases stored with
  | none => rfl
  | some current =>
      simp only [checkAttempt, Split.check]
      by_cases same : readVerifyTaskAttemptId current = some expectedAttemptId
      · rw [if_neg (not_not_intro same), if_pos same]
        rfl
      · rw [if_pos same, if_neg same]
        rfl

/-- The calls are the callers of the split protocol, with the attempt id as the
tag. -/
private theorem callStep_eq :
    callStep expectedAttemptId updates =
      Split.step readVerifyTaskAttemptId expectedAttemptId updates := by
  funext system label
  cases label with
  | read caller =>
      cases phase : system.phase caller with
      | waiting => simp only [callStep, Split.step, phase, afterRead_checkAttempt]
      | _ => simp only [callStep, Split.step, phase]
  | write caller accepted =>
      cases phase : system.phase caller with
      | checked current =>
          simp only [callStep, Split.step, phase]
          cases accepted with
          | true => rfl
          | false => rfl
      | _ => simp only [callStep, Split.step, phase]

/-- Each caller installs an attempt id of its own that is not the expected one. -/
structure InstallsFresh (attemptIds : Nat → String) : Prop where
  installs : ∀ caller record, readVerifyTaskAttemptId record = some expectedAttemptId →
    readVerifyTaskAttemptId (updates caller record) = some (attemptIds caller)
  fresh : ∀ caller, attemptIds caller ≠ expectedAttemptId
  distinct : Function.Injective attemptIds

/-- At most one call commits and its record stays exactly when every accepted
write still finds the attempt it compared. -/
theorem committed_exclusive_iff {attemptIds : Nat → String}
    (installs : InstallsFresh expectedAttemptId updates attemptIds)
    {stored : Option Exchange} {labels : List Split.Label}
    {final : Split.System Exchange}
    (runs : Machine.run (callStep expectedAttemptId updates) (Split.start stored) labels =
      some final) :
    Split.Exclusive final ↔
      Machine.Along (callStep expectedAttemptId updates)
        (Split.LandsOnExpected readVerifyTaskAttemptId expectedAttemptId)
        (Split.start stored) labels := by
  rw [callStep_eq] at runs ⊢
  apply Split.exclusive_iff ?_ runs
  intro caller record matching retagged
  rw [installs.installs caller record matching] at retagged
  exact installs.fresh caller (Option.some.inj retagged)

/-! ### Two calls that overlap -/

def queuedTask : VerifyTask where
  attemptId := "queued"
  queuedAt := 0
  deadlineAt := 60000
  attempt := 1
  maxAttempts := 1
  openBadgesCredentialIndices := [0]
  status := .queued

def queuedExchange : ExchangeDetailVerify where
  tenantName := "default"
  exchangeId := "exchange-1"
  expires := 600000
  state := .active
  vars := {
    exchangeHost := "http://localhost:4004"
    challenge := "challenge-1"
    vprContext := []
    vprCredentialType := ["OpenBadgeCredential"]
    trustedIssuers := []
    vprClaims := []
    results := some {
      verified := true
      presentationResults := []
      credentialResults := [{
        verified := true
        verifiableCredential := some (.obj [("type", .str "OpenBadgeCredential")])
        results := [] }]
      matchedCredentials := []
      summary := [] }
    verifyTask := some queuedTask }

def mintedAttemptId (caller : Nat) : String :=
  String.ofList (List.replicate (caller + 1) 'n')

def requeue (caller : Nat) (_ : Exchange) : Exchange :=
  .verify (withVerifyTask queuedExchange
    (bumpAttempt 60000 (mintedAttemptId caller) queuedTask 60000))

theorem requeue_installsFresh : InstallsFresh "queued" requeue mintedAttemptId where
  installs _ _ _ := rfl
  fresh caller same := by
    have letters := congrArg String.toList same
    rw [mintedAttemptId, String.toList_ofList] at letters
    have first : 'q' ∈ List.replicate (caller + 1) 'n' := by
      rw [letters]
      decide
    exact absurd (List.eq_of_mem_replicate first) (by decide)
  distinct left right same := by
    have letters := congrArg (fun text : String => text.toList.length) same
    simpa [mintedAttemptId] using letters

/-- The second call reads only after the first has written. -/
theorem committed_exclusive_in_turn :
    ∃ final, Machine.run (callStep "queued" requeue)
        (Split.start (some (.verify queuedExchange)))
        [.read 0, .write 0 true, .read 1] = some final ∧
      Split.Exclusive final := by
  have ran : ∃ final, Machine.run (callStep "queued" requeue)
      (Split.start (some (.verify queuedExchange)))
      [.read 0, .write 0 true, .read 1] = some final := ⟨_, rfl⟩
  rcases ran with ⟨final, runs⟩
  refine ⟨final, runs, ?_⟩
  apply (committed_exclusive_iff "queued" requeue requeue_installsFresh runs).mpr
  refine ⟨trivial, fun _ first => ?_⟩
  cases first
  refine ⟨⟨_, rfl, rfl⟩, fun _ second => ?_⟩
  cases second
  exact ⟨trivial, fun _ _ => trivial⟩

/-- Both calls read before either writes. -/
theorem overlapping_calls_commit :
    InstallsFresh "queued" requeue mintedAttemptId ∧
    ∃ final, Machine.run (callStep "queued" requeue)
        (Split.start (some (.verify queuedExchange)))
        [.read 0, .read 1, .write 0 true, .write 1 true] = some final ∧
      ¬ Split.Exclusive final := by
  refine ⟨requeue_installsFresh, _, rfl, fun exclusive => ?_⟩
  have same := exclusive.unique 0 1 _ _ rfl rfl
  cases same

end Exclusivity

/-! ## Sweeps and worker runs

A guarded write is one step here, but everything between the load of a record
and the writes over it is not. -/

section Absorption

variable (runtime : Runtime) (config : Config)

def TaskSettled (record : Exchange) : Prop :=
  ∃ task, record.verifyTask = some task ∧ task.status.isTerminal = true

/-- What runs against the task once a submission has queued it. -/
inductive Job
  | sweep (answers : Answers)
  | worker (answers : Answers)

def SweepPlan.writer (plan : SweepPlan) : CompareAndSwap.Writer Exchange String where
  expected := plan.expectedAttemptId
  updates := [fun _ => .verify plan.next]

def WorkerPlan.writer (plan : WorkerPlan) : CompareAndSwap.Writer Exchange String where
  expected := plan.expectedAttemptId
  updates := [plan.running, plan.final]

def planJob : Job → Exchange → Option (CompareAndSwap.Writer Exchange String)
  | .sweep answers, loaded => (planSweep config answers loaded).map SweepPlan.writer
  | .worker answers, loaded =>
      (planWorker runtime config answers (some loaded)).toOption.map WorkerPlan.writer

def taskProtocol : Protocol Exchange String Job where
  tag := readVerifyTaskAttemptId
  plan := planJob runtime config

abbrev TaskSystem := CompareAndSwap.System Exchange String

def taskStep : TaskSystem → Label Job → Option TaskSystem :=
  CompareAndSwap.step (taskProtocol runtime config)

variable {runtime config}

theorem swap_eq_saveExchangeWithCAS (expectedAttemptId : String)
    (update : Exchange → Exchange) (record : Exchange) :
    some (swap readVerifyTaskAttemptId expectedAttemptId update record) =
      ((saveExchangeWithCAS true (some record) expectedAttemptId update).saved.or
        (some record)) := by
  by_cases same : readVerifyTaskAttemptId record = some expectedAttemptId
  · rw [saveExchangeWithCAS_current same, swap, if_pos same]
    rfl
  · simp [swap, same, saveExchangeWithCAS, checkAttempt]

theorem not_taskSettled_withVerifyTask {exchange : ExchangeDetailVerify} {task : VerifyTask}
    (unsettled : task.status.isTerminal = false) :
    ¬ TaskSettled (.verify (withVerifyTask exchange task)) := by
  rintro ⟨same, hasTask, settled⟩
  cases hasTask
  rw [unsettled] at settled
  cases settled

theorem not_taskSettled_mapVerify {task : VerifyTask}
    (unsettled : task.status.isTerminal = false) (record : Exchange) :
    ¬ TaskSettled (record.mapVerify fun current => withVerifyTask current task) := by
  cases record with
  | verify exchange => exact not_taskSettled_withVerifyTask unsettled
  | didAuth detail =>
      rintro ⟨same, hasTask, -⟩
      cases hasTask
  | claim detail =>
      rintro ⟨same, hasTask, -⟩
      cases hasTask

private theorem planJob_settled {job : Job} {record : Exchange} (settled : TaskSettled record) :
    planJob runtime config job record = none := by
  rcases settled with ⟨task, hasTask, terminal⟩
  cases job with
  | sweep answers =>
      cases planned : planSweep config answers record with
      | none => simp [planJob, planned]
      | some plan =>
          rcases planSweep_eq_some config answers planned with
            ⟨exchange, other, rfl, -, otherTask, pending, -⟩
          have same := Option.some.inj (hasTask.symm.trans otherTask)
          subst same
          cases status : task.status <;>
            simp [status, VerifyTaskStatus.isTerminal, VerifyTaskStatus.isPending]
              at terminal pending
  | worker answers =>
      cases planned : planWorker runtime config answers (some record) with
      | error outcome => simp [planJob, planned, Except.toOption]
      | ok plan =>
          rcases (planWorker_eq_ok runtime config answers).mp planned with
            ⟨exchange, other, found, otherTask, unsettled, -⟩
          cases found
          have same := Option.some.inj (hasTask.symm.trans otherTask)
          subst same
          rw [terminal] at unsettled
          cases unsettled

private theorem final_settles {answers : Answers} {exchange : ExchangeDetailVerify}
    {task : VerifyTask} (record : Exchange)
    (settled : TaskSettled ((planFor runtime config answers exchange task).final record)) :
    readVerifyTaskAttemptId ((planFor runtime config answers exchange task).final record) =
      some task.attemptId := by
  rcases planFor_final_cases runtime config answers exchange task with
    ⟨message, isFailure, -⟩ | ⟨base, merged, -, -, isSettled⟩
  · rw [isFailure] at settled
    exact absurd settled (not_taskSettled_mapVerify rfl record)
  · rw [isSettled]
    rfl

private theorem planJob_disciplined {job : Job} {record : Exchange}
    {writer : CompareAndSwap.Writer Exchange String}
    (planned : planJob runtime config job record = some writer) :
    Disciplined readVerifyTaskAttemptId TaskSettled writer := by
  cases job with
  | sweep answers =>
      rcases Option.map_eq_some_iff.mp planned with ⟨plan, swept, rfl⟩
      rcases planSweep_eq_some config answers swept with
        ⟨exchange, task, rfl, -, hasTask, -, -, ⟨-, rfl⟩ | ⟨-, rfl⟩⟩
      · refine ⟨trivial, fun update member other settled => ?_⟩
        cases List.mem_singleton.mp member
        exact absurd settled (not_taskSettled_withVerifyTask rfl)
      · refine ⟨trivial, fun update member other settled => ?_⟩
        cases List.mem_singleton.mp member
        rfl
  | worker answers =>
      rcases Option.map_eq_some_iff.mp planned with ⟨plan, ran, rfl⟩
      cases planned' : planWorker runtime config answers (some record) with
      | error outcome => simp [planned', Except.toOption] at ran
      | ok other =>
          simp only [planned', Except.toOption, Option.some.injEq] at ran
          subst ran
          rcases (planWorker_eq_ok runtime config answers).mp planned' with
            ⟨exchange, task, -, hasTask, -, rfl⟩
          have running : ∀ record, ¬ TaskSettled
              ((planFor runtime config answers exchange task).running record) := by
            intro record
            rw [planFor_running_eq]
            exact not_taskSettled_mapVerify rfl record
          refine ⟨⟨running, trivial⟩, fun update member other settled => ?_⟩
          rcases List.mem_cons.mp member with rfl | last
          · exact absurd settled (running other)
          · cases List.mem_singleton.mp last
            rw [final_settles other settled, WorkerPlan.writer, planFor_expectedAttemptId]

/-- Once the task is settled, no sweep and no worker run changes the record,
provided every commit that settles it comes from the only job in flight that
loaded the current attempt. -/
theorem settled_task_absorbing {initial : Exchange} {earlier later : List (Label Job)}
    {middle final : TaskSystem}
    (alone : Machine.Along (taskStep runtime config)
      (FinishesAlone (taskProtocol runtime config) TaskSettled)
      (CompareAndSwap.start initial) (earlier ++ later))
    (reaches : Machine.run (taskStep runtime config) (CompareAndSwap.start initial)
      earlier = some middle)
    (continues : Machine.run (taskStep runtime config) middle later = some final)
    (settled : TaskSettled middle.record) :
    final.record.state = middle.record.state ∧
      final.record.results = middle.record.results ∧
      final.record.verifyTask = middle.record.verifyTask := by
  have same : final.record = middle.record :=
    terminal_absorbing (fun _ _ => planJob_settled)
      (fun _ _ _ => planJob_disciplined) alone reaches continues settled
  rw [same]
  exact ⟨rfl, rfl, rfl⟩

/-! ### A worker that was given up -/

/-- The Open Badges checks have no objection, and the clock stands at `now`. -/
def answersAt (now : Timestamp) : Answers where
  clock _ := now
  randomUUID _ := "minted"
  randomBytes := "random"
  verifyPresentation _ := .error "not asked"
  verifyCredential _ call :=
    .ok { verified := true, verifiableCredential := some call.credential, results := [] }
  callService _ _ := none
  accepted _ := true

/-- The worker finishes before the task is looked at again. -/
theorem settled_task_absorbing_in_turn :
    ∃ middle final,
      Machine.run (taskStep Runtime.plain {}) (CompareAndSwap.start (.verify queuedExchange))
        [.load 0 (.worker (answersAt 0)), .commit 0, .commit 0] = some middle ∧
      Machine.run (taskStep Runtime.plain {}) middle
        [.load 1 (.sweep (answersAt 70000))] = some final ∧
      middle.record.state = .complete ∧ final.record.state = .complete := by
  have ran : ∃ middle, Machine.run (taskStep Runtime.plain {})
      (CompareAndSwap.start (.verify queuedExchange))
      [.load 0 (.worker (answersAt 0)), .commit 0, .commit 0] = some middle ∧
      middle.record.state = .complete ∧ TaskSettled middle.record ∧
      ∃ final, Machine.run (taskStep Runtime.plain {}) middle
        [.load 1 (.sweep (answersAt 70000))] = some final :=
    ⟨_, rfl, rfl, ⟨_, rfl, rfl⟩, _, rfl⟩
  rcases ran with ⟨middle, reaches, complete, settled, final, continues⟩
  have alone : Machine.Along (taskStep Runtime.plain {})
      (FinishesAlone (taskProtocol Runtime.plain {}) TaskSettled)
      (CompareAndSwap.start (.verify queuedExchange))
      ([.load 0 (.worker (answersAt 0)), .commit 0, .commit 0] ++
        [.load 1 (.sweep (answersAt 70000))]) := by
    refine ⟨trivial, fun _ first => ?_⟩
    cases first
    refine ⟨?_, fun _ second => ?_⟩
    · intro expected update rest _ _ _ other writer different flying
      simp only [Function.update_of_ne different] at flying
      cases flying
    · cases second
      refine ⟨?_, fun _ third => ?_⟩
      · intro expected update rest _ _ _ other writer different flying
        simp only [Function.update_of_ne different] at flying
        cases flying
      · cases third
        exact ⟨trivial, fun _ _ => trivial⟩
  have kept := settled_task_absorbing alone reaches continues settled
  exact ⟨middle, final, reaches, continues, complete, kept.1.trans complete⟩

/-- The worker loads the task, a sweep gives it up, and the worker still commits. -/
theorem given_up_task_completed :
    ∃ middle final,
      Machine.run (taskStep Runtime.plain {}) (CompareAndSwap.start (.verify queuedExchange))
        [.load 0 (.worker (answersAt 0)), .commit 0,
          .load 1 (.sweep (answersAt 70000)), .commit 1] = some middle ∧
      Machine.run (taskStep Runtime.plain {}) middle [.commit 0] = some final ∧
      TaskSettled middle.record ∧
      middle.record.state = .invalid ∧ final.record.state = .complete :=
  ⟨_, _, rfl, rfl, ⟨_, rfl, rfl⟩, rfl, rfl⟩

end Absorption

end TransactionService.Concurrency
