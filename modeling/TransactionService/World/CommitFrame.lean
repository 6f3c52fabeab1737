import TransactionService.World.Finality
import TransactionService.World.IdentityFrame

namespace TransactionService.CommitFrame

open SharedStore SingleUse Sessions IdentityFrame

/-! # The commit frame

The last commit of a worker run, and the commit of a sweep, against the record
that is persisted when it lands. Marking a task as failed builds on that record;
settling, retrying and giving up put the loaded record back. -/

def lastingTask (task : VerifyTask) : VerifyTask where
  attemptId := ""
  queuedAt := 0
  deadlineAt := 0
  attempt := 0
  maxAttempts := task.maxAttempts
  openBadgesCredentialIndices := task.openBadgesCredentialIndices
  status := .queued

/-- All but the state, the results, and what changes with the attempts of the
task. -/
def commitFrame : Exchange → Exchange
  | .verify detail => .verify { detail with
      state := .active
      vars := { detail.vars with
        results := none
        verifyTask := detail.vars.verifyTask.map lastingTask } }
  | .claim detail => .claim { detail with
      state := .active
      vars := { detail.vars with results := none } }
  | .didAuth detail => .didAuth { detail with
      state := .active
      vars := { detail.vars with results := none } }

def oid4vpOf : Exchange → Option ExchangeOid4vpState
  | .verify detail => detail.vars.oid4vp
  | _ => none

def assembled (identity : Identity) (oid4vp : Option ExchangeOid4vpState)
    (verifyTask : Option VerifyTask) : Option Exchange :=
  match identity.vars with
  | .verify vars => some (.verify {
      tenantName := identity.tenantName
      exchangeId := identity.exchangeId
      expires := identity.expires
      state := .active
      vars := { vars with oid4vp, verifyTask } })
  | _ => none

theorem commitFrame_eq_assembled (detail : ExchangeDetailVerify) :
    some (commitFrame (.verify detail)) =
      assembled (identityOf (.verify detail)) detail.vars.oid4vp
        (detail.vars.verifyTask.map lastingTask) :=
  rfl

theorem commitFrame_verify_iff {left right : ExchangeDetailVerify}
    (same : identityOf (.verify left) = identityOf (.verify right))
    (task : left.vars.verifyTask.map lastingTask = right.vars.verifyTask.map lastingTask) :
    commitFrame (.verify left) = commitFrame (.verify right) ↔
      left.vars.oid4vp = right.vars.oid4vp := by
  constructor
  · intro framed
    exact congrArg oid4vpOf framed
  · intro oid4vp
    apply Option.some.inj
    rw [commitFrame_eq_assembled, commitFrame_eq_assembled, same, task, oid4vp]

/-! ## Tasks and their attempt ids -/

def Described (lasting : String → VerifyTask) (record : Exchange) : Prop :=
  ∀ task, record.verifyTask = some task → lastingTask task = lasting task.attemptId

section

variable {runtime : Runtime} {config : Config} {answers : Answers}
  {lasting : String → VerifyTask}

private theorem verifyChange_task {endpoint : Endpoint} {detail next : ExchangeDetailVerify}
    {task : VerifyTask}
    (change : World.VerifyChange runtime config answers endpoint detail next)
    (hasTask : next.vars.verifyTask = some task) :
    task.attemptId = answers.randomUUID 0 ∨
      ∃ earlier, detail.vars.verifyTask = some earlier ∧
        earlier.attemptId = task.attemptId ∧ lastingTask earlier = lastingTask task := by
  cases change with
  | activated pending => exact .inr ⟨task, hasTask, rfl, rfl⟩
  | rebound state => exact .inr ⟨task, hasTask, rfl, rfl⟩
  | untouched => exact .inr ⟨task, hasTask, rfl, rfl⟩
  | retried active earlier pending again =>
      cases hasTask
      exact .inl rfl
  | gaveUp active earlier pending =>
      cases hasTask
      exact .inr ⟨_, earlier, rfl, rfl⟩
  | finalized same atOnce applied =>
      rcases applyVerificationResults_ok applied with ⟨results, -, -, -, -, -, rfl⟩
      have kept := World.SameBinding.verifyTask same
      exact .inr ⟨task, kept.symm.trans hasTask, rfl, rfl⟩
  | queued same applied =>
      rcases withSyncResults_ok config answers applied with ⟨_, -, rfl⟩
      cases hasTask
      exact .inl rfl

private theorem written_task {request : StoreRequest} {loaded next : Exchange} {task : VerifyTask}
    (saved : written runtime config request loaded = some next)
    (hasTask : next.verifyTask = some task) :
    task.attemptId = request.answers.randomUUID 0 ∨
      ∃ earlier, loaded.verifyTask = some earlier ∧
        earlier.attemptId = task.attemptId ∧ lastingTask earlier = lastingTask task := by
  have change := written_change saved
  have workflow := World.change_workflowId change
  cases loaded with
  | verify detail =>
      rcases World.change_verify change with ⟨after, rfl, verifyChange⟩
      exact verifyChange_task verifyChange hasTask
  | didAuth detail =>
      cases next with
      | verify after => cases workflow
      | _ => cases hasTask
  | claim detail =>
      cases next with
      | verify after => cases workflow
      | _ => cases hasTask

/-! ### What is written keeps them -/

theorem described_withVerifyTask {exchange : ExchangeDetailVerify} {task next : VerifyTask}
    (described : Described lasting (.verify exchange))
    (hasTask : exchange.vars.verifyTask = some task)
    (attempt : next.attemptId = task.attemptId) (fields : lastingTask next = lastingTask task)
    (current : Exchange) (isDescribed : Described lasting current) :
    Described lasting (current.mapVerify fun detail => withVerifyTask detail next) := by
  cases current with
  | verify detail =>
      intro other same
      cases same
      rw [fields, attempt]
      exact described task hasTask
  | didAuth detail => exact isDescribed
  | claim detail => exact isDescribed

private theorem worker_described {exchangeId : String} {loaded : Exchange} {next : ExchangeWrite}
    (described : Described lasting loaded)
    (member : next ∈ workerWrites runtime config answers exchangeId loaded) :
    next.Preserves (Described lasting) := by
  unfold workerWrites at member
  split at member
  · cases member
  · rename_i plan planned
    rcases (planWorker_eq_ok runtime config answers).mp planned with
      ⟨exchange, task, found, hasTask, -, rfl⟩
    cases found
    rcases List.mem_cons.mp member with rfl | last
    · rw [planFor_running_eq]
      exact described_withVerifyTask described hasTask rfl rfl
    · cases List.mem_singleton.mp last
      rcases planFor_final_cases runtime config answers exchange task with
        ⟨message, isFailure, -⟩ | ⟨base, merged, -, -, isSettled⟩
      · rw [isFailure]
        exact described_withVerifyTask described hasTask rfl rfl
      · rw [isSettled]
        intro current _ other same
        cases same
        exact described task hasTask

def MintsAs (runtime : Runtime) (config : Config) (request : StoreRequest)
    (loaded : Exchange) (minted : VerifyTask) : Prop :=
  ∀ next task, written runtime config request loaded = some next →
    next.verifyTask = some task → task.attemptId = request.answers.randomUUID 0 →
      lastingTask task = minted

private theorem exists_mintsAs (request : StoreRequest) (loaded : Exchange) :
    ∃ minted, MintsAs runtime config request loaded minted := by
  cases saved : written runtime config request loaded with
  | none =>
      refine ⟨newVerifyTask 0 "" [] 0 0, ?_⟩
      intro next task wrote
      cases saved.symm.trans wrote
  | some record =>
      cases hasTask : record.verifyTask with
      | none =>
          refine ⟨newVerifyTask 0 "" [] 0 0, ?_⟩
          intro next task wrote found
          cases saved.symm.trans wrote
          cases hasTask.symm.trans found
      | some minted =>
          refine ⟨lastingTask minted, ?_⟩
          intro next task wrote found _
          cases saved.symm.trans wrote
          cases hasTask.symm.trans found
          rfl

private theorem written_described {request : StoreRequest} {loaded next : Exchange}
    (described : Described lasting loaded)
    (mints : MintsAs runtime config request loaded
      (lasting (request.answers.randomUUID 0)))
    (saved : written runtime config request loaded = some next) :
    Described lasting next := by
  intro task hasTask
  rcases written_task saved hasTask with minted | ⟨earlier, isEarlier, attempt, fields⟩
  · rw [minted]
    exact mints next task saved hasTask minted
  · rw [← fields, ← attempt]
    exact described earlier isEarlier

private theorem request_described {request : StoreRequest} {loaded : Exchange}
    {next : ExchangeWrite} (described : Described lasting loaded)
    (mints : MintsAs runtime config request loaded
      (lasting (request.answers.randomUUID 0)))
    (member : next ∈ requestWrites runtime config request loaded) :
    next.Preserves (Described lasting) := by
  unfold requestWrites at member
  split at member
  · cases member
  · rename_i record saved
    have isDescribed := written_described described mints saved
    split at member
    · rename_i sweeps
      rcases serve_swept sweeps saved with ⟨exchange, plan, found, planned, rfl⟩
      cases found
      rw [sweepWrites_eq planned] at member
      cases List.mem_singleton.mp member
      exact fun _ _ => isDescribed
    · cases List.mem_singleton.mp member
      exact isDescribed

/-! ## Runs -/

def drawnAttemptId : ExchangeLabel → Option String
  | .load _ _ (.request request) => some (request.answers.randomUUID 0)
  | _ => none

/-- What holds of every record of a run that ends in `final`. -/
def Traced (runtime : Runtime) (config : Config) (final : ExchangeSystem)
    (lasting : String → VerifyTask) (exchangeId : String) (record : Exchange) : Prop :=
  AsCreated (exchangeProtocol runtime config) identityOf final exchangeId record ∧
    Described lasting record

/-- A request that loads a record mints under its drawn id what `minted` says. -/
def LoadMints (runtime : Runtime) (config : Config) (system : ExchangeSystem)
    (label : ExchangeLabel) (minted : VerifyTask) : Prop :=
  match label with
  | .load _ exchangeId (.request request) => ∀ loaded,
      system.stored exchangeId = some loaded → MintsAs runtime config request loaded minted
  | _ => True

private theorem exists_loadMints (system : ExchangeSystem) (label : ExchangeLabel) :
    ∃ minted, LoadMints runtime config system label minted := by
  have anyTask := newVerifyTask 0 "" [] 0 0
  cases label with
  | load session exchangeId task =>
      cases task with
      | request request =>
          cases isStored : system.stored exchangeId with
          | none =>
              refine ⟨anyTask, ?_⟩
              intro loaded found
              cases isStored.symm.trans found
          | some record =>
              rcases exists_mintsAs request record with ⟨minted, mints⟩
              refine ⟨minted, ?_⟩
              intro loaded found
              cases isStored.symm.trans found
              exact mints
      | work answers => exact ⟨anyTask, trivial⟩
  | _ => exact ⟨anyTask, trivial⟩

/-- When no two requests draw the same id, every attempt id of a run stands for
one set of lasting fields. -/
theorem admits_along {labels : List ExchangeLabel} {final : ExchangeSystem}
    (distinct : (labels.filterMap drawnAttemptId).Nodup)
    (runs : Machine.run (sessionStep runtime config) SharedStore.start labels = some final) :
    ∃ lasting, Machine.Along (sessionStep runtime config)
      (Admits (exchangeProtocol runtime config) (Traced runtime config final lasting))
      SharedStore.start labels := by
  have someTask : Nonempty VerifyTask := ⟨newVerifyTask 0 "" [] 0 0⟩
  rcases Machine.exists_assignment (sessionStep runtime config) drawnAttemptId
    (LoadMints runtime config) exists_loadMints SharedStore.start labels distinct with
    ⟨lasting, mints⟩
  refine ⟨lasting, (mints.and (exchange_framed.admits_along runs)).mono ?_⟩
  intro system label both
  rcases both with ⟨minted, created⟩
  cases label with
  | create creation =>
      refine ⟨created, ?_⟩
      intro task hasTask
      have none := createExchange_verifyTask config creation.answers creation.data
      cases none.symm.trans hasTask
  | load session exchangeId task =>
      intro loaded isStored traced next member
      apply (created loaded isStored traced.1 next member).and
      cases task with
      | request request =>
          exact request_described traced.2 (minted _ rfl loaded isStored) member
      | work answers => exact worker_described traced.2 member
  | _ => trivial

/-! ## What a commit puts in place -/

/-- The last commit puts back the record that was loaded: that of every sweep, and
that of a worker run whose Open Badges pass meets no error. -/
def CommitsSnapshot (runtime : Runtime) (config : Config) : Sessions.Task → Exchange → Prop
  | .request _, _ => True
  | .work answers, .verify exchange =>
      ∃ task base merged, exchange.vars.verifyTask = some task ∧
        exchange.vars.results = some base ∧
        (openBadgesPass runtime config answers exchange 0 base
          task.openBadgesCredentialIndices).result = .ok merged
  | .work _, _ => False

theorem attempt_of_tag {current : Exchange} {expected : String}
    (tagged : readVerifyTaskAttemptId current = some expected) :
    ∃ detail task, current = .verify detail ∧ detail.vars.verifyTask = some task ∧
      task.attemptId = expected := by
  cases current with
  | verify detail =>
      rcases Option.map_eq_some_iff.mp tagged with ⟨task, hasTask, same⟩
      exact ⟨detail, task, rfl, hasTask, same⟩
  | didAuth detail => cases tagged
  | claim detail => cases tagged

private theorem traced_identity {final : ExchangeSystem} {exchangeId : String}
    {left right : Exchange} (first : Traced runtime config final lasting exchangeId left)
    (second : Traced runtime config final lasting exchangeId right) :
    identityOf left = identityOf right := by
  rcases first.1 with ⟨original, created, -, same⟩
  rcases second.1 with ⟨other, otherCreated, -, otherSame⟩
  cases created.symm.trans otherCreated
  exact same.trans otherSame.symm

theorem traced_frame_iff {final : ExchangeSystem} {exchangeId : String}
    {left right : ExchangeDetailVerify} {task other : VerifyTask}
    (first : Traced runtime config final lasting exchangeId (.verify left))
    (second : Traced runtime config final lasting exchangeId (.verify right))
    (hasTask : left.vars.verifyTask = some task)
    (hasOther : right.vars.verifyTask = some other)
    (attempt : task.attemptId = other.attemptId) :
    commitFrame (.verify left) = commitFrame (.verify right) ↔
      left.vars.oid4vp = right.vars.oid4vp := by
  apply commitFrame_verify_iff (traced_identity first second)
  have fields : lastingTask task = lastingTask other := by
    rw [first.2 task hasTask, second.2 other hasOther, attempt]
  rw [hasTask, hasOther, Option.map_some, Option.map_some, fields]

private theorem planSweep_frame {loaded : Exchange} {plan : SweepPlan}
    (planned : planSweep config answers loaded = some plan) :
    ∃ exchange task, loaded = .verify exchange ∧ exchange.vars.verifyTask = some task ∧
      plan.expectedAttemptId = task.attemptId ∧
      commitFrame (.verify plan.next) = commitFrame (.verify exchange) := by
  rcases planSweep_eq_some config answers planned with
    ⟨exchange, task, rfl, -, hasTask, -, -, ⟨-, rfl⟩ | ⟨-, rfl⟩⟩
  · refine ⟨exchange, task, rfl, hasTask, rfl, ?_⟩
    simp [commitFrame, retryPlan, withVerifyTask, hasTask, bumpAttempt, lastingTask]
  · refine ⟨exchange, task, rfl, hasTask, rfl, ?_⟩
    simp [commitFrame, giveUpPlan, gaveUpExchange, hasTask, markGaveUp, lastingTask]

private theorem settled_frame {exchange : ExchangeDetailVerify} {task : VerifyTask}
    (hasTask : exchange.vars.verifyTask = some task) (merged : VerificationResult) :
    commitFrame (.verify (settledExchange exchange task merged)) =
      commitFrame (.verify exchange) := by
  simp [commitFrame, settledExchange, hasTask, markSucceeded, lastingTask]

theorem snapshot_frame_iff {final : ExchangeSystem} {exchangeId : String}
    {loaded current : ExchangeDetailVerify} {task other : VerifyTask} {next : Exchange}
    (isLoaded : Traced runtime config final lasting exchangeId (.verify loaded))
    (isCurrent : Traced runtime config final lasting exchangeId (.verify current))
    (hasTask : loaded.vars.verifyTask = some task)
    (hasOther : current.vars.verifyTask = some other)
    (attempt : task.attemptId = other.attemptId)
    (framed : commitFrame next = commitFrame (.verify loaded)) :
    commitFrame next = commitFrame (.verify current) ↔
      oid4vpOf (.verify current) = oid4vpOf (.verify loaded) := by
  rw [framed, traced_frame_iff isLoaded isCurrent hasTask hasOther attempt]
  exact eq_comm

private theorem failure_frame {final : ExchangeSystem} {exchangeId message : String}
    {loaded current : ExchangeDetailVerify} {task other : VerifyTask}
    (isLoaded : Traced runtime config final lasting exchangeId (.verify loaded))
    (isCurrent : Traced runtime config final lasting exchangeId (.verify current))
    (hasTask : loaded.vars.verifyTask = some task)
    (hasOther : current.vars.verifyTask = some other)
    (attempt : task.attemptId = other.attemptId) :
    commitFrame (failureUpdate answers task message (.verify current)) =
      commitFrame (.verify current) := by
  have fields : lastingTask (markFailed (answers.clock 1) task message) =
      lastingTask other := by
    have same : lastingTask task = lastingTask other := by
      rw [isLoaded.2 task hasTask, isCurrent.2 other hasOther, attempt]
    exact same
  simp [commitFrame, failureUpdate, Exchange.mapVerify, withVerifyTask, hasOther, fields]

section

variable {final : ExchangeSystem} {exchangeId expected : String}
  {update : Exchange → Exchange} {loaded current : Exchange}

private theorem sweep_commit_frame {request : StoreRequest}
    (member : .guarded exchangeId expected update ∈
      requestWrites runtime config request loaded)
    (isLoaded : Traced runtime config final lasting exchangeId loaded)
    (isCurrent : Traced runtime config final lasting exchangeId current)
    (tagged : readVerifyTaskAttemptId current = some expected) :
    commitFrame (update current) = commitFrame current ↔
      oid4vpOf current = oid4vpOf loaded := by
  rcases attempt_of_tag tagged with ⟨detail, other, rfl, hasOther, isExpected⟩
  unfold requestWrites at member
  split at member
  · cases member
  · rename_i record saved
    split at member
    · rename_i sweeps
      rcases serve_swept sweeps saved with ⟨stored, plan, found, planned, rfl⟩
      cases found
      rw [sweepWrites_eq planned] at member
      cases List.mem_singleton.mp member
      rcases planSweep_frame planned with ⟨exchange, task, rfl, hasTask, attempt, framed⟩
      exact snapshot_frame_iff isLoaded isCurrent hasTask hasOther
        (attempt.symm.trans isExpected.symm) framed
    · cases List.mem_singleton.mp member

private theorem worker_commit_frame
    (planned : [.guarded exchangeId expected update] <:+
      workerWrites runtime config answers exchangeId loaded)
    (isLoaded : Traced runtime config final lasting exchangeId loaded)
    (isCurrent : Traced runtime config final lasting exchangeId current)
    (tagged : readVerifyTaskAttemptId current = some expected) :
    commitFrame (update current) = commitFrame current ↔
      (CommitsSnapshot runtime config (.work answers) loaded →
        oid4vpOf current = oid4vpOf loaded) := by
  rcases attempt_of_tag tagged with ⟨detail, other, rfl, hasOther, isExpected⟩
  unfold workerWrites at planned
  split at planned
  · cases List.suffix_nil.mp planned
  · rename_i plan isPlan
    rcases (planWorker_eq_ok runtime config answers).mp isPlan with
      ⟨exchange, task, found, hasTask, -, rfl⟩
    cases found
    have last : update = (planFor runtime config answers exchange task).final ∧
        expected = task.attemptId := by
      rw [planFor_expectedAttemptId] at planned
      rcases List.suffix_cons_iff.mp planned with whole | tail
      · cases whole
      · rcases List.suffix_cons_iff.mp tail with same | nothing
        · cases same
          exact ⟨rfl, rfl⟩
        · cases List.suffix_nil.mp nothing
    rcases last with ⟨rfl, rfl⟩
    rcases planFor_final_cases runtime config answers exchange task with
      ⟨message, isFailure, fails⟩ | ⟨base, merged, hasResults, passed, isSettled⟩
    · have kept : commitFrame (failureUpdate answers task message (.verify detail)) =
          commitFrame (.verify detail) :=
        failure_frame isLoaded isCurrent hasTask hasOther isExpected.symm
      rw [isFailure]
      refine ⟨fun _ snapshot => ?_, fun _ => kept⟩
      rcases snapshot with ⟨other, base, merged, isTask, hasResults, passed⟩
      cases hasTask.symm.trans isTask
      exact absurd passed (fails base hasResults merged)
    · rw [isSettled, snapshot_frame_iff isLoaded isCurrent hasTask hasOther isExpected.symm
        (settled_frame hasTask merged)]
      constructor
      · exact fun same _ => same
      · exact fun same => same ⟨task, base, merged, hasTask, hasResults, passed⟩

end

theorem last_commit_frame {final : ExchangeSystem} {working : ExchangeSession}
    {exchangeId expected : String} {update : Exchange → Exchange} {current : Exchange}
    (sound : working.Sound (exchangeProtocol runtime config)
      (Traced runtime config final lasting))
    (last : working.writes = [.guarded exchangeId expected update])
    (isCurrent : Traced runtime config final lasting exchangeId current)
    (tagged : readVerifyTaskAttemptId current = some expected) :
    commitFrame (update current) = commitFrame current ↔
      (CommitsSnapshot runtime config working.task working.loaded →
        oid4vpOf current = oid4vpOf working.loaded) := by
  have place : exchangeId = working.key := (sound.head last).1
  have planned := sound.planned
  have isLoaded := sound.loaded
  rw [last] at planned
  rw [← place] at isLoaded planned
  cases isTask : working.task with
  | request request =>
      rw [isTask] at planned
      have member := planned.subset (List.mem_singleton_self _)
      rw [sweep_commit_frame member isLoaded isCurrent tagged]
      exact ⟨fun same _ => same, fun same => same trivial⟩
  | work answers =>
      rw [isTask] at planned
      exact worker_commit_frame planned isLoaded isCurrent tagged

/-! ## The frame in every run -/

/-- The last commit of a worker run and the commit of a sweep leave the record
that was persisted before them as it was, but for the state, the results and what
changes with the attempts of its task. -/
def LeavesFrame (runtime : Runtime) (config : Config) (system : ExchangeSystem) :
    ExchangeLabel → Prop
  | .commit session => ∀ working exchangeId expected update before next,
      system.sessions session = some working →
      working.writes = [.guarded exchangeId expected update] →
      system.stored exchangeId = some before →
      sessionStep runtime config system (.commit session) = some next →
      ∃ after, next.stored exchangeId = some after ∧
        commitFrame after = commitFrame before
  | _ => True

/-- A loaded record is put back only over the OID4VP state that was loaded. -/
def Undisturbed (runtime : Runtime) (config : Config) (system : ExchangeSystem) :
    ExchangeLabel → Prop
  | .commit session => ∀ working exchangeId expected update before,
      system.sessions session = some working →
      working.writes = [.guarded exchangeId expected update] →
      system.stored exchangeId = some before →
      readVerifyTaskAttemptId before = some expected →
      CommitsSnapshot runtime config working.task working.loaded →
        oid4vpOf before = oid4vpOf working.loaded
  | _ => True

theorem commit_lands {system : ExchangeSystem} {session : Nat} {working : ExchangeSession}
    {exchangeId expected : String} {update : Exchange → Exchange} {before : Exchange}
    (found : system.sessions session = some working)
    (last : working.writes = [.guarded exchangeId expected update])
    (isStored : system.stored exchangeId = some before)
    (tagged : readVerifyTaskAttemptId before = some expected) :
    sessionStep runtime config system (.commit session) =
      some ((system.write exchangeId (update before)).move session (working.proceed [])) :=
  step_commit_matching found last isStored tagged

theorem leavesFrame_iff {final system : ExchangeSystem} {label : ExchangeLabel}
    (sound : Sound (exchangeProtocol runtime config)
      (Traced runtime config final lasting) system) :
    LeavesFrame runtime config system label ↔ Undisturbed runtime config system label := by
  cases label with
  | commit session =>
      constructor
      · intro leaves working exchangeId expected update before found last isStored tagged
        rcases leaves working exchangeId expected update before _ found last isStored
          (commit_lands found last isStored tagged) with ⟨after, isAfter, framed⟩
        have written : update before = after :=
          Option.some.inj ((Function.update_self exchangeId _ system.stored).symm.trans isAfter)
        rw [← written] at framed
        exact (last_commit_frame (sound.sessions session working found) last
          (sound.stored exchangeId before isStored) tagged).mp framed
      · intro undisturbed working exchangeId expected update before next found last isStored
          stepped
        by_cases tagged : readVerifyTaskAttemptId before = some expected
        · cases (commit_lands found last isStored tagged).symm.trans stepped
          refine ⟨update before, Function.update_self .., ?_⟩
          apply (last_commit_frame (sound.sessions session working found) last
            (sound.stored exchangeId before isStored) tagged).mpr
          exact undisturbed working exchangeId expected update before found last isStored
            tagged
        · have stale : sessionStep runtime config system (.commit session) =
              some (system.move session (working.proceed [])) :=
            step_commit_stale found last isStored tagged
          cases stale.symm.trans stepped
          exact ⟨before, isStored, rfl⟩
  | _ => exact Iff.rfl

/-- In every run, all final commits of the worker and all commits of sweeps leave
the frame exactly when each of them that puts back a loaded record finds the OID4VP
state it loaded. No two requests draw the same attempt id. -/
theorem commits_leave_frame_iff {labels : List ExchangeLabel} {final : ExchangeSystem}
    (distinct : (labels.filterMap drawnAttemptId).Nodup)
    (runs : Machine.run (sessionStep runtime config) SharedStore.start labels = some final) :
    Machine.Along (sessionStep runtime config) (LeavesFrame runtime config)
        SharedStore.start labels ↔
      Machine.Along (sessionStep runtime config) (Undisturbed runtime config)
        SharedStore.start labels := by
  rcases admits_along distinct runs with ⟨lasting, admits⟩
  apply Machine.along_congr
    (Sound (exchangeProtocol runtime config) (Traced runtime config final lasting))
    ?_ ?_ start_sound admits
  · intro system label next sound allowed stepped
    exact step_sound sound allowed stepped
  · intro system label sound
    exact leavesFrame_iff sound

end

/-! ### A state minted while the worker runs -/

def verifyCreation : Creation where
  data := .verify {
    exchangeHost := "http://localhost:4004"
    vprContext := []
    vprCredentialType := ["VerifiableCredential"]
    vprClaims := [] }
  answers := Finality.answersFor "exchange-1" Finality.badge true

def badgeSubmission : StoreRequest where
  workflowId := "verify"
  endpoint := .participate (presentationWith Finality.badge)
  answers := Finality.answersFor "attempt-1" Finality.badge true

def authorizationRequest : StoreRequest where
  workflowId := "verify"
  endpoint := .authorizationRequest
  answers := Finality.answersFor "unused" Finality.badge true

/-- A badge is submitted, and the worker marks its task as running. -/
def untilRunning : List ExchangeLabel :=
  [.create verifyCreation, .load 0 "exchange-1" (.request badgeSubmission), .put 0,
    .load 1 "exchange-1" (.work (Finality.answersFor "" Finality.badge true)), .commit 1]

/-- Nothing happens between the two commits of the worker. -/
theorem commits_leave_frame_in_turn :
    ∃ final, Machine.run (sessionStep Finality.badgeRuntime {}) SharedStore.start
        (untilRunning ++ [.commit 1]) = some final ∧
      Machine.Along (sessionStep Finality.badgeRuntime {})
        (LeavesFrame Finality.badgeRuntime {}) SharedStore.start
        (untilRunning ++ [.commit 1]) := by
  have ran : ∃ final, Machine.run (sessionStep Finality.badgeRuntime {}) SharedStore.start
      (untilRunning ++ [.commit 1]) = some final := ⟨_, rfl⟩
  rcases ran with ⟨final, runs⟩
  refine ⟨final, runs, (commits_leave_frame_iff (by decide) runs).mpr ?_⟩
  refine ⟨trivial, fun _ created => ?_⟩
  cases created
  refine ⟨trivial, fun _ loaded => ?_⟩
  cases loaded
  refine ⟨trivial, fun _ submitted => ?_⟩
  cases submitted
  refine ⟨trivial, fun _ picked => ?_⟩
  cases picked
  refine ⟨?_, fun _ marked => ?_⟩
  · intro working exchangeId expected update before found last
    cases found
    cases last
  · cases marked
    refine ⟨?_, fun _ _ => trivial⟩
    intro working exchangeId expected update before found last isStored _ _
    cases found
    cases last
    cases isStored
    rfl

/-- A wallet fetches the authorization request, which mints a state. -/
def untilMinted : List ExchangeLabel :=
  untilRunning ++ [.load 2 "exchange-1" (.request authorizationRequest), .put 2]

/-- The second commit of the worker loses the state minted since the first. -/
theorem minted_state_lost :
    (untilMinted.filterMap drawnAttemptId).Nodup ∧
    ∃ middle final before after,
      Machine.run (sessionStep Finality.badgeRuntime {}) SharedStore.start untilMinted =
        some middle ∧
      sessionStep Finality.badgeRuntime {} middle (.commit 1) = some final ∧
      middle.stored "exchange-1" = some before ∧ final.stored "exchange-1" = some after ∧
      (oid4vpOf before).isSome = true ∧ oid4vpOf after = none ∧
      ¬ LeavesFrame Finality.badgeRuntime {} middle (.commit 1) := by
  refine ⟨by decide, _, _, _, _, rfl, rfl, rfl, rfl, rfl, rfl, fun leaves => ?_⟩
  rcases leaves _ _ _ _ _ _ rfl rfl rfl rfl with ⟨after, isAfter, framed⟩
  cases isAfter
  have lost := congrArg oid4vpOf framed
  cases lost

end TransactionService.CommitFrame
