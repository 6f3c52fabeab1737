import TransactionService.Routes.Identity
import TransactionService.Workflows.Outcome
import TransactionService.World

namespace TransactionService.World

/-! # What a step does to one exchange -/

variable {runtime : Runtime} {config : Config}

inductive SlotStep (runtime : Runtime) (config : Config) (event : Event)
    (exchangeId : String) : Slot → Slot → Prop
  | unchanged {slot : Slot} : SlotStep runtime config event exchangeId slot slot
  | created {data : CreateData} {answers : Answers}
      (isOwn : (createExchange config answers data).exchangeId = exchangeId) :
      SlotStep runtime config event exchangeId .vacant
        (.stored (createExchange config answers data))
  | evicted {exchange : Exchange} :
      SlotStep runtime config event exchangeId (.stored exchange) .evicted
  | changed {workflowId : String} {endpoint : Endpoint} {answers : Answers}
      {before after : Exchange}
      (isRequest : event = .request exchangeId workflowId endpoint answers)
      (addressed : endpoint.takesPresentation = true → before.workflowId.text = workflowId)
      (change : Change runtime config answers endpoint before after) :
      SlotStep runtime config event exchangeId (.stored before) (.stored after)
  | worked {answers : Answers} {exchange : ExchangeDetailVerify} {task : VerifyTask}
      {after : Exchange} (isWork : event = .work answers)
      (hasTask : exchange.vars.verifyTask = some task)
      (unsettled : task.status.isTerminal = false)
      (stores : WorkerStores runtime config answers exchange task after) :
      SlotStep runtime config event exchangeId (.stored (.verify exchange)) (.stored after)

/-! ## Records stay under their id -/

def Keyed (world : World) : Prop :=
  ∀ exchangeId exchange, world.slots exchangeId = .stored exchange →
    exchange.exchangeId = exchangeId

theorem change_exchangeId {answers : Answers} {endpoint : Endpoint}
    {before after : Exchange}
    (change : Change runtime config answers endpoint before after) :
    after.exchangeId = before.exchangeId :=
  congrArg Identity.exchangeId change.identity

theorem workerStores_exchangeId {answers : Answers} {exchange : ExchangeDetailVerify}
    {task : VerifyTask} {after : Exchange}
    (stores : WorkerStores runtime config answers exchange task after) :
    after.exchangeId = exchange.exchangeId :=
  congrArg Identity.exchangeId stores.identity

theorem write_slots (world : World) (exchange : Exchange) (exchangeId : String) :
    (world.write (some exchange)).slots exchangeId =
      if exchangeId = exchange.exchangeId then .stored exchange
      else world.slots exchangeId := by
  simp only [write, Function.update_apply]

theorem after_slotStep {α : Type} {event : Event} {world : World} {action : Handler α}
    {owner : String}
    (writes : ∀ record, action.saved = some record → record.exchangeId = owner ∧
      SlotStep runtime config event owner (world.slots owner) (.stored record))
    (exchangeId : String) :
    SlotStep runtime config event exchangeId (world.slots exchangeId)
      ((world.after action).slots exchangeId) := by
  cases saved : action.saved with
  | none =>
      simp only [after, saved, write]
      exact .unchanged
  | some record =>
      rcases writes record saved with ⟨isOwner, slotStep⟩
      simp only [after, saved, write_slots, isOwner]
      by_cases same : exchangeId = owner
      · rw [if_pos same, same]
        exact slotStep
      · rw [if_neg same]
        exact .unchanged

theorem slot_of_record {slot : Slot} {exchange : Exchange}
    (found : slot.record = some exchange) : slot = .stored exchange := by
  cases slot with
  | stored other => exact congrArg Slot.stored (Option.some.inj found)
  | vacant => cases found
  | evicted => cases found

private theorem create_slotStep {world : World} {data : CreateData} {answers : Answers}
    (vacant : isVacant (world.slots (createExchange config answers data).exchangeId) = true)
    (exchangeId : String) :
    SlotStep runtime config (.create data answers) exchangeId (world.slots exchangeId)
      ((world.after (saveExchange answers (createExchange config answers data))).slots
        exchangeId) := by
  apply after_slotStep
  intro record saved
  cases saveExchange_saved saved
  refine ⟨rfl, ?_⟩
  cases slot : world.slots (createExchange config answers data).exchangeId with
  | vacant => exact .created rfl
  | stored exchange =>
      rw [slot] at vacant
      cases vacant
  | evicted =>
      rw [slot] at vacant
      cases vacant

private theorem expire_slotStep {world : World} {event : Event} {expired : String}
    {exchange : Exchange} (found : world.slots expired = .stored exchange)
    (exchangeId : String) :
    SlotStep runtime config event exchangeId (world.slots exchangeId)
      (Function.update world.slots expired .evicted exchangeId) := by
  by_cases same : exchangeId = expired
  · subst same
    simp only [Function.update_self, found]
    exact .evicted
  · simp only [Function.update_of_ne same]
    exact .unchanged

private theorem request_slotStep {world : World} (keyed : Keyed world)
    (requested workflowId : String) (endpoint : Endpoint) (answers : Answers)
    (exchangeId : String) :
    SlotStep runtime config (.request requested workflowId endpoint answers) exchangeId
      (world.slots exchangeId)
      ((world.after (serve runtime config answers workflowId endpoint
        (world.slots requested).record)).slots exchangeId) := by
  apply after_slotStep
  intro record saved
  rcases serve_saved saved with ⟨exchange, found, change⟩
  have slot := slot_of_record found
  refine ⟨(change_exchangeId change).trans (keyed requested exchange slot), ?_⟩
  rw [found] at saved
  rw [slot]
  exact .changed rfl (fun takes => serve_saved_workflowId takes saved) change

private theorem work_slotStep {world : World} (keyed : Keyed world) (answers : Answers)
    (head : String) (rest : List String) (exchangeId : String) :
    SlotStep runtime config (.work answers) exchangeId (world.slots exchangeId)
      ((({ world with queue := rest } : World).after
        (processVerifyTask runtime config answers (world.slots head).record)).slots
          exchangeId) := by
  change SlotStep runtime config (.work answers) exchangeId
    (({ world with queue := rest } : World).slots exchangeId) _
  apply after_slotStep
  intro record saved
  rcases processVerifyTask_saved runtime config answers saved with
    ⟨exchange, task, found, hasTask, unsettled, stores⟩
  have slot : world.slots head = .stored (.verify exchange) := slot_of_record found
  refine ⟨(workerStores_exchangeId stores).trans (keyed head _ slot), ?_⟩
  simp only [slot]
  exact .worked rfl hasTask unsettled stores

theorem step_slot {world next : World} {event : Event} (keyed : Keyed world)
    (stepped : step runtime config world event = some next) (exchangeId : String) :
    SlotStep runtime config event exchangeId (world.slots exchangeId)
      (next.slots exchangeId) := by
  cases event with
  | create data answers =>
      simp only [step] at stepped
      split at stepped
      · rename_i vacant
        cases stepped
        exact create_slotStep vacant exchangeId
      · cases stepped
  | expire expired =>
      simp only [step] at stepped
      split at stepped
      · rename_i exchange found
        cases stepped
        exact expire_slotStep found exchangeId
      · cases stepped
  | request requested workflowId endpoint answers =>
      cases stepped
      exact request_slotStep keyed requested workflowId endpoint answers exchangeId
  | work answers =>
      simp only [step] at stepped
      split at stepped
      · cases stepped
      · rename_i head rest waiting
        cases stepped
        exact work_slotStep keyed answers head rest exchangeId

theorem step_keyed {world next : World} {event : Event} (keyed : Keyed world)
    (stepped : step runtime config world event = some next) : Keyed next := by
  intro exchangeId exchange found
  have slotStep := step_slot keyed stepped exchangeId
  rw [found] at slotStep
  generalize before : world.slots exchangeId = slot at slotStep
  cases slotStep with
  | unchanged => exact keyed exchangeId exchange before
  | created isOwn => exact isOwn
  | changed isRequest addressed change =>
      rw [change_exchangeId change]
      exact keyed exchangeId _ before
  | worked isWork hasTask unsettled stores =>
      rw [workerStores_exchangeId stores]
      exact keyed exchangeId _ before

/-! ## Runs, record by record -/

section

variable {allowed : World → Event → Prop} {holds : Slot → Prop}

def EverySlot (holds : Slot → Prop) (world : World) : Prop :=
  Keyed world ∧ ∀ exchangeId, holds (world.slots exchangeId)

theorem start_everySlot (vacant : holds .vacant) : EverySlot holds start :=
  ⟨fun _ _ found => (nomatch found), fun _ => vacant⟩

theorem step_everySlot
    (keeps : ∀ world event exchangeId slot, allowed world event →
      holds (world.slots exchangeId) →
      SlotStep runtime config event exchangeId (world.slots exchangeId) slot → holds slot)
    {world next : World} {event : Event} (every : EverySlot holds world)
    (isAllowed : allowed world event)
    (stepped : step runtime config world event = some next) : EverySlot holds next :=
  ⟨step_keyed every.1 stepped, fun exchangeId =>
    keeps world event exchangeId _ isAllowed (every.2 exchangeId)
      (step_slot every.1 stepped exchangeId)⟩

theorem everySlot_of_run (vacant : holds .vacant)
    (keeps : ∀ world event exchangeId slot, allowed world event →
      holds (world.slots exchangeId) →
      SlotStep runtime config event exchangeId (world.slots exchangeId) slot → holds slot)
    {events : List Event} {final : World}
    (along : Machine.Along (step runtime config) allowed start events)
    (runs : Machine.run (step runtime config) start events = some final) :
    EverySlot holds final :=
  Machine.invariant_of_run (EverySlot holds)
    (fun _ _ _ every isAllowed stepped => step_everySlot keeps every isAllowed stepped)
    (start_everySlot vacant) along runs

/-- A relation between what is stored under an id before and after, respected by
every allowed step from a slot that meets the invariant. -/
theorem slots_related_of_run (relates : Slot → Slot → Prop)
    (reflexive : ∀ slot, relates slot slot)
    (transitive : ∀ {first second third}, relates first second →
      relates second third → relates first third)
    (keeps : ∀ world event exchangeId slot, allowed world event →
      holds (world.slots exchangeId) →
      SlotStep runtime config event exchangeId (world.slots exchangeId) slot →
      holds slot ∧ relates (world.slots exchangeId) slot)
    {events : List Event} {middle final : World} (every : EverySlot holds middle)
    (along : Machine.Along (step runtime config) allowed middle events)
    (runs : Machine.run (step runtime config) middle events = some final)
    (exchangeId : String) : relates (middle.slots exchangeId) (final.slots exchangeId) := by
  refine Machine.relation_of_run (EverySlot holds)
    (fun before after => relates (before.slots exchangeId) (after.slots exchangeId))
    (fun _ => reflexive _) transitive ?_ every along runs
  intro world event next slots isAllowed stepped
  refine ⟨step_everySlot (fun world event exchangeId slot isAllowed before slotStep =>
    (keeps world event exchangeId slot isAllowed before slotStep).1) slots isAllowed
      stepped, ?_⟩
  exact (keeps world event exchangeId _ isAllowed (slots.2 exchangeId)
    (step_slot slots.1 stepped exchangeId)).2

end

/-! ## Changes of a verify exchange -/

def submissionOf (runtime : Runtime) :
    Endpoint → ExchangeDetailVerify → Option (Json × ExchangeDetailVerify)
  | .participate data, detail =>
      if detail.state = .complete ∨ isEmptyBody data then none else some (data, detail)
  | .directPost body, detail =>
      if detail.state = .complete then none
      else (acceptDirectPost runtime body detail).toOption
  | _, _ => none

/-- The OID4VP path makes a submission on an exchange that is marked as answered;
nothing else differs. -/
def SameBinding (detail working : ExchangeDetailVerify) : Prop :=
  working = detail ∨ ∃ state, working = withOid4vp detail state

/-- The submission is answered by the verifier, finds no Open Badges credential,
and the store accepts the write. -/
structure FinalizedAtOnce (runtime : Runtime) (config : Config) (answers : Answers)
    (endpoint : Endpoint) (detail working : ExchangeDetailVerify)
    (result : PresentationVerificationResult) : Prop where
  submits : ∃ data, submissionOf runtime endpoint detail = some (data, working) ∧
    submittedResult runtime config answers data working = some result
  noOpenBadges : identifyOpenBadgesCredentialIndices runtime result.credentialResults = []
  accepted : answers.accepted 0 = true

inductive VerifyChange (runtime : Runtime) (config : Config) (answers : Answers)
    (endpoint : Endpoint) (detail : ExchangeDetailVerify) : ExchangeDetailVerify → Prop
  | activated (pending : detail.state = .pending) :
      VerifyChange runtime config answers endpoint detail { detail with state := .active }
  | rebound (state : ExchangeOid4vpState) :
      VerifyChange runtime config answers endpoint detail (withOid4vp detail state)
  | untouched : VerifyChange runtime config answers endpoint detail detail
  | retried {task : VerifyTask} (active : detail.state = .active)
      (hasTask : detail.vars.verifyTask = some task) (pending : task.status.isPending = true)
      (again : task.attempt < task.maxAttempts) :
      VerifyChange runtime config answers endpoint detail (withVerifyTask detail
        (bumpAttempt (answers.clock 1) (answers.randomUUID 0) task
          config.verifyTaskDeadlineMs))
  | gaveUp {task : VerifyTask} (active : detail.state = .active)
      (hasTask : detail.vars.verifyTask = some task) (pending : task.status.isPending = true) :
      VerifyChange runtime config answers endpoint detail (gaveUpExchange detail task)
  | finalized {working stored : ExchangeDetailVerify}
      {result : PresentationVerificationResult} {log : List CheckResult} {debug : Bool}
      (same : SameBinding detail working)
      (atOnce : FinalizedAtOnce runtime config answers endpoint detail working result)
      (applied : applyVerificationResults working result log debug = .ok stored) :
      VerifyChange runtime config answers endpoint detail stored
  | queued {working stored : ExchangeDetailVerify}
      {result : PresentationVerificationResult} {log : List CheckResult} {debug : Bool}
      (same : SameBinding detail working)
      (applied : withSyncResultsAndQueuedVerifyTask config answers working result log debug
        (identifyOpenBadgesCredentialIndices runtime result.credentialResults) = .ok stored) :
      VerifyChange runtime config answers endpoint detail stored

theorem submission_verifyChange {answers : Answers} {endpoint : Endpoint}
    {detail working : ExchangeDetailVerify} {data : Json} {after : Exchange}
    (same : SameBinding detail working)
    (submits : submissionOf runtime endpoint detail = some (data, working))
    (stores : SubmissionStores runtime config answers data working after) :
    ∃ next, after = .verify next ∧
      VerifyChange runtime config answers endpoint detail next := by
  cases stores with
  | finalized accepted answered noOpenBadges applied =>
      exact ⟨_, rfl, .finalized same ⟨⟨data, submits, answered⟩, noOpenBadges, accepted⟩
        applied⟩
  | queued accepted answered openBadges applied => exact ⟨_, rfl, .queued same applied⟩

theorem change_verify {answers : Answers} {endpoint : Endpoint}
    {detail : ExchangeDetailVerify} {after : Exchange}
    (change : Change runtime config answers endpoint (.verify detail) after) :
    ∃ next, after = .verify next ∧
      VerifyChange runtime config answers endpoint detail next := by
  cases change with
  | activated pending => exact ⟨_, rfl, .activated pending⟩
  | submitted ongoing nonempty stores =>
      apply submission_verifyChange (.inl rfl) ?_ stores
      simp [submissionOf, ongoing, nonempty]
  | swept planned =>
      rcases planSweep_eq_some config answers planned with
        ⟨exchange, task, same, active, hasTask, pending, -, ⟨again, rfl⟩ | ⟨-, rfl⟩⟩
      · cases same
        exact ⟨_, rfl, .retried active hasTask pending again⟩
      · cases same
        exact ⟨_, rfl, .gaveUp active hasTask pending⟩
  | requested =>
      rcases ensureOid4vpState_cases answers detail with same | ⟨fresh, same⟩
      · rw [same]
        exact ⟨_, rfl, .untouched⟩
      · rw [same]
        exact ⟨_, rfl, .rebound fresh⟩
  | answered ongoing accepted stores =>
      rename_i body presentation working
      have binding : ∃ state, working = withOid4vp detail state := by
        rcases acceptDirectPost_ok runtime accepted with ⟨_, _, -, -, consumed, -, -⟩
        rcases consumeOid4vpResponse_ok consumed with ⟨_, -, -, -, same⟩
        exact ⟨_, same⟩
      apply submission_verifyChange (.inr binding) ?_ stores
      simp [submissionOf, ongoing, accepted, Except.toOption]

theorem change_workflowId {answers : Answers} {endpoint : Endpoint}
    {before after : Exchange}
    (change : Change runtime config answers endpoint before after) :
    after.workflowId = before.workflowId :=
  congrArg Identity.workflowId change.identity

/-! ## Submissions over the task of an earlier one -/

/-- A submission is finalized at once over the task of an earlier one only where
`allows` holds. -/
def LeavesTask (runtime : Runtime) (config : Config)
    (allows : ExchangeDetailVerify → PresentationVerificationResult → VerifyTask → Prop)
    (world : World) (event : Event) : Prop :=
  ∀ exchangeId answers endpoint detail working result task,
    event = .request exchangeId WorkflowId.verify.text endpoint answers →
    world.slots exchangeId = .stored (.verify detail) →
    detail.vars.verifyTask = some task →
    FinalizedAtOnce runtime config answers endpoint detail working result →
    ¬ Outcome.ClaimsThrow working result → allows working result task

theorem FinalizedAtOnce.takesPresentation {answers : Answers} {endpoint : Endpoint}
    {detail working : ExchangeDetailVerify} {result : PresentationVerificationResult}
    (atOnce : FinalizedAtOnce runtime config answers endpoint detail working result) :
    endpoint.takesPresentation = true := by
  rcases atOnce.submits with ⟨data, submits, -⟩
  cases endpoint with
  | participate data => rfl
  | directPost body => rfl
  | _ => cases submits

theorem SameBinding.verifyTask {detail working : ExchangeDetailVerify}
    (same : SameBinding detail working) :
    working.vars.verifyTask = detail.vars.verifyTask := by
  rcases same with rfl | ⟨state, rfl⟩
  · rfl
  · rfl

theorem applied_verifyTask {working stored : ExchangeDetailVerify}
    {result : PresentationVerificationResult} {log : List CheckResult} {debug : Bool}
    (applied : applyVerificationResults working result log debug = .ok stored) :
    stored.vars.verifyTask = working.vars.verifyTask := by
  rcases applyVerificationResults_ok applied with ⟨_, -, -, -, -, -, rfl⟩
  rfl

theorem finalized_leaves
    {allows : ExchangeDetailVerify → PresentationVerificationResult → VerifyTask → Prop}
    {world : World} {exchangeId workflowId : String} {endpoint : Endpoint}
    {answers : Answers} {detail working stored : ExchangeDetailVerify}
    {result : PresentationVerificationResult} {task : VerifyTask}
    {log : List CheckResult} {debug : Bool}
    (leaves : LeavesTask runtime config allows world
      (.request exchangeId workflowId endpoint answers))
    (found : world.slots exchangeId = .stored (.verify detail))
    (addressed : endpoint.takesPresentation = true →
      WorkflowId.verify.text = workflowId)
    (same : SameBinding detail working)
    (atOnce : FinalizedAtOnce runtime config answers endpoint detail working result)
    (applied : applyVerificationResults working result log debug = .ok stored)
    (hasTask : stored.vars.verifyTask = some task) : allows working result task := by
  have quiet := Outcome.not_claimsThrow applied
  have isVerify := addressed atOnce.takesPresentation
  have earlier : detail.vars.verifyTask = some task := by
    rw [← same.verifyTask, ← applied_verifyTask applied]
    exact hasTask
  exact leaves exchangeId answers endpoint detail working result task (by rw [isVerify])
    found earlier atOnce quiet

/-- No presentation comes to an exchange that has a task and is not complete. -/
def isUnburdened (world : World) : Event → Bool
  | .request exchangeId _ _ _ =>
      match world.slots exchangeId with
      | .stored (.verify detail) =>
          detail.vars.verifyTask.isNone || decide (detail.state = .complete)
      | _ => true
  | _ => true

theorem leavesTask_of_isUnburdened
    {allows : ExchangeDetailVerify → PresentationVerificationResult → VerifyTask → Prop}
    {world : World} {event : Event} (unburdened : isUnburdened world event = true) :
    LeavesTask runtime config allows world event := by
  intro exchangeId answers endpoint detail working result task isRequest found hasTask atOnce
  subst isRequest
  simp only [isUnburdened, found, hasTask, Option.isNone_some, Bool.false_or,
    decide_eq_true_eq] at unburdened
  rcases atOnce.submits with ⟨data, submits, -⟩
  cases endpoint with
  | participate posted => simp [submissionOf, unburdened] at submits
  | directPost body => simp [submissionOf, unburdened] at submits
  | _ => cases submits

end TransactionService.World
