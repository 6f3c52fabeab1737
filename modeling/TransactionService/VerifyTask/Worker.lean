import TransactionService.VerifyTask.Lifecycle
import TransactionService.Workflows.VerifySubmission

namespace TransactionService

/-! # The Open Badges worker

`lib/verify-task/verify-task-worker.ts`: merging the Open Badges results into
the stored ones, and the two guarded writes of a run. -/

/-! ## Merging -/

def unseenSummaries : (seen : List String) → List SuiteSummary → List SuiteSummary
  | _, [] => []
  | seen, summary :: rest =>
      if seen.contains summary.id then unseenSummaries seen rest
      else summary :: unseenSummaries (summary.id :: seen) rest

def mergeSummaries (existing incoming : List SuiteSummary) : List SuiteSummary :=
  existing ++ unseenSummaries (existing.map (·.id)) incoming

/-- Incoming registry checks replace the existing ones; of the other checks the
existing one wins. -/
def mergeResults (existing incoming : List CheckResult) : List CheckResult :=
  let existingNonRegistry := existing.filter (!isTrustRegistryCheck ·)
  let incomingRegistry := incoming.filter isTrustRegistryCheck
  let keptIds := existingNonRegistry.map (·.id)
  let appendedNonRegistry := incoming.filter fun check =>
    !isTrustRegistryCheck check && !keptIds.contains check.id
  existingNonRegistry ++ incomingRegistry ++ appendedNonRegistry

/-- The stored form of an Open Badges check; an empty id counts as missing. -/
def openBadgesCheckResult (check : CoreCheckResult) : CheckResult where
  id := (Text.given check.id).getD
    (check.suite.getD "unknown" ++ "." ++ check.check.getD "unknown")
  outcome := check.outcome
  fatal := check.fatal
  timing := check.timing

def mergeCredentialResult (prev : CredentialVerificationResult CheckResult)
    (obResult : CredentialVerificationResult CoreCheckResult) :
    CredentialVerificationResult CheckResult :=
  { prev with
    verified := prev.verified && obResult.verified
    results := mergeResults prev.results (obResult.results.map openBadgesCheckResult)
    summary := mergeSummaries prev.summary obResult.summary }

def mergeOpenBadgesResultsAt (merged : VerificationResult) (index : Nat)
    (obResult : CredentialVerificationResult CoreCheckResult) : VerificationResult :=
  match merged.credentialResults[index]? with
  | none => merged
  | some prev => { merged with
      verified := merged.verified && obResult.verified
      credentialResults :=
        merged.credentialResults.set index (mergeCredentialResult prev obResult) }

/-! ## A run of the worker -/

section

variable (runtime : Runtime) (config : Config) (answers : Answers)

def openbadgesSuitesFor (_credential : Json) : List String :=
  ["openBadgesSuite"]

def openBadgesCallFor (exchange : ExchangeDetailVerify) (credential : Json) :
    VerifyCredentialCall where
  credential := credential
  additionalSuites := openbadgesSuitesFor credential
  registries := registriesFor runtime config exchange
  verbose := (verifierOptions exchange).verbose
  timing := (verifierOptions exchange).timing

/-- Verify the credentials at the given indices and merge the results in.
`made` counts the calls made before. -/
def openBadgesPass (exchange : ExchangeDetailVerify) :
    (made : Nat) → VerificationResult → List Nat →
      Action Call Exchange String VerificationResult
  | _, merged, [] => return merged
  | made, merged, index :: rest =>
      match merged.credentialResults[index]?.bind presentCredential with
      | none => openBadgesPass exchange made merged rest
      | some credential => do
          let call := openBadgesCallFor runtime config exchange credential
          let obResult ← Action.perform (.verifyCredential call)
            (answers.verifyCredential made call)
          openBadgesPass exchange (made + 1)
            (mergeOpenBadgesResultsAt merged index obResult) rest

inductive ProcessVerifyTaskOutcome
  | noTask
  | alreadyTerminal
  | notFound
  | stale
  | succeeded
  | failed
deriving DecidableEq

/-- What a run is going to write over the attempt it captured. -/
structure WorkerPlan where
  expectedAttemptId : String
  running : Exchange → Exchange
  final : Exchange → Exchange
  outcome : ProcessVerifyTaskOutcome
  calls : List Call

def settledExchange (exchange : ExchangeDetailVerify) (task : VerifyTask)
    (merged : VerificationResult) : ExchangeDetailVerify :=
  { exchange with
    state := if merged.verified then .complete else .invalid
    vars := { exchange.vars with
      results := some merged
      verifyTask := some (markSucceeded task) } }

def failureUpdate (task : VerifyTask) (message : String) : Exchange → Exchange :=
  Exchange.mapVerify fun current =>
    withVerifyTask current (markFailed (answers.clock 1) task message)

def planFor (exchange : ExchangeDetailVerify) (task : VerifyTask) : WorkerPlan :=
  let running := Exchange.mapVerify fun current =>
    withVerifyTask current (markRunning (answers.clock 0) task)
  match exchange.vars.results with
  | none => {
      expectedAttemptId := task.attemptId
      running
      final := failureUpdate answers task
        "verifyTask present but variables.results.default is missing"
      outcome := .failed
      calls := [] }
  | some baseResults =>
      let pass := openBadgesPass runtime config answers exchange 0 baseResults
        task.openBadgesCredentialIndices
      match pass.result with
      | .error message => {
          expectedAttemptId := task.attemptId
          running
          final := failureUpdate answers task message
          outcome := .failed
          calls := pass.calls }
      | .ok merged => {
          expectedAttemptId := task.attemptId
          running
          final := fun _ => .verify (settledExchange exchange task merged)
          outcome := .succeeded
          calls := pass.calls }

def planWorker (stored : Option Exchange) :
    Except ProcessVerifyTaskOutcome WorkerPlan :=
  match loadVerifyExchange stored with
  | .error _ => .error .notFound
  | .ok exchange =>
      match exchange.vars.verifyTask with
      | none => .error .noTask
      | some task =>
          if task.status.isTerminal then .error .alreadyTerminal
          else .ok (planFor runtime config answers exchange task)

def SaveExchangeWithCASResult.storedOver (before : Option Exchange) :
    SaveExchangeWithCASResult → Option Exchange
  | .committed exchange => some exchange
  | _ => before

/-- A run that nothing else interrupts. -/
def processVerifyTask (stored : Option Exchange) : Handler ProcessVerifyTaskOutcome :=
  match planWorker runtime config answers stored with
  | .error outcome => return outcome
  | .ok plan => do
      let marked ← saveExchangeWithCAS (answers.accepted 0) stored
        plan.expectedAttemptId plan.running
      Action.logged plan.calls
      let result ← saveExchangeWithCAS (answers.accepted 1) (marked.storedOver stored)
        plan.expectedAttemptId plan.final
      return match result with
        | .committed _ => plan.outcome
        | .stale _ => .stale
        | .notFound => .notFound

/-! ## What a run stores -/

def runningExchange (exchange : ExchangeDetailVerify) (task : VerifyTask) :
    ExchangeDetailVerify :=
  withVerifyTask exchange (markRunning (answers.clock 0) task)

theorem planFor_expectedAttemptId (exchange : ExchangeDetailVerify) (task : VerifyTask) :
    (planFor runtime config answers exchange task).expectedAttemptId = task.attemptId := by
  unfold planFor
  cases exchange.vars.results with
  | none => rfl
  | some results =>
      dsimp only
      split <;> rfl

theorem planFor_running_eq (exchange : ExchangeDetailVerify) (task : VerifyTask) :
    (planFor runtime config answers exchange task).running =
      Exchange.mapVerify fun current =>
        withVerifyTask current (markRunning (answers.clock 0) task) := by
  unfold planFor
  cases exchange.vars.results with
  | none => rfl
  | some results =>
      dsimp only
      split <;> rfl

theorem planFor_running (exchange : ExchangeDetailVerify) (task : VerifyTask) :
    (planFor runtime config answers exchange task).running (.verify exchange) =
      .verify (runningExchange answers exchange task) := by
  rw [planFor_running_eq]
  rfl

theorem planWorker_eq_ok {stored : Option Exchange} {plan : WorkerPlan} :
    planWorker runtime config answers stored = .ok plan ↔
      ∃ exchange task, stored = some (.verify exchange) ∧
        exchange.vars.verifyTask = some task ∧ task.status.isTerminal = false ∧
        plan = planFor runtime config answers exchange task := by
  unfold planWorker
  constructor
  · intro planned
    split at planned
    · cases planned
    · rename_i exchange loaded
      have found : stored = some (.verify exchange) := by
        unfold loadVerifyExchange at loaded
        split at loaded
        · cases loaded
          rfl
        · cases loaded
      split at planned
      · cases planned
      · rename_i task hasTask
        split at planned
        · cases planned
        · rename_i unsettled
          cases planned
          exact ⟨exchange, task, found, hasTask, by simpa using unsettled, rfl⟩
  · rintro ⟨exchange, task, rfl, hasTask, unsettled, rfl⟩
    simp [loadVerifyExchange, hasTask, unsettled]

theorem readVerifyTaskAttemptId_verify {exchange : ExchangeDetailVerify} {task : VerifyTask}
    (hasTask : exchange.vars.verifyTask = some task) :
    readVerifyTaskAttemptId (.verify exchange) = some task.attemptId := by
  simp [readVerifyTaskAttemptId, hasTask]

/-- Both writes of an uninterrupted run find the attempt it captured. -/
theorem processVerifyTask_eq {exchange : ExchangeDetailVerify} {task : VerifyTask}
    (hasTask : exchange.vars.verifyTask = some task)
    (unsettled : task.status.isTerminal = false) :
    processVerifyTask runtime config answers (some (.verify exchange)) =
      let plan := planFor runtime config answers exchange task
      let running := Exchange.verify (runningExchange answers exchange task)
      if answers.accepted 0 then
        if answers.accepted 1 then
          { calls := plan.calls
            saved := some (plan.final running)
            result := .ok plan.outcome }
        else
          { calls := plan.calls
            saved := some running
            result := .error (.http { status := 500, message := "Failed to save exchange." }) }
      else throwHttp 500 "Failed to save exchange." := by
  have planned : planWorker runtime config answers (some (.verify exchange)) =
      .ok (planFor runtime config answers exchange task) :=
    (planWorker_eq_ok runtime config answers).mpr
      ⟨exchange, task, rfl, hasTask, unsettled, rfl⟩
  have loaded := readVerifyTaskAttemptId_verify hasTask
  have marked : readVerifyTaskAttemptId
      (.verify (runningExchange answers exchange task)) = some task.attemptId := rfl
  simp only [processVerifyTask, planned, planFor_expectedAttemptId]
  rw [saveExchangeWithCAS_current loaded, planFor_running]
  cases first : answers.accepted 0 with
  | false => rfl
  | true =>
      rw [if_pos rfl, Action.bind_ok rfl]
      dsimp only [SaveExchangeWithCASResult.storedOver]
      rw [saveExchangeWithCAS_current marked]
      cases second : answers.accepted 1 with
      | false => simp [throwHttp, Action.fail, Action.logged, Bind.bind, Action.bind]
      | true => simp [Action.logged, Bind.bind, Action.bind]

inductive WorkerStores (exchange : ExchangeDetailVerify) (task : VerifyTask) :
    Exchange → Prop
  | running : WorkerStores exchange task (.verify (runningExchange answers exchange task))
  | failed (message : String) :
      WorkerStores exchange task
        (.verify (withVerifyTask exchange (markFailed (answers.clock 1) task message)))
  | settled {base merged : VerificationResult}
      (hasResults : exchange.vars.results = some base)
      (passed : (openBadgesPass runtime config answers exchange 0 base
        task.openBadgesCredentialIndices).result = .ok merged) :
      WorkerStores exchange task (.verify (settledExchange exchange task merged))

theorem planFor_final_cases (exchange : ExchangeDetailVerify) (task : VerifyTask) :
    (∃ message, (planFor runtime config answers exchange task).final =
        failureUpdate answers task message ∧
        ∀ base, exchange.vars.results = some base →
          ∀ merged, (openBadgesPass runtime config answers exchange 0 base
            task.openBadgesCredentialIndices).result ≠ .ok merged) ∨
      ∃ base merged, exchange.vars.results = some base ∧
        (openBadgesPass runtime config answers exchange 0 base
          task.openBadgesCredentialIndices).result = .ok merged ∧
        (planFor runtime config answers exchange task).final =
          fun _ => .verify (settledExchange exchange task merged) := by
  unfold planFor
  cases hasResults : exchange.vars.results with
  | none => exact .inl ⟨_, rfl, fun _ found => (nomatch found)⟩
  | some base =>
      dsimp only
      split
      · rename_i message fails
        refine .inl ⟨message, rfl, ?_⟩
        intro other same merged passes
        cases same
        cases fails.symm.trans passes
      · rename_i merged passed
        exact .inr ⟨base, merged, rfl, passed, rfl⟩

private theorem planFor_final (exchange : ExchangeDetailVerify) (task : VerifyTask) :
    WorkerStores runtime config answers exchange task
      ((planFor runtime config answers exchange task).final
        (.verify (runningExchange answers exchange task))) := by
  rcases planFor_final_cases runtime config answers exchange task with
    ⟨message, isFailure, -⟩ | ⟨base, merged, hasResults, passed, isSettled⟩
  · rw [isFailure]
    exact .failed message
  · rw [isSettled]
    exact .settled hasResults passed

theorem processVerifyTask_saved {stored : Option Exchange} {record : Exchange}
    (writes : (processVerifyTask runtime config answers stored).saved = some record) :
    ∃ exchange task, stored = some (.verify exchange) ∧
      exchange.vars.verifyTask = some task ∧ task.status.isTerminal = false ∧
      WorkerStores runtime config answers exchange task record := by
  cases planned : planWorker runtime config answers stored with
  | error outcome =>
      simp [processVerifyTask, planned] at writes
  | ok plan =>
      rcases (planWorker_eq_ok runtime config answers).mp planned with
        ⟨exchange, task, rfl, hasTask, unsettled, rfl⟩
      refine ⟨exchange, task, rfl, hasTask, unsettled, ?_⟩
      rw [processVerifyTask_eq runtime config answers hasTask unsettled] at writes
      dsimp only at writes
      split at writes
      · split at writes
        · cases writes
          exact planFor_final runtime config answers exchange task
        · cases writes
          exact .running
      · cases writes

end

end TransactionService
