import TransactionService.Store
import TransactionService.VerifyTask.Lifecycle

namespace TransactionService

/-! # The sweep

`lib/verify-task/sweep-verify-task.ts`: what a read of an exchange does about an
attempt whose deadline has lapsed. -/

def synthesizePipelineTimeoutCheckResult (task : VerifyTask) : CheckResult :=
  let base := "Open Badges verification did not finish within deadline after " ++
    toString task.attempt ++ " attempt(s)."
  let detail := match task.lastError with
    | some lastError => base ++ " Last error: " ++ lastError.message
    | none => base
  { id := "pipeline.timeout"
    outcome := .failure [{
      type := "urn:dcc:verifier-pipeline:timeout"
      title := "Verification timeout"
      detail }]
    fatal := some true }

def appendAllResult (results : Option VerificationResult) (check : CheckResult) :
    VerificationResult :=
  match results with
  | none => {
      verified := false
      presentationResults := [check]
      credentialResults := []
      matchedCredentials := []
      summary := [] }
  | some results => { results with
      verified := false
      presentationResults := results.presentationResults ++ [check] }

def gaveUpExchange (exchange : ExchangeDetailVerify) (task : VerifyTask) :
    ExchangeDetailVerify :=
  { exchange with
    state := .invalid
    vars := { exchange.vars with
      verifyTask := some (markGaveUp task)
      results := some (appendAllResult exchange.vars.results
        (synthesizePipelineTimeoutCheckResult task)) } }

/-- What a sweep is going to write over the attempt it saw, and whether it
enqueues the exchange afterwards. -/
structure SweepPlan where
  expectedAttemptId : String
  next : ExchangeDetailVerify
  enqueues : Bool

section

variable (config : Config) (answers : Answers)

def retryPlan (exchange : ExchangeDetailVerify) (task : VerifyTask) : SweepPlan where
  expectedAttemptId := task.attemptId
  next := withVerifyTask exchange
    (bumpAttempt (answers.clock 1) (answers.randomUUID 0) task config.verifyTaskDeadlineMs)
  enqueues := true

def giveUpPlan (exchange : ExchangeDetailVerify) (task : VerifyTask) : SweepPlan where
  expectedAttemptId := task.attemptId
  next := gaveUpExchange exchange task
  enqueues := false

def planSweep (loaded : Exchange) : Option SweepPlan :=
  match loaded with
  | .verify exchange =>
      if exchange.state ≠ .active then none
      else
        match exchange.vars.verifyTask with
        | none => none
        | some task =>
            if !task.status.isPending then none
            else if task.deadlineAt > answers.clock 0 then none
            else if task.attempt < task.maxAttempts then
              some (retryPlan config answers exchange task)
            else some (giveUpPlan exchange task)
  | _ => none

/-- Sweep the exchange that was loaded; `stored` is what the store holds when
the guarded write runs. -/
def sweepIfTimedOut (loaded : Exchange) (stored : Option Exchange) : Handler Exchange :=
  match planSweep config answers loaded with
  | none => return loaded
  | some plan => do
      let result ← saveExchangeWithCAS (answers.accepted 0) stored plan.expectedAttemptId
        (fun _ => .verify plan.next)
      match result with
      | .committed _ => do
          if plan.enqueues then
            Action.perform (.enqueueVerifyTask loaded.exchangeId) (.ok ())
          return .verify plan.next
      | _ => do
          let reloaded ← Action.ofExcept (loadVerifyExchange stored)
          return .verify reloaded

theorem planSweep_eq_some {loaded : Exchange} {plan : SweepPlan}
    (planned : planSweep config answers loaded = some plan) :
    ∃ exchange task, loaded = .verify exchange ∧ exchange.state = .active ∧
      exchange.vars.verifyTask = some task ∧ task.status.isPending = true ∧
      task.deadlineAt ≤ answers.clock 0 ∧
      ((task.attempt < task.maxAttempts ∧ plan = retryPlan config answers exchange task) ∨
        (¬ task.attempt < task.maxAttempts ∧ plan = giveUpPlan exchange task)) := by
  unfold planSweep at planned
  split at planned
  · rename_i exchange
    split at planned
    · cases planned
    · rename_i active
      split at planned
      · cases planned
      · rename_i task hasTask
        split at planned
        · cases planned
        · rename_i pending
          split at planned
          · cases planned
          · rename_i lapsed
            refine ⟨exchange, task, rfl, Decidable.not_not.mp active, hasTask,
              by simpa using pending, Int.not_lt.mp lapsed, ?_⟩
            split at planned
            · rename_i again
              exact .inl ⟨again, (Option.some.inj planned).symm⟩
            · rename_i spent
              exact .inr ⟨spent, (Option.some.inj planned).symm⟩
  · cases planned

theorem sweepIfTimedOut_saved {loaded : Exchange} {stored : Option Exchange}
    {record : Exchange}
    (writes : (sweepIfTimedOut config answers loaded stored).saved = some record) :
    ∃ plan, planSweep config answers loaded = some plan ∧ record = .verify plan.next := by
  unfold sweepIfTimedOut at writes
  split at writes
  · cases writes
  · rename_i plan planned
    refine ⟨plan, planned, ?_⟩
    rcases Action.saved_bind writes with written | ⟨result, -, later⟩
    · rcases saveExchangeWithCAS_saved written with ⟨current, -, -, same⟩
      exact same
    · split at later
      · dsimp only at later
        split at later
        · rcases Action.saved_bind later with nothing | ⟨_, -, nothing⟩ <;> cases nothing
        · cases later
      · rcases Action.saved_bind later with reloads | ⟨_, -, returns⟩
        · cases reloads
        · cases returns

end

end TransactionService
