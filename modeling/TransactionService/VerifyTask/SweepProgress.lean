import TransactionService.Foundation.History
import TransactionService.VerifyTask.Sweep

namespace TransactionService.SweepProgress

open History

/-! # What a sequence of sweeps does

Sweeps of one record, one after the other, at whatever times. Each one that
finds the deadline lapsed and the store willing uses up an attempt or, when none
is left, gives the task up. -/

abbrev SweepEntry := Entry Exchange Answers
abbrev SweptRecord := Recorded Exchange Answers

inductive SweepEffect
  | retry
  | giveUp
deriving DecidableEq

section

variable (config : Config)

def sweepOf (entry : SweepEntry) : Handler Exchange :=
  sweepIfTimedOut config entry.operation entry.found (some entry.found)

def swept (answers : Answers) (stored : Exchange) : Exchange :=
  (sweepIfTimedOut config answers stored (some stored)).saved.getD stored

def sweepAll (exchange : Exchange) (sweeps : List Answers) : SweptRecord :=
  sweeps.foldl (next (swept config)) (start exchange)

def effectOf (entry : SweepEntry) : Option SweepEffect :=
  (sweepOf config entry).saved.map fun _ =>
    if (sweepOf config entry).calls.isEmpty then .giveUp else .retry

def effects (recorded : SweptRecord) : List SweepEffect :=
  recorded.past.reverse.filterMap (effectOf config)

def retryIds (recorded : SweptRecord) : List String :=
  (recorded.past.reverse.filter fun entry => effectOf config entry = some .retry).map
    fun entry => entry.operation.randomUUID 0

def isDue (entry : SweepEntry) : Bool :=
  (entry.found.verifyTask.any fun task => task.deadlineAt ≤ entry.operation.clock 0) &&
    entry.operation.accepted 0

def retries (task : VerifyTask) : Nat :=
  (task.maxAttempts - task.attempt).toNat

def script (task : VerifyTask) : List SweepEffect :=
  List.replicate (retries task) .retry ++ [.giveUp]

/-! ## One sweep -/

def retriedTask (answers : Answers) (task : VerifyTask) : VerifyTask where
  attemptId := answers.randomUUID 0
  queuedAt := answers.clock 1
  startedAt := none
  deadlineAt := answers.clock 1 + config.verifyTaskDeadlineMs
  attempt := task.attempt + 1
  maxAttempts := task.maxAttempts
  openBadgesCredentialIndices := task.openBadgesCredentialIndices
  status := .queued
  lastError := none

structure Effective (entry : SweepEntry) (exchange : ExchangeDetailVerify)
    (task : VerifyTask) : Prop where
  found : entry.found = .verify exchange
  hasTask : exchange.vars.verifyTask = some task
  lapsed : task.deadlineAt ≤ entry.operation.clock 0

structure SweepSpec (entry : SweepEntry) : Prop where
  early : ∀ task, entry.found.verifyTask = some task →
    entry.operation.clock 0 < task.deadlineAt →
    sweepOf config entry = { result := .ok entry.found }
  inactive : entry.found.state ≠ .active →
    sweepOf config entry = { result := .ok entry.found }
  idle : effectOf config entry = none →
    sweepOf config entry = { result := .ok entry.found } ∨
      (entry.operation.accepted 0 = false ∧
        sweepOf config entry = throwHttp 500 "Failed to save exchange.")
  retry : effectOf config entry = some .retry → ∃ exchange task,
    Effective entry exchange task ∧ task.attempt < task.maxAttempts ∧
    sweepOf config entry =
      { calls := [.enqueueVerifyTask exchange.exchangeId]
        saved := some (.verify (withVerifyTask exchange
          (retriedTask config entry.operation task)))
        result := .ok (.verify (withVerifyTask exchange
          (retriedTask config entry.operation task))) }
  giveUp : effectOf config entry = some .giveUp → ∃ exchange task,
    Effective entry exchange task ∧ ¬ task.attempt < task.maxAttempts ∧
    sweepOf config entry =
      { saved := some (.verify (gaveUpExchange exchange task))
        result := .ok (.verify (gaveUpExchange exchange task)) }

variable {config} {answers : Answers}

theorem sweepIfTimedOut_unplanned {loaded : Exchange}
    (nothing : planSweep config answers loaded = none) (stored : Option Exchange) :
    sweepIfTimedOut config answers loaded stored = { result := .ok loaded } := by
  simp [sweepIfTimedOut, nothing]

theorem sweepIfTimedOut_planned {loaded : Exchange} {plan : SweepPlan}
    (planned : planSweep config answers loaded = some plan) :
    sweepIfTimedOut config answers loaded (some loaded) =
      if answers.accepted 0 then
        { calls := if plan.enqueues then [.enqueueVerifyTask loaded.exchangeId] else []
          saved := some (.verify plan.next)
          result := .ok (.verify plan.next) }
      else throwHttp 500 "Failed to save exchange." := by
  rcases planSweep_eq_some config answers planned with
    ⟨exchange, task, rfl, -, hasTask, -, -, ofKind⟩
  have expects : plan.expectedAttemptId = task.attemptId := by
    rcases ofKind with ⟨-, rfl⟩ | ⟨-, rfl⟩ <;> rfl
  have current : readVerifyTaskAttemptId (.verify exchange) = some plan.expectedAttemptId := by
    simp [readVerifyTaskAttemptId, hasTask, expects]
  simp only [sweepIfTimedOut, planned]
  rw [saveExchangeWithCAS_current current]
  cases accepts : answers.accepted 0 with
  | false => rfl
  | true =>
      rw [if_pos rfl, if_pos rfl, Action.bind_ok rfl]
      cases plan.enqueues <;> rfl

private theorem planSweep_pending {exchange : ExchangeDetailVerify} {task : VerifyTask}
    (active : exchange.state = .active) (hasTask : exchange.vars.verifyTask = some task)
    (pending : task.status.isPending = true) :
    planSweep config answers (.verify exchange) =
      if task.deadlineAt > answers.clock 0 then none
      else if task.attempt < task.maxAttempts then
        some (retryPlan config answers exchange task)
      else some (giveUpPlan exchange task) := by
  simp [planSweep, active, hasTask, pending]

end

theorem sweepSpec (config : Config) (entry : SweepEntry) : SweepSpec config entry := by
  rcases entry with ⟨found, answers⟩
  cases planned : planSweep config answers found with
  | none =>
      have isIdle : sweepOf config ⟨found, answers⟩ = { result := .ok found } :=
        sweepIfTimedOut_unplanned planned _
      have noEffect : effectOf config ⟨found, answers⟩ = none := by
        simp [effectOf, isIdle]
      exact {
        early := fun _ _ _ => isIdle
        inactive := fun _ => isIdle
        idle := fun _ => .inl isIdle
        retry := fun effect => by cases noEffect.symm.trans effect
        giveUp := fun effect => by cases noEffect.symm.trans effect }
  | some plan =>
      have isSweep : sweepOf config ⟨found, answers⟩ = _ := sweepIfTimedOut_planned planned
      rcases planSweep_eq_some config answers planned with
        ⟨exchange, task, rfl, active, hasTask, -, lapsed, ofKind⟩
      have early : ∀ other, Exchange.verifyTask (.verify exchange) = some other →
          answers.clock 0 < other.deadlineAt →
          sweepOf config ⟨.verify exchange, answers⟩ = { result := .ok (.verify exchange) } := by
        intro other isOther before
        cases hasTask.symm.trans isOther
        exact absurd lapsed (Int.not_le.mpr before)
      cases accepts : answers.accepted 0 with
      | false =>
          rw [accepts, if_neg Bool.false_ne_true] at isSweep
          have noEffect : effectOf config ⟨.verify exchange, answers⟩ = none := by
            rw [effectOf, isSweep]
            rfl
          exact {
            early := early
            inactive := absurd active
            idle := fun _ => .inr ⟨accepts, isSweep⟩
            retry := fun effect => by cases noEffect.symm.trans effect
            giveUp := fun effect => by cases noEffect.symm.trans effect }
      | true =>
          rw [accepts, if_pos rfl] at isSweep
          have effective : Effective ⟨.verify exchange, answers⟩ exchange task :=
            ⟨rfl, hasTask, lapsed⟩
          rcases ofKind with ⟨again, rfl⟩ | ⟨spent, rfl⟩
          · have effect : effectOf config ⟨.verify exchange, answers⟩ = some .retry := by
              rw [effectOf, isSweep]
              rfl
            exact {
              early := early
              inactive := absurd active
              idle := fun noEffect => by cases effect.symm.trans noEffect
              retry := fun _ => ⟨exchange, task, effective, again, isSweep⟩
              giveUp := fun other => by cases effect.symm.trans other }
          · have effect : effectOf config ⟨.verify exchange, answers⟩ = some .giveUp := by
              rw [effectOf, isSweep]
              rfl
            exact {
              early := early
              inactive := absurd active
              idle := fun noEffect => by cases effect.symm.trans noEffect
              retry := fun other => by cases effect.symm.trans other
              giveUp := fun _ => ⟨exchange, task, effective, spent, isSweep⟩ }

/-! ## The record after so many effects -/

structure Attempt (task : VerifyTask) (made : Nat) (current : VerifyTask) : Prop where
  attempt : current.attempt = task.attempt + made
  maxAttempts : current.maxAttempts = task.maxAttempts
  openBadgesCredentialIndices :
    current.openBadgesCredentialIndices = task.openBadgesCredentialIndices

inductive Reached (exchange : ExchangeDetailVerify) (task : VerifyTask) :
    Nat → Exchange → Prop
  | trying {made : Nat} {current : VerifyTask} (within : made ≤ retries task)
      (attempt : Attempt task made current) (pending : current.status.isPending = true) :
      Reached exchange task made (.verify (withVerifyTask exchange current))
  | spent {current : VerifyTask} (attempt : Attempt task (retries task) current) :
      Reached exchange task (retries task + 1) (.verify (gaveUpExchange exchange current))

theorem script_length (task : VerifyTask) : (script task).length = retries task + 1 := by
  simp [script]

private theorem script_retry {task : VerifyTask} {made : Nat} (left : made < retries task) :
    (script task)[made]? = some .retry := by
  simp [script, List.getElem?_append, left]

private theorem script_giveUp (task : VerifyTask) :
    (script task)[retries task]? = some .giveUp := by
  simp [script]

section

variable {config : Config} {answers : Answers} {exchange : ExchangeDetailVerify}
  {task : VerifyTask} {made : Nat} {record : Exchange}

private theorem undue (quiet : isDue ⟨record, answers⟩ = false) :
    swept config answers record = record ∧ effectOf config ⟨record, answers⟩ = none := by
  have nothing : (sweepIfTimedOut config answers record (some record)).saved = none := by
    cases planned : planSweep config answers record with
    | none => rw [sweepIfTimedOut_unplanned planned]
    | some plan =>
        rw [sweepIfTimedOut_planned planned]
        rcases planSweep_eq_some config answers planned with
          ⟨found, current, rfl, -, hasTask, -, lapsed, -⟩
        have refused : answers.accepted 0 = false := by
          simpa [isDue, Exchange.verifyTask, hasTask, lapsed] using quiet
        rw [refused]
        rfl
  rw [swept, effectOf, sweepOf, nothing]
  exact ⟨rfl, rfl⟩

private theorem due (active : exchange.state = .active)
    (reached : Reached exchange task made record)
    (isLapsed : isDue ⟨record, answers⟩ = true) :
    effectOf config ⟨record, answers⟩ = (script task)[made]? ∧
      Reached exchange task (min (made + 1) (retries task + 1))
        (swept config answers record) := by
  cases reached with
  | trying within attempt pending =>
      rename_i current
      rcases Bool.and_eq_true_iff.mp isLapsed with ⟨lapsed, accepts⟩
      have lapsed : current.deadlineAt ≤ answers.clock 0 := by
        simpa [Exchange.verifyTask, withVerifyTask] using lapsed
      have planned : planSweep config answers (.verify (withVerifyTask exchange current)) =
          _ := planSweep_pending active rfl pending
      rw [if_neg (Int.not_lt.mpr lapsed), attempt.attempt, attempt.maxAttempts] at planned
      by_cases left : made < retries task
      · rw [if_pos (by unfold retries at left; omega)] at planned
        have isSweep := sweepIfTimedOut_planned planned
        rw [accepts, if_pos rfl] at isSweep
        rw [swept, effectOf, sweepOf, isSweep, script_retry left]
        refine ⟨rfl, ?_⟩
        rw [Nat.min_eq_left (by omega)]
        exact .trying left
          ⟨by simp [attempt.attempt, bumpAttempt, Int.add_assoc], attempt.maxAttempts,
            attempt.openBadgesCredentialIndices⟩ rfl
      · have all : made = retries task := Nat.le_antisymm within (Nat.le_of_not_lt left)
        rw [if_neg (by unfold retries at left; omega)] at planned
        have isSweep := sweepIfTimedOut_planned planned
        rw [accepts, if_pos rfl] at isSweep
        rw [swept, effectOf, sweepOf, isSweep, all, script_giveUp]
        refine ⟨rfl, ?_⟩
        rw [Nat.min_self]
        exact .spent (all ▸ attempt)
  | spent attempt =>
      rename_i current
      have planned : planSweep config answers (.verify (gaveUpExchange exchange current)) =
          none := rfl
      rw [swept, effectOf, sweepOf, sweepIfTimedOut_unplanned planned,
        List.getElem?_eq_none (script_length task).le, Nat.min_eq_right (Nat.le_succ _)]
      exact ⟨rfl, .spent attempt⟩

end

/-! ## A sequence of sweeps -/

def dueSweeps (recorded : SweptRecord) : Nat :=
  recorded.past.countP isDue

def noResults : VerificationResult where
  verified := false
  presentationResults := []
  credentialResults := []
  matchedCredentials := []
  summary := []

structure GivenUp (exchange : ExchangeDetailVerify) (task : VerifyTask)
    (final : ExchangeDetailVerify) : Prop where
  state : final.state = .invalid
  results : ∃ check, check.id = "pipeline.timeout" ∧ check.outcome.isFailure = true ∧
    final.vars.results = some { exchange.vars.results.getD noResults with
      verified := false
      presentationResults :=
        (exchange.vars.results.getD noResults).presentationResults ++ [check] }
  verifyTask : ∃ given, final.vars.verifyTask = some given ∧ given.status = .gaveUp ∧
    Attempt task (retries task) given
  /-- Nothing else has changed. -/
  frame : { final with
    state := exchange.state
    vars := { final.vars with
      results := exchange.vars.results
      verifyTask := exchange.vars.verifyTask } } = exchange

section

variable (config : Config) {exchange : ExchangeDetailVerify} {task : VerifyTask}

structure Progress (exchange : ExchangeDetailVerify) (task : VerifyTask)
    (recorded : SweptRecord) : Prop where
  reached : Reached exchange task (min (dueSweeps recorded) (retries task + 1))
    recorded.value
  effects : effects config recorded = (script task).take (dueSweeps recorded)

private theorem reached_start (hasTask : exchange.vars.verifyTask = some task)
    (pending : task.status.isPending = true) :
    Reached exchange task 0 (.verify exchange) := by
  have same : withVerifyTask exchange task = exchange := by
    unfold withVerifyTask
    rw [← hasTask]
  have trying : Reached exchange task 0 (.verify (withVerifyTask exchange task)) :=
    .trying (Nat.zero_le _) ⟨by simp, rfl, rfl⟩ pending
  rwa [same] at trying

variable {config}

theorem effects_next (recorded : SweptRecord) (answers : Answers) :
    effects config (next (swept config) recorded answers) =
      effects config recorded ++ (effectOf config ⟨recorded.value, answers⟩).toList := by
  simp only [effects, next, List.reverse_cons, List.filterMap_append]
  cases effect : effectOf config ⟨recorded.value, answers⟩ <;> simp [effect]

theorem Progress.next {recorded : SweptRecord} (active : exchange.state = .active)
    (progress : Progress config exchange task recorded) (answers : Answers) :
    Progress config exchange task (next (swept config) recorded answers) := by
  have counts : dueSweeps (History.next (swept config) recorded answers) =
      dueSweeps recorded + if isDue ⟨recorded.value, answers⟩ then 1 else 0 :=
    List.countP_cons
  cases isLapsed : isDue ⟨recorded.value, answers⟩ with
  | false =>
      rw [isLapsed, if_neg Bool.false_ne_true, Nat.add_zero] at counts
      rcases undue isLapsed with ⟨same, noEffect⟩
      refine ⟨?_, ?_⟩
      · rw [counts, History.next, same]
        exact progress.reached
      · rw [counts, effects_next, noEffect, progress.effects, Option.toList_none,
          List.append_nil]
  | true =>
      rw [isLapsed, if_pos rfl] at counts
      rcases due active progress.reached isLapsed with ⟨effect, reached⟩
      have further : min (min (dueSweeps recorded) (retries task + 1) + 1)
          (retries task + 1) = min (dueSweeps recorded + 1) (retries task + 1) := by omega
      refine ⟨?_, ?_⟩
      · rw [counts, ← further]
        exact reached
      · have scripted : (script task)[min (dueSweeps recorded) (retries task + 1)]? =
            (script task)[dueSweeps recorded]? := by
          rcases Nat.lt_or_ge (retries task) (dueSweeps recorded) with beyond | within
          · rw [Nat.min_eq_right beyond, List.getElem?_eq_none (script_length task).le,
              List.getElem?_eq_none ((script_length task).le.trans beyond)]
          · rw [Nat.min_eq_left (Nat.le_succ_of_le within)]
        rw [counts, effects_next, effect, scripted, progress.effects, List.take_add_one]

theorem progress_sweepAll (config : Config) (active : exchange.state = .active)
    (hasTask : exchange.vars.verifyTask = some task)
    (pending : task.status.isPending = true) (sweeps : List Answers) :
    Progress config exchange task (sweepAll config (.verify exchange) sweeps) := by
  apply List.foldlRecOn sweeps
  · exact ⟨reached_start hasTask pending, rfl⟩
  · exact fun recorded progress answers _ => progress.next active answers

private theorem gaveUpExchange_givenUp {current : VerifyTask}
    (attempt : Attempt task (retries task) current) :
    GivenUp exchange task (gaveUpExchange exchange current) where
  state := rfl
  results := by
    refine ⟨synthesizePipelineTimeoutCheckResult current, rfl, rfl, ?_⟩
    cases hasResults : exchange.vars.results with
    | none => simp [gaveUpExchange, hasResults, appendAllResult, noResults]
    | some results => simp [gaveUpExchange, hasResults, appendAllResult]
  verifyTask := ⟨markGaveUp current, rfl, rfl, attempt.attempt, attempt.maxAttempts,
    attempt.openBadgesCredentialIndices⟩
  frame := rfl

private theorem retryIds_sublist (record : Exchange) (sweeps : List Answers) :
    (retryIds config (sweepAll config record sweeps)).Sublist
      (sweeps.map fun answers => answers.randomUUID 0) := by
  have operations : (sweepAll config record sweeps).past.reverse.map (·.operation) = sweeps :=
    past_foldl (swept config) (start record) sweeps
  have drawn : (sweeps.map fun answers => answers.randomUUID 0) =
      (sweepAll config record sweeps).past.reverse.map
        fun entry => entry.operation.randomUUID 0 := by
    conv_lhs => rw [← operations, List.map_map]
    rfl
  rw [drawn]
  exact List.filter_sublist.map _

/-- Sweeps of an active exchange with a pending task retry as often as attempts
are left, give up once, and do nothing more. -/
theorem sweeps_progress (config : Config) (active : exchange.state = .active)
    (hasTask : exchange.vars.verifyTask = some task)
    (pending : task.status.isPending = true) (sweeps : List Answers) :
    let final := sweepAll config (.verify exchange) sweeps
    (∀ entry ∈ final.past, SweepSpec config entry) ∧
    effects config final =
      (List.replicate (task.maxAttempts - task.attempt).toNat SweepEffect.retry ++
        [SweepEffect.giveUp]).take (dueSweeps final) ∧
    ((task.maxAttempts - task.attempt).toNat < dueSweeps final →
      ∃ detail, final.value = .verify detail ∧ GivenUp exchange task detail) ∧
    ((task.attemptId :: sweeps.map fun answers => answers.randomUUID 0).Nodup →
      (task.attemptId :: retryIds config final).Nodup) := by
  have progress := progress_sweepAll config active hasTask pending sweeps
  refine ⟨fun entry _ => sweepSpec config entry, progress.effects, ?_, ?_⟩
  · intro enough
    have enough : retries task + 1 ≤
        dueSweeps (sweepAll config (.verify exchange) sweeps) := enough
    have reached := progress.reached
    rw [Nat.min_eq_right enough] at reached
    generalize (sweepAll config (.verify exchange) sweeps).value = final at reached
    cases reached with
    | trying within _ _ => exact absurd within (Nat.not_succ_le_self _)
    | spent attempt => exact ⟨_, rfl, gaveUpExchange_givenUp attempt⟩
  · intro distinct
    exact distinct.sublist ((retryIds_sublist _ sweeps).cons_cons _)

def queuedTask : VerifyTask where
  attemptId := "attempt-1"
  queuedAt := 0
  deadlineAt := 60000
  attempt := 1
  maxAttempts := 2
  openBadgesCredentialIndices := [0]
  status := .queued

def queuedExchange : ExchangeDetailVerify where
  tenantName := "default"
  exchangeId := "exchange"
  expires := 600000
  state := .active
  vars := {
    exchangeHost := "http://localhost"
    challenge := "challenge"
    vprContext := []
    vprCredentialType := []
    trustedIssuers := []
    vprClaims := []
    verifyTask := some queuedTask }

/-- An early sweep, one at the deadline, and two after the second deadline. -/
theorem swept_to_the_end :
    effects {} (sweepAll {} (.verify queuedExchange)
        ([59999, 60000, 130000, 200000].map fun time =>
          { Answers.plain with clock := fun _ => time })) =
      [SweepEffect.retry, SweepEffect.giveUp] :=
  (sweeps_progress {} rfl rfl rfl _).2.1.trans (by decide)

end

end TransactionService.SweepProgress
