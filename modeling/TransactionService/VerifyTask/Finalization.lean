import TransactionService.Workflows.Outcome
import TransactionService.VerifyTask.MergeLaw

namespace TransactionService.Finalization

/-! # Finalizing in two phases

The synchronous path decides the state from every flag of the result; the worker
decides it from the one flag it merged. -/

variable {runtime : Runtime} {config : Config} {answers : Answers}
  {exchange : ExchangeDetailVerify} {result : PresentationVerificationResult}

/-! ## The Open Badges pass -/

def openBadgesCredentials {Check : Type}
    (credentialResults : List (CredentialVerificationResult Check)) (indices : List Nat) :
    List Json :=
  indices.filterMap fun index => credentialResults[index]?.bind presentCredential

def OpenBadgesVerified (answers : Answers) (callFor : Json → VerifyCredentialCall) :
    (made : Nat) → List Json → Prop
  | _, [] => True
  | made, credential :: rest =>
      (∃ obResult, answers.verifyCredential made (callFor credential) = .ok obResult ∧
        obResult.verified = true) ∧
      OpenBadgesVerified answers callFor (made + 1) rest

theorem openBadgesCredentials_mergeOpenBadgesResultsAt (merged : VerificationResult)
    (index : Nat) (obResult : CredentialVerificationResult CoreCheckResult)
    (indices : List Nat) :
    openBadgesCredentials (mergeOpenBadgesResultsAt merged index obResult).credentialResults
        indices =
      openBadgesCredentials merged.credentialResults indices := by
  unfold openBadgesCredentials
  apply List.filterMap_congr
  intro position _
  exact MergeLaw.merge_presentCredential merged index obResult position

theorem verified_mergeOpenBadgesResultsAt {merged : VerificationResult} {index : Nat}
    {credential : Json}
    (present : merged.credentialResults[index]?.bind presentCredential = some credential)
    (obResult : CredentialVerificationResult CoreCheckResult) :
    (mergeOpenBadgesResultsAt merged index obResult).verified =
      (merged.verified && obResult.verified) := by
  rcases Option.bind_eq_some_iff.mp present with ⟨previous, found, -⟩
  rw [MergeLaw.merge_of_inRange merged index obResult found]

theorem openBadgesPass_verified (made : Nat) (base : VerificationResult)
    (indices : List Nat) :
    (∃ merged, (openBadgesPass runtime config answers exchange made base indices).result =
        .ok merged ∧ merged.verified = true) ↔
      base.verified = true ∧
        OpenBadgesVerified answers (openBadgesCallFor runtime config exchange) made
          (openBadgesCredentials base.credentialResults indices) := by
  induction indices generalizing made base with
  | nil => simp [openBadgesPass, openBadgesCredentials, OpenBadgesVerified]
  | cons index rest induction =>
      cases present : base.credentialResults[index]?.bind presentCredential with
      | none =>
          have skipped : openBadgesCredentials base.credentialResults (index :: rest) =
              openBadgesCredentials base.credentialResults rest := by
            simp only [openBadgesCredentials, List.filterMap_cons, present]
          rw [skipped, ← induction]
          simp only [openBadgesPass, present]
      | some credential =>
          have located : openBadgesCredentials base.credentialResults (index :: rest) =
              credential :: openBadgesCredentials base.credentialResults rest := by
            simp only [openBadgesCredentials, List.filterMap_cons, present]
          rw [located]
          simp only [openBadgesPass, present, OpenBadgesVerified]
          cases answer : answers.verifyCredential made
              (openBadgesCallFor runtime config exchange credential) with
          | error message => simp
          | ok obResult =>
              rw [Action.perform_ok_bind, induction,
                openBadgesCredentials_mergeOpenBadgesResultsAt,
                verified_mergeOpenBadgesResultsAt present]
              simp [and_assoc]

private theorem openBadgesPass_ok {made : Nat} {base : VerificationResult} {indices : List Nat}
    (verified : OpenBadgesVerified answers (openBadgesCallFor runtime config exchange) made
      (openBadgesCredentials base.credentialResults indices)) :
    ∃ merged, (openBadgesPass runtime config answers exchange made base indices).result =
        .ok merged ∧ merged.verified = base.verified := by
  induction indices generalizing made base with
  | nil => exact ⟨base, rfl, rfl⟩
  | cons index rest induction =>
      cases present : base.credentialResults[index]?.bind presentCredential with
      | none =>
          simp only [openBadgesCredentials, List.filterMap_cons, present] at verified
          simp only [openBadgesPass, present]
          exact induction verified
      | some credential =>
          simp only [openBadgesCredentials, List.filterMap_cons, present,
            OpenBadgesVerified] at verified
          rcases verified with ⟨⟨obResult, answer, positive⟩, others⟩
          rw [← openBadgesCredentials,
            ← openBadgesCredentials_mergeOpenBadgesResultsAt base index obResult] at others
          rcases induction others with ⟨merged, passed, flag⟩
          refine ⟨merged, ?_, ?_⟩
          · simp only [openBadgesPass, present, answer, Action.perform_ok_bind]
            exact passed
          · rw [flag, verified_mergeOpenBadgesResultsAt present, positive, Bool.and_true]

private theorem openBadgesCredentials_stored (result : PresentationVerificationResult)
    (indices : List Nat) :
    openBadgesCredentials (storedCredentialResults result) indices =
      openBadgesCredentials result.credentialResults indices := by
  unfold openBadgesCredentials storedCredentialResults
  apply List.filterMap_congr
  intro index _
  rw [List.getElem?_map]
  cases result.credentialResults[index]? <;> rfl

/-! ## A run over results that are stored -/

section

variable {task : VerifyTask} {base : VerificationResult}

def WritesAccepted (answers : Answers) : Prop :=
  answers.accepted 0 = true ∧ answers.accepted 1 = true

theorem processVerifyTask_settles (hasTask : exchange.vars.verifyTask = some task)
    (unsettled : task.status.isTerminal = false)
    (hasResults : exchange.vars.results = some base) (accepted : WritesAccepted answers)
    (verified : OpenBadgesVerified answers (openBadgesCallFor runtime config exchange) 0
      (openBadgesCredentials base.credentialResults task.openBadgesCredentialIndices)) :
    ∃ merged,
      (processVerifyTask runtime config answers (some (.verify exchange))).saved =
        some (.verify (settledExchange exchange task merged)) ∧
      merged.verified = base.verified := by
  rcases openBadgesPass_ok verified with ⟨merged, passed, flag⟩
  refine ⟨merged, ?_, flag⟩
  rw [processVerifyTask_eq runtime config answers hasTask unsettled]
  simp only [accepted.1, accepted.2, if_true, planFor, hasResults, passed]

theorem processVerifyTask_complete {record : Exchange}
    (hasTask : exchange.vars.verifyTask = some task)
    (unsettled : task.status.isTerminal = false)
    (hasResults : exchange.vars.results = some base) (active : exchange.state ≠ .complete)
    (writes : (processVerifyTask runtime config answers (some (.verify exchange))).saved =
      some record)
    (complete : record.state = .complete) :
    WritesAccepted answers ∧ base.verified = true ∧
      OpenBadgesVerified answers (openBadgesCallFor runtime config exchange) 0
        (openBadgesCredentials base.credentialResults task.openBadgesCredentialIndices) := by
  have unchanged : ∀ next, Exchange.state (.verify (withVerifyTask exchange next)) ≠
      .complete := fun _ => active
  rw [processVerifyTask_eq runtime config answers hasTask unsettled] at writes
  dsimp only at writes
  split at writes
  · rename_i first
    split at writes
    · rename_i second
      refine ⟨⟨first, second⟩, ?_⟩
      apply openBadgesPass_verified 0 base task.openBadgesCredentialIndices |>.mp
      simp only [planFor, hasResults] at writes
      split at writes
      · cases writes
        exact absurd complete (unchanged _)
      · rename_i merged passed
        cases writes
        refine ⟨merged, passed, ?_⟩
        cases flag : merged.verified with
        | true => rfl
        | false => simp [Exchange.state, settledExchange, flag] at complete
    · cases writes
      exact absurd complete (unchanged _)
  · cases writes

private theorem processVerifyTask_succeeded (hasTask : exchange.vars.verifyTask = some task)
    (unsettled : task.status.isTerminal = false)
    (succeeds : (processVerifyTask runtime config answers (some (.verify exchange))).result =
      .ok .succeeded) :
    WritesAccepted answers := by
  rw [processVerifyTask_eq runtime config answers hasTask unsettled] at succeeds
  dsimp only at succeeds
  split at succeeds
  · rename_i first
    split at succeeds
    · rename_i second
      exact ⟨first, second⟩
    · cases succeeds
  · cases succeeds

end

/-! ## The two paths -/

section

variable (runtime config) (submitted worked : Answers)

def finalizeInTwoPhases (exchange : ExchangeDetailVerify)
    (result : PresentationVerificationResult) (log : List CheckResult) (debug : Bool)
    (indices : List Nat) : Except Thrown (Handler ProcessVerifyTaskOutcome) := do
  let intermediate ← withSyncResultsAndQueuedVerifyTask config submitted exchange result
    log debug indices
  return processVerifyTask runtime config worked (some (.verify intermediate))

def PassesVerified (exchange : ExchangeDetailVerify)
    (result : PresentationVerificationResult) (indices : List Nat) : Prop :=
  OpenBadgesVerified worked (openBadgesCallFor runtime config exchange) 0
    (openBadgesCredentials result.credentialResults indices)

/-- The worker never upgrades what the synchronous path decides, and decides the
same when the Open Badges pass has no objection. -/
structure Agrees (exchange : ExchangeDetailVerify)
    (result : PresentationVerificationResult) (log : List CheckResult) (debug : Bool)
    (indices : List Nat) : Prop where
  never_upgrades : ∀ applied run record,
    applyVerificationResults exchange result log debug = .ok applied →
    finalizeInTwoPhases runtime config submitted worked exchange result log debug indices =
      .ok run →
    run.saved = some record → record.state = .complete → applied.state = .complete
  same_state : ∀ applied run record,
    applyVerificationResults exchange result log debug = .ok applied →
    finalizeInTwoPhases runtime config submitted worked exchange result log debug indices =
      .ok run →
    run.saved = some record → run.result = .ok .succeeded →
    PassesVerified runtime config worked exchange result indices →
    record.state = applied.state

variable {submitted worked} {log : List CheckResult} {debug : Bool} {indices : List Nat}

theorem finalizeInTwoPhases_ok {run : Handler ProcessVerifyTaskOutcome}
    (finalized : finalizeInTwoPhases runtime config submitted worked exchange result log
      debug indices = .ok run) :
    ∃ intermediate task base,
      run = processVerifyTask runtime config worked (some (.verify intermediate)) ∧
      intermediate.state = .active ∧
      intermediate.vars.verifyTask = some task ∧ task.status.isTerminal = false ∧
      intermediate.vars.results = some base ∧ base.verified = result.verified ∧
      (OpenBadgesVerified worked (openBadgesCallFor runtime config intermediate) 0
          (openBadgesCredentials base.credentialResults task.openBadgesCredentialIndices) ↔
        PassesVerified runtime config worked exchange result indices) := by
  unfold finalizeInTwoPhases at finalized
  cases queued : withSyncResultsAndQueuedVerifyTask config submitted exchange result log
      debug indices with
  | error thrown => simp [queued, Bind.bind, Except.bind] at finalized
  | ok intermediate =>
      simp only [queued, Bind.bind, Except.bind, pure, Except.pure, Except.ok.injEq]
        at finalized
      rcases withSyncResults_ok config submitted queued with ⟨applied, finished, rfl⟩
      rcases applyVerificationResults_ok finished with
        ⟨base, flag, -, credentialResults, -, -, rfl⟩
      refine ⟨_, _, base, finalized.symm, rfl, rfl, rfl, rfl, flag, ?_⟩
      rw [credentialResults, openBadgesCredentials_stored]
      exact Iff.rfl

private theorem finalizeInTwoPhases_of_applied {applied : ExchangeDetailVerify}
    (finished : applyVerificationResults exchange result log debug = .ok applied) :
    ∃ run, finalizeInTwoPhases runtime config submitted worked exchange result log debug
      indices = .ok run :=
  ⟨_, by
    simp only [finalizeInTwoPhases, withSyncResultsAndQueuedVerifyTask, finished, Bind.bind,
      Except.bind, pure, Except.pure]
    rfl⟩

theorem applied_complete {applied : ExchangeDetailVerify}
    (finished : applyVerificationResults exchange result log debug = .ok applied)
    (condition : Outcome.ClaimsThrow exchange result ∨ Outcome.Acceptable exchange result) :
    applied.state = .complete := by
  rcases Outcome.applyVerificationResults_state finished with
    ⟨complete, -⟩ | ⟨-, objection⟩
  · exact complete
  · rcases condition with throws | acceptable
    · exact absurd throws (Outcome.not_claimsThrow finished)
    · exact absurd acceptable objection

theorem Agrees.acceptable
    (agrees : Agrees runtime config submitted worked exchange result log debug indices)
    (positive : result.verified = true)
    (passes : PassesVerified runtime config worked exchange result indices)
    (accepted : WritesAccepted worked) :
    Outcome.ClaimsThrow exchange result ∨ Outcome.Acceptable exchange result := by
  rcases Outcome.applyVerificationResults_spec exchange result log debug with
    ⟨-, throws⟩ | ⟨⟨applied, finished⟩, -⟩
  · exact .inl throws
  · rcases finalizeInTwoPhases_of_applied runtime config finished with ⟨run, finalized⟩
    rcases finalizeInTwoPhases_ok runtime config finalized with
      ⟨intermediate, task, base, rfl, -, hasTask, unsettled, hasResults, flag, same⟩
    rcases processVerifyTask_settles hasTask unsettled hasResults accepted
      (same.mpr passes) with ⟨merged, writes, mergedFlag⟩
    have complete : (Exchange.verify (settledExchange intermediate task merged)).state =
        .complete := by
      simp [Exchange.state, settledExchange, mergedFlag, flag, positive]
    have upgraded := agrees.never_upgrades applied _ _ finished finalized writes complete
    rcases Outcome.applyVerificationResults_state finished with
      ⟨-, acceptable⟩ | ⟨invalid, -⟩
    · exact .inr acceptable
    · rw [invalid] at upgraded
      cases upgraded

private theorem finalizeInTwoPhases_complete {run : Handler ProcessVerifyTaskOutcome}
    {record : Exchange}
    (finalized : finalizeInTwoPhases runtime config submitted worked exchange result log
      debug indices = .ok run)
    (writes : run.saved = some record) (complete : record.state = .complete) :
    result.verified = true ∧ PassesVerified runtime config worked exchange result indices ∧
      WritesAccepted worked := by
  rcases finalizeInTwoPhases_ok runtime config finalized with
    ⟨intermediate, task, base, rfl, active, hasTask, unsettled, hasResults, flag, same⟩
  have notComplete : intermediate.state ≠ .complete := by
    rw [active]
    decide
  rcases processVerifyTask_complete hasTask unsettled hasResults notComplete writes
    complete with ⟨accepted, positive, passes⟩
  exact ⟨flag ▸ positive, same.mp passes, accepted⟩

private theorem finalizeInTwoPhases_state {run : Handler ProcessVerifyTaskOutcome}
    {record : Exchange}
    (finalized : finalizeInTwoPhases runtime config submitted worked exchange result log
      debug indices = .ok run)
    (writes : run.saved = some record) (succeeds : run.result = .ok .succeeded)
    (passes : PassesVerified runtime config worked exchange result indices) :
    WritesAccepted worked ∧
      record.state = if result.verified then .complete else .invalid := by
  rcases finalizeInTwoPhases_ok runtime config finalized with
    ⟨intermediate, task, base, rfl, -, hasTask, unsettled, hasResults, flag, same⟩
  have accepted := processVerifyTask_succeeded hasTask unsettled succeeds
  rcases processVerifyTask_settles hasTask unsettled hasResults accepted
    (same.mpr passes) with ⟨merged, settles, mergedFlag⟩
  rw [settles] at writes
  cases writes
  rw [flag] at mergedFlag
  exact ⟨accepted, by simp [Exchange.state, settledExchange, mergedFlag]⟩

/-- The two paths agree exactly when a positive result that the worker carries
through has nothing against it but its own flag. -/
theorem agrees_iff (submitted worked : Answers) (exchange : ExchangeDetailVerify)
    (result : PresentationVerificationResult) (log : List CheckResult) (debug : Bool)
    (indices : List Nat) :
    Agrees runtime config submitted worked exchange result log debug indices ↔
      (result.verified = true → PassesVerified runtime config worked exchange result indices →
        WritesAccepted worked →
        Outcome.ClaimsThrow exchange result ∨ Outcome.Acceptable exchange result) := by
  constructor
  · intro agrees positive passes accepted
    exact agrees.acceptable runtime config positive passes accepted
  · intro condition
    constructor
    · intro applied run record finished finalized writes complete
      rcases finalizeInTwoPhases_complete runtime config finalized writes complete with
        ⟨positive, passes, accepted⟩
      exact applied_complete finished (condition positive passes accepted)
    · intro applied run record finished finalized writes succeeds passes
      rcases finalizeInTwoPhases_state runtime config finalized writes succeeds passes with
        ⟨accepted, state⟩
      rw [state]
      cases positive : result.verified with
      | true =>
          rw [applied_complete finished (condition positive passes accepted)]
          rfl
      | false =>
          rcases Outcome.applyVerificationResults_state finished with
            ⟨-, acceptable⟩ | ⟨invalid, -⟩
          · rw [acceptable.verified] at positive
            cases positive
          · rw [invalid]
            rfl

end

/-! ## A failed credential under a positive result -/

def badgeExchange : ExchangeDetailVerify where
  tenantName := "default"
  exchangeId := "exchange-1"
  expires := 600000
  state := .active
  vars := {
    exchangeHost := "http://localhost:4004"
    challenge := "challenge-1"
    vprContext := []
    vprCredentialType := ["OpenBadgeCredential"]
    trustedIssuers := []
    vprClaims := [] }

def badgeCredential : Json :=
  .obj [("type", .arr [.str "VerifiableCredential", .str "OpenBadgeCredential"])]

def failedBadgeResult : PresentationVerificationResult where
  verified := true
  presentationResults := []
  credentialResults := [{
    verified := false
    verifiableCredential := some badgeCredential
    results := [] }]

def verifyingAnswers : Answers where
  clock _ := 0
  randomUUID _ := "attempt-1"
  randomBytes := "random"
  verifyPresentation _ := .error "not asked"
  verifyCredential _ call :=
    .ok { verified := true, verifiableCredential := some call.credential, results := [] }
  callService _ _ := none
  accepted _ := true

theorem failed_badge_upgraded :
    ¬ Agrees Runtime.plain {} verifyingAnswers verifyingAnswers badgeExchange
      failedBadgeResult [] false [0] := by
  intro agrees
  have upgraded := agrees.never_upgrades _ _ _ rfl rfl rfl rfl
  cases upgraded

end TransactionService.Finalization
