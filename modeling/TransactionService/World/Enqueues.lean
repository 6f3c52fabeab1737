import TransactionService.Routes.ServiceCalls
import TransactionService.VerifyTask.SweepProgress
import TransactionService.World.Steps

namespace TransactionService.Enqueues

open ServiceCalls SingleUse World

/-! # What a request enqueues

A request that leaves a task behind which nobody has been told about yet also
enqueues its exchange, and no other request enqueues anything. -/

/-! ## Computations that enqueue nothing -/

def Quiet {α : Type} (action : Handler α) : Prop :=
  enqueuedIds action.calls = []

theorem enqueuedIds_append (first second : List Call) :
    enqueuedIds (first ++ second) = enqueuedIds first ++ enqueuedIds second :=
  List.filterMap_append

namespace Quiet

variable {α β : Type} {action : Handler α} {next : α → Handler β}

theorem fail (failure : Thrown) : Quiet (Action.fail failure : Handler α) :=
  rfl

theorem value (result : α) : Quiet (pure result : Handler α) :=
  rfl

theorem ofExcept (result : Except Thrown α) : Quiet (Action.ofExcept result) :=
  rfl

theorem bind (quiet : Quiet action)
    (later : ∀ value, action.result = .ok value → Quiet (next value)) :
    Quiet (action >>= next) := by
  unfold Quiet at quiet later ⊢
  cases answer : action.result with
  | error failure => rw [Action.bind_error answer, quiet]
  | ok value =>
      rw [Action.bind_ok answer, enqueuedIds_append, quiet, later value answer,
        List.nil_append]

theorem save {answers : Answers} {exchange : Exchange} :
    Quiet (saveExchange answers exchange) := by
  unfold Quiet
  rw [saveExchange_calls]
  rfl

theorem of_asks {runtime : Runtime} {config : Config} {answers : Answers}
    {tenantName : Option String} (only : OnlyAsks runtime config answers tenantName action) :
    Quiet action := by
  unfold Quiet enqueuedIds
  rw [List.filterMap_eq_nil_iff]
  intro call made
  cases only.made call made <;> rfl

end Quiet

section

variable (runtime : Runtime) (config : Config) (answers : Answers)

theorem processVerifyTask_quiet (stored : Option Exchange) :
    Quiet (processVerifyTask runtime config answers stored) :=
  Quiet.of_asks (@processVerifyTask_asks runtime config answers none stored)

/-! ## Submissions and sweeps -/

/-- What a request does to the task of the exchange it loaded: the record it
writes, if any, and the ids it enqueues. -/
inductive TaskEffect (endpoint : Endpoint) (loaded : Exchange) :
    Option Exchange → List String → Prop
  | unwritten : TaskEffect endpoint loaded none []
  | kept {record : Exchange} (same : record.verifyTask = loaded.verifyTask) :
      TaskEffect endpoint loaded (some record) []
  | gaveUp {detail : ExchangeDetailVerify} {task : VerifyTask}
      (sweeps : endpoint.sweeps = true) (found : loaded = .verify detail)
      (hasTask : detail.vars.verifyTask = some task) (pending : task.status.isPending = true)
      (spent : ¬ task.attempt < task.maxAttempts) :
      TaskEffect endpoint loaded (some (.verify (gaveUpExchange detail task))) []
  | retried {detail : ExchangeDetailVerify} {task : VerifyTask}
      (sweeps : endpoint.sweeps = true) (found : loaded = .verify detail)
      (hasTask : detail.vars.verifyTask = some task) (pending : task.status.isPending = true)
      (again : task.attempt < task.maxAttempts) :
      TaskEffect endpoint loaded (some (.verify (withVerifyTask detail
        (bumpAttempt (answers.clock 1) (answers.randomUUID 0) task
          config.verifyTaskDeadlineMs)))) [loaded.exchangeId]
  | queued {detail next : ExchangeDetailVerify} (indices : List Nat)
      (takes : endpoint.takesPresentation = true) (found : loaded = .verify detail)
      (hasTask : next.vars.verifyTask = some (newVerifyTask (answers.clock 0)
        (answers.randomUUID 0) indices config.verifyTaskDeadlineMs
        config.verifyTaskMaxAttempts)) :
      TaskEffect endpoint loaded (some (.verify next)) [loaded.exchangeId]

def Affects {α : Type} (endpoint : Endpoint) (loaded : Exchange) (action : Handler α) :
    Prop :=
  TaskEffect config answers endpoint loaded action.saved (enqueuedIds action.calls)

variable {runtime config answers} {endpoint : Endpoint} {loaded : Exchange} {α β : Type}

theorem Affects.of_quiet {action : Handler α} (quiet : Quiet action)
    (keeps : ∀ record, action.saved = some record →
      record.verifyTask = loaded.verifyTask) : Affects config answers endpoint loaded action := by
  unfold Affects
  rw [quiet]
  cases saved : action.saved with
  | none => exact .unwritten
  | some record => exact .kept (keeps record saved)

theorem Affects.map {action : Handler α} (affects : Affects config answers endpoint loaded action)
    (transform : α → β) : Affects config answers endpoint loaded (transform <$> action) := by
  unfold Affects
  rw [Action.saved_map, Action.calls_map]
  exact affects

theorem Affects.then {action : Handler α} {next : α → Handler β}
    (affects : Affects config answers endpoint loaded action)
    (silent : ∀ value, (next value).saved = none) (quiet : ∀ value, Quiet (next value)) :
    Affects config answers endpoint loaded (action >>= next) := by
  cases answer : action.result with
  | error failure =>
      rw [Action.bind_error answer]
      exact affects
  | ok value =>
      unfold Affects
      rw [Action.bind_ok answer, enqueuedIds_append, quiet value, silent value,
        List.append_nil, Option.none_or]
      exact affects

theorem Affects.after {first : Except Thrown β} {next : β → Handler α}
    (later : ∀ value, first = .ok value → Affects config answers endpoint loaded (next value)) :
    Affects config answers endpoint loaded (Action.ofExcept first >>= next) := by
  cases answer : first with
  | error failure => exact .unwritten
  | ok value =>
      rw [Action.ofExcept_ok_bind]
      exact later value answer

theorem sweepIfTimedOut_affects (sweeps : endpoint.sweeps = true) :
    Affects config answers endpoint loaded
      (sweepIfTimedOut config answers loaded (some loaded)) := by
  cases planned : planSweep config answers loaded with
  | none =>
      rw [SweepProgress.sweepIfTimedOut_unplanned planned]
      exact .unwritten
  | some plan =>
      rw [SweepProgress.sweepIfTimedOut_planned planned]
      split
      · rcases planSweep_eq_some config answers planned with
          ⟨detail, task, found, -, hasTask, pending, -, ⟨again, rfl⟩ | ⟨spent, rfl⟩⟩
        · exact .retried sweeps found hasTask pending again
        · exact .gaveUp sweeps found hasTask pending spent
      · exact .unwritten

private theorem saveThenEnqueue_affects {exchange : Exchange} {exchangeId : String} {result : α}
    (effect : TaskEffect config answers endpoint loaded (some exchange) [exchangeId]) :
    Affects config answers endpoint loaded (do
      saveExchange answers exchange
      Action.perform (.enqueueVerifyTask exchangeId) (.ok ())
      return result : Handler α) := by
  cases accepts : answers.accepted 0 with
  | true =>
      rw [saveExchange_eq accepts]
      exact effect
  | false =>
      have refused : saveExchange answers exchange =
          throwHttp 500 "Failed to save exchange." :=
        if_neg (by rw [accepts]; exact Bool.false_ne_true)
      rw [refused]
      exact .unwritten

theorem participateInVerifyExchange_affects {data : Json} {detail working : ExchangeDetailVerify}
    (takes : endpoint.takesPresentation = true)
    (sameTask : working.vars.verifyTask = detail.vars.verifyTask)
    (sameId : working.exchangeId = detail.exchangeId) :
    Affects config answers endpoint (.verify detail)
      (participateInVerifyExchange runtime config answers data working) := by
  unfold participateInVerifyExchange
  apply Affects.after
  intro prepared _
  unfold Affects
  cases verified : (verifyPresentation answers
      (verifyCallFor runtime config working prepared.presentation)).result with
  | error failure =>
      rw [Action.bind_error verified]
      exact .unwritten
  | ok result =>
      have asked : enqueuedIds (verifyPresentation answers
          (verifyCallFor runtime config working prepared.presentation)).calls = [] := rfl
      have unsaved : (verifyPresentation answers
          (verifyCallFor runtime config working prepared.presentation)).saved = none := rfl
      rw [Action.bind_ok verified, enqueuedIds_append, asked, unsaved, List.nil_append,
        Option.or_none]
      dsimp only
      split
      · apply Affects.after
        intro finalized applied
        refine Affects.then (Affects.of_quiet .save ?_) (fun _ => rfl) fun _ => .value _
        intro record written
        rw [saveExchange_saved written]
        rcases applyVerificationResults_ok applied with ⟨results, -, -, -, -, -, rfl⟩
        exact sameTask
      · apply Affects.after
        intro intermediate applied
        rcases withSyncResults_ok config answers applied with ⟨finalized, finished, rfl⟩
        rcases applyVerificationResults_ok finished with ⟨results, -, -, -, -, -, rfl⟩
        apply saveThenEnqueue_affects
        dsimp only [withVerifyTask]
        rw [sameId]
        exact .queued _ takes rfl rfl

theorem participateInExchange_affects {data : Json}
    (takes : isEmptyBody data = false → endpoint.takesPresentation = true) :
    Affects config answers endpoint loaded
      (participateInExchange runtime config answers data loaded) := by
  unfold participateInExchange
  split
  · exact .unwritten
  · split
    · apply Affects.of_quiet (Quiet.of_asks
        (@participateWithEmptyBody_asks runtime config answers none loaded))
      intro record written
      rw [(participateWithEmptyBody_saved written).2]
      cases loaded <;> rfl
    · rename_i nonempty
      cases loaded with
      | didAuth detail =>
          apply Affects.of_quiet (Quiet.of_asks
            (@participateInDidAuthExchange_asks runtime config answers none data detail))
          intro record written
          rcases participateInDidAuthExchange_saved runtime config answers written with
            ⟨holder, compatLog, rfl⟩
          rfl
      | claim detail =>
          apply Affects.of_quiet (Quiet.of_asks (participateInClaimExchange_asks ..))
          intro record written
          rcases participateInClaimExchange_saved runtime config answers written with
            ⟨signedCredential, compatLog, rfl⟩
          rfl
      | verify detail =>
          exact participateInVerifyExchange_affects (takes (by simpa using nonempty)) rfl rfl

private theorem oid4vpResponseRoute_affects {body : Option Json} {detail : ExchangeDetailVerify}
    (takes : endpoint.takesPresentation = true) :
    Affects config answers endpoint (.verify detail)
      (oid4vpResponseRoute runtime config answers body detail) := by
  unfold oid4vpResponseRoute
  split
  · exact .unwritten
  · unfold handleOid4vpResponse
    split
    · exact .unwritten
    · rename_i presentation working accepted
      rcases acceptDirectPost_ok runtime accepted with ⟨posted, parsed, -, -, consumed, -, -⟩
      rcases consumeOid4vpResponse_ok consumed with ⟨state, -, -, -, rfl⟩
      exact Affects.then (participateInVerifyExchange_affects takes rfl rfl) (fun _ => rfl)
        fun _ => .value _

/-! ## Every endpoint -/

private theorem of_claim_change {detail : ExchangeDetailClaim}
    {action : Handler α} (quiet : Quiet action)
    (changes : ∀ record, action.saved = some record →
      Change runtime config answers endpoint (.claim detail) record) :
    Affects config answers endpoint (.claim detail) action := by
  apply Affects.of_quiet quiet
  intro record written
  have workflow := change_workflowId (changes record written)
  cases record with
  | claim after => rfl
  | didAuth after => cases workflow
  | verify after => cases workflow

variable (runtime) in
theorem onClaim_affects {message : String}
    {route : ExchangeDetailClaim → Handler Response} (quiet : ∀ detail, Quiet (route detail))
    (changes : ∀ detail record, (route detail).saved = some record →
      Change runtime config answers endpoint (.claim detail) record) :
    Affects config answers endpoint loaded (onClaim message route loaded) := by
  cases loaded with
  | claim detail => exact of_claim_change (quiet detail) (changes detail)
  | didAuth detail => exact .unwritten
  | verify detail => exact .unwritten

theorem onVerify_affects {message : String} {route : ExchangeDetailVerify → Handler Response}
    (affects : ∀ detail, Affects config answers endpoint (.verify detail) (route detail)) :
    Affects config answers endpoint loaded (onVerify message route loaded) := by
  cases loaded with
  | verify detail => exact affects detail
  | didAuth detail => exact .unwritten
  | claim detail => exact .unwritten

private theorem oid4vpRequestRoute_affects {detail : ExchangeDetailVerify} :
    Affects config answers endpoint (.verify detail)
      (oid4vpRequestRoute runtime answers detail) := by
  apply Affects.of_quiet (Quiet.of_asks
    (@oid4vpRequestRoute_asks runtime config answers none detail))
  intro record written
  unfold oid4vpRequestRoute at written
  dsimp only at written
  split at written
  · rcases Action.saved_bind written with saves | ⟨_, -, later⟩
    · rw [saveExchange_saved saves]
      rcases ensureOid4vpState_cases answers detail with same | ⟨state, same⟩
      · rw [same]
      · rw [same]
        rfl
    · rcases Action.saved_bind later with nothing | ⟨_, -, nothing⟩ <;> cases nothing
  · rcases Action.saved_bind written with nothing | ⟨_, -, nothing⟩ <;> cases nothing

theorem serve_affects {workflowId : String} :
    Affects config answers endpoint loaded
      (serve runtime config answers workflowId endpoint (some loaded)) := by
  have found : ∀ {route : Exchange → Handler Response} {workflow : String},
      Affects config answers endpoint loaded (route loaded) →
      Affects config answers endpoint loaded
        (Action.ofExcept (getExchangeData (some loaded) workflow) >>= route) := by
    intro route workflow affects
    apply Affects.after
    intro exchange loads
    cases getExchangeData_ok loads
    exact affects
  cases endpoint with
  | participate data =>
      apply Affects.after
      intro _ _
      exact found (Affects.map (participateInExchange_affects fun _ => rfl) json)
  | legacyParticipate =>
      exact found (Affects.map (participateInExchange_affects (by rintro ⟨⟩)) json)
  | exchangeDetail authorization exchangeToken =>
      apply Affects.after
      intro tenant _
      apply Affects.after
      intro _ _
      apply found
      apply Affects.after
      intro _ _
      exact Affects.then (sweepIfTimedOut_affects rfl) (fun _ => rfl) fun _ => .value _
  | protocols =>
      exact found (Affects.then (sweepIfTimedOut_affects rfl)
        (fun _ => Action.saved_bind_eq_none rfl fun _ => rfl)
        fun _ => Quiet.bind (.ofExcept _) fun _ _ => .value _)
  | interaction =>
      apply Affects.after
      intro exchange loads
      cases getExchangeDataById_ok loads
      exact Affects.then (sweepIfTimedOut_affects rfl)
        (fun _ => Action.saved_bind_eq_none rfl fun _ => rfl)
        fun _ => Quiet.bind (.ofExcept _) fun _ _ => .value _
  | credentialOffer =>
      exact found (onClaim_affects runtime (fun _ => Quiet.of_asks
        (@credentialOfferRoute_asks runtime config answers none _))
        fun _ _ => credentialOfferRoute_saved)
  | token body =>
      exact found (onClaim_affects runtime (fun _ => Quiet.of_asks
        (@tokenRoute_asks runtime config answers none body _))
        fun _ _ => tokenRoute_saved)
  | nonce =>
      exact found (onClaim_affects runtime (fun _ => Quiet.of_asks
        (@nonceRoute_asks runtime config answers none _))
        fun _ _ => nonceRoute_saved)
  | credential authorization body =>
      apply found
      refine onClaim_affects runtime (fun _ => Quiet.of_asks (credentialRoute_asks ..)) ?_
      intro detail record written
      rcases credentialRoute_saved runtime config answers written with
        ⟨ongoing, signedCredential, compatLog, rfl⟩
      exact .issued signedCredential compatLog ongoing
  | authorizationRequest => exact found (onVerify_affects fun _ => oid4vpRequestRoute_affects)
  | directPost body => exact found (onVerify_affects fun _ => oid4vpResponseRoute_affects rfl)

theorem serve_none {workflowId : String} {endpoint : Endpoint} :
    (serve runtime config answers workflowId endpoint none).saved = none ∧
      Quiet (serve runtime config answers workflowId endpoint none) := by
  have silent : (serve runtime config answers workflowId endpoint none).saved = none := by
    cases saved : (serve runtime config answers workflowId endpoint none).saved with
    | none => rfl
    | some record =>
        rcases serve_saved saved with ⟨exchange, found, -⟩
        cases found
  refine ⟨silent, ?_⟩
  cases endpoint with
  | participate data => exact Quiet.bind (.ofExcept _) fun _ _ => .fail _
  | exchangeDetail authorization exchangeToken =>
      exact Quiet.bind (.ofExcept _) fun _ _ => Quiet.bind (.ofExcept _) fun _ _ => .fail _
  | _ => rfl

end

end TransactionService.Enqueues
