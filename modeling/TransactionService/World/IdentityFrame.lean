import TransactionService.World.Sessions

namespace TransactionService.IdentityFrame

open SharedStore SingleUse Sessions

/-! # The identity frame

Every writer rebuilds the whole record from the copy it loaded, which may be
stale. None of them changes what the exchange was created as. -/

variable {runtime : Runtime} {config : Config} {answers : Answers}

/-! ## The worker -/

theorem identityOf_mapVerify {update : ExchangeDetailVerify → ExchangeDetailVerify}
    (keeps : ∀ detail, identityOf (.verify (update detail)) = identityOf (.verify detail))
    (exchange : Exchange) : identityOf (exchange.mapVerify update) = identityOf exchange := by
  cases exchange with
  | verify detail => exact keeps detail
  | didAuth detail => rfl
  | claim detail => rfl

private theorem running_identity (exchange : ExchangeDetailVerify) (task : VerifyTask)
    (current : Exchange) :
    identityOf ((planFor runtime config answers exchange task).running current) =
      identityOf current := by
  rw [planFor_running_eq]
  exact identityOf_mapVerify (fun detail => identityOf_withVerifyTask detail _) current

private theorem final_identity (exchange : ExchangeDetailVerify) (task : VerifyTask)
    {current : Exchange} (same : identityOf current = identityOf (.verify exchange)) :
    identityOf ((planFor runtime config answers exchange task).final current) =
      identityOf (.verify exchange) := by
  rcases planFor_final_cases runtime config answers exchange task with
    ⟨message, isFailure, -⟩ | ⟨base, merged, -, -, isSettled⟩
  · have kept : identityOf (failureUpdate answers task message current) =
        identityOf current :=
      identityOf_mapVerify (fun detail => identityOf_withVerifyTask detail _) current
    rw [isFailure, kept, same]
  · rw [isSettled]
    rfl

private theorem worker_keeps {exchangeId : String} {loaded : Exchange} {next : ExchangeWrite}
    (place : loaded.exchangeId = exchangeId)
    (member : next ∈ workerWrites runtime config answers exchangeId loaded) :
    next.KeepsIdentity identityOf exchangeId loaded := by
  unfold workerWrites at member
  split at member
  · cases member
  · rename_i plan planned
    rcases (planWorker_eq_ok runtime config answers).mp planned with
      ⟨exchange, task, found, -, -, rfl⟩
    cases found
    rcases List.mem_cons.mp member with rfl | last
    · exact ⟨rfl, fun current same => (running_identity exchange task current).trans same⟩
    · cases List.mem_singleton.mp last
      exact ⟨rfl, fun current same => final_identity exchange task same⟩

/-! ## Requests -/

private theorem sweep_keeps {exchangeId : String} {loaded : Exchange} {next : ExchangeWrite}
    (place : loaded.exchangeId = exchangeId)
    (member : next ∈ sweepWrites config answers loaded) :
    next.KeepsIdentity identityOf exchangeId loaded := by
  unfold sweepWrites at member
  split at member
  · cases member
  · rename_i plan planned
    cases List.mem_singleton.mp member
    exact ⟨place, fun _ _ => planSweep_identity planned⟩

private theorem request_keeps {request : StoreRequest} {exchangeId : String} {loaded : Exchange}
    {next : ExchangeWrite} (place : loaded.exchangeId = exchangeId)
    (member : next ∈ requestWrites runtime config request loaded) :
    next.KeepsIdentity identityOf exchangeId loaded := by
  unfold requestWrites at member
  split at member
  · cases member
  · rename_i record saved
    split at member
    · exact sweep_keeps place member
    · cases List.mem_singleton.mp member
      exact (written_change saved).identity

/-! ## The store -/

theorem exchange_framed : Framed (exchangeProtocol runtime config) identityOf where
  keyed _ _ same := congrArg Identity.exchangeId same
  plans task exchangeId loaded place next member := by
    cases task with
    | request request => exact request_keeps place member
    | work answers => exact worker_keeps place member

/-- However requests, sweeps and worker runs interleave, every stored record lies
under its own id and is what was created there, up to the state, the results and
the state of the verify task, of OID4VCI and of OID4VP; and no step touches a
record under another id than the one it is about. -/
theorem identity_framed {labels : List ExchangeLabel} {system : ExchangeSystem}
    (runs : Machine.run (sessionStep runtime config) SharedStore.start labels = some system) :
    (∀ exchangeId record, system.stored exchangeId = some record →
      record.exchangeId = exchangeId ∧ ∃ creation, .create creation ∈ labels ∧
        identityOf record =
          identityOf (createExchange config creation.answers creation.data)) ∧
    ∀ label next exchangeId, sessionStep runtime config system label = some next →
      about (exchangeProtocol runtime config) system label ≠ some exchangeId →
        next.stored exchangeId = system.stored exchangeId := by
  constructor
  · intro exchangeId record isStored
    rcases exchange_framed.stored_of_run runs isStored with
      ⟨place, creation, member, -, same⟩
    exact ⟨place, creation, member, same⟩
  · intro label next exchangeId stepped elsewhere
    exact step_other (exchange_framed.sound_of_run runs) stepped elsewhere

/-! ### A write built from a stale copy -/

def offeredCredential : Creation where
  data := .claim { exchangeHost := "http://localhost:4004", vc := "the credential" }
  answers := Answers.plain

def nonceRequest : Task :=
  .request { workflowId := "claim", endpoint := .nonce, answers := Answers.plain }

/-- Both requests load the created record; the second writes over the first. -/
def overlappingRequests : List ExchangeLabel :=
  [.create offeredCredential, .load 0 "uuid" nonceRequest, .load 1 "uuid" nonceRequest,
    .put 0, .put 1]

theorem identity_framed_overlapping :
    ∃ system record, Machine.run (sessionStep Runtime.plain {}) SharedStore.start
        overlappingRequests = some system ∧
      system.stored "uuid" = some record ∧
      identityOf record =
        identityOf (createExchange {} offeredCredential.answers offeredCredential.data) := by
  have ran : ∃ system record, Machine.run (sessionStep Runtime.plain {}) SharedStore.start
      overlappingRequests = some system ∧ system.stored "uuid" = some record :=
    ⟨_, _, rfl, rfl⟩
  rcases ran with ⟨system, record, runs, isStored⟩
  refine ⟨system, record, runs, isStored, ?_⟩
  rcases (identity_framed runs).1 "uuid" record isStored with ⟨-, creation, member, same⟩
  have only : creation = offeredCredential := by
    simpa [overlappingRequests] using member
  rw [same, only]

end TransactionService.IdentityFrame
