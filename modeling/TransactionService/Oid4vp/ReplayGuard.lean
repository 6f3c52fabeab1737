import TransactionService.World.RecordHistory

namespace TransactionService.ReplayGuard

open History SingleUse RecordHistory

/-! # One response to one authorization request

The state token of a verify exchange is minted once and answered once, whatever
else happens to the exchange in between. -/

def storedState : Option Exchange → Option String
  | some (.verify detail) => (oid4vpState detail).state
  | _ => none

/-! ## Authorization requests that can be built -/

/-- The schema of authorization requests accepts what the exchange is made of. -/
structure CanBeRequested (runtime : Runtime) (detail : ExchangeDetailVerify) : Prop where
  paths : ∀ claim ∈ detail.vars.vprClaims, claim.path ≠ []
  responseUri : runtime.isUrl (responseUriForExchange detail) = true
  challenge : detail.vars.challenge ≠ ""

section

variable {runtime : Runtime} {config : Config} {answers : Answers}
  {request : StoreRequest} {detail : ExchangeDetailVerify} {next : Exchange}

theorem buildDcqlQuery_ok_iff {claims : List DcqlClaim} :
    (∃ query, buildDcqlQuery claims = .ok query) ↔ ∀ claim ∈ claims, claim.path ≠ [] := by
  unfold buildDcqlQuery
  by_cases empty : claims.any (·.path.isEmpty) = true
  · rw [if_pos empty]
    rcases List.any_eq_true.mp empty with ⟨claim, member, isEmpty⟩
    constructor
    · intro built
      rcases built with ⟨_, impossible⟩
      cases impossible
    · intro paths
      exact absurd (List.isEmpty_iff.mp isEmpty) (paths claim member)
  · rw [if_neg empty]
    constructor
    · intro _ claim member isEmpty
      exact empty (List.any_eq_true.mpr ⟨claim, member, by simp [isEmpty]⟩)
    · exact fun _ => ⟨_, rfl⟩

theorem buildAuthorizationRequest_ok_iff :
    (∃ built, buildAuthorizationRequest runtime detail = .ok built) ↔
      CanBeRequested runtime detail := by
  unfold buildAuthorizationRequest
  constructor
  · intro isBuilt
    rcases isBuilt with ⟨built, isBuilt⟩
    cases query : buildDcqlQuery detail.vars.vprClaims with
    | error thrown => simp [query, Bind.bind, Except.bind] at isBuilt
    | ok dcqlQuery =>
        simp only [query, Bind.bind, Except.bind] at isBuilt
        split at isBuilt
        · cases isBuilt
        · rename_i isUrl
          split at isBuilt
          · cases isBuilt
          · rename_i challenge
            exact ⟨buildDcqlQuery_ok_iff.mp ⟨_, query⟩, by simpa using isUrl, challenge⟩
  · intro can
    rcases buildDcqlQuery_ok_iff.mpr can.paths with ⟨query, isQuery⟩
    simp only [isQuery, Bind.bind, Except.bind, can.responseUri, can.challenge, Bool.not_true,
      Bool.false_eq_true, if_false]
    exact ⟨_, rfl⟩

theorem buildAuthorizationRequest_state {built : Json} {token : String}
    (isBuilt : buildAuthorizationRequest runtime detail = .ok built)
    (stored : Text.given (oid4vpState detail).state = some token) :
    (built.field "state").bind Json.asString? = some token := by
  unfold buildAuthorizationRequest at isBuilt
  cases query : buildDcqlQuery detail.vars.vprClaims with
  | error thrown => simp [query, Bind.bind, Except.bind] at isBuilt
  | ok dcqlQuery =>
      simp only [query, Bind.bind, Except.bind] at isBuilt
      split at isBuilt
      · cases isBuilt
      · split at isBuilt
        · cases isBuilt
        · cases isBuilt
          simp only [stored]
          rfl

/-! ## What one request answers and writes -/

def withMintedState (answers : Answers) (detail : ExchangeDetailVerify) :
    ExchangeDetailVerify :=
  withOid4vp detail { oid4vpState detail with
    state := some answers.randomBytes
    responseReceived := some false }

theorem ensureOid4vpState_given {token : String}
    (stored : Text.given (oid4vpState detail).state = some token) :
    ensureOid4vpState answers detail = (detail, false) := by
  simp [ensureOid4vpState, stored]

private theorem ensureOid4vpState_minted (none : Text.given (oid4vpState detail).state = none) :
    ensureOid4vpState answers detail = (withMintedState answers detail, true) := by
  simp [ensureOid4vpState, none, withMintedState]

theorem oid4vpRequestRoute_given {token : String}
    (stored : Text.given (oid4vpState detail).state = some token) :
    (oid4vpRequestRoute runtime answers detail).saved = none := by
  unfold oid4vpRequestRoute
  rw [ensureOid4vpState_given stored]
  exact Action.saved_bind_eq_none rfl fun _ => rfl

/-- The request is built after the state that it carries has been saved. -/
theorem oid4vpRequestRoute_minted (none : Text.given (oid4vpState detail).state = none) :
    oid4vpRequestRoute runtime answers detail = (do
      saveExchange answers (.verify (withMintedState answers detail))
      let request ← Action.ofExcept
        (buildAuthorizationRequest runtime (withMintedState answers detail))
      return json request) := by
  unfold oid4vpRequestRoute
  rw [ensureOid4vpState_minted none]
  dsimp only
  rw [if_pos rfl]

theorem withMintedState_given (nonempty : answers.randomBytes ≠ "") :
    Text.given (oid4vpState (withMintedState answers detail)).state =
      some answers.randomBytes :=
  Text.given_some nonempty

theorem canBeRequested_minted :
    CanBeRequested runtime (withMintedState answers detail) ↔ CanBeRequested runtime detail :=
  ⟨fun able => ⟨able.paths, able.responseUri, able.challenge⟩,
    fun able => ⟨able.paths, able.responseUri, able.challenge⟩⟩

theorem request_written {workflowId : String}
    (saved : written runtime config ⟨workflowId, .authorizationRequest, answers⟩
      (.verify detail) = some next) :
    Text.given (oid4vpState detail).state = none ∧
      next = .verify (withMintedState answers detail) ∧
      (answers.randomBytes ≠ "" → CanBeRequested runtime detail →
        requestedState runtime config ⟨workflowId, .authorizationRequest, answers⟩
          (.verify detail) = some answers.randomBytes) := by
  rcases loaded_writes saved with ⟨writes, sameResult⟩
  have routedWrites : (oid4vpRequestRoute runtime answers detail).saved = some next := writes
  have routed : (served runtime config ⟨workflowId, .authorizationRequest, answers⟩
      (.verify detail)).result = (oid4vpRequestRoute runtime answers detail).result :=
    sameResult
  cases stored : Text.given (oid4vpState detail).state with
  | some token =>
      rw [oid4vpRequestRoute_given stored] at routedWrites
      cases routedWrites
  | none =>
      rw [oid4vpRequestRoute_minted stored] at routedWrites routed
      rcases Action.saved_bind routedWrites with stores | ⟨_, -, later⟩
      · refine ⟨rfl, saveExchange_saved stores, ?_⟩
        intro nonempty can
        rcases buildAuthorizationRequest_ok_iff.mpr (canBeRequested_minted.mpr can) with
          ⟨built, isBuilt⟩
        rw [saveExchange_bind_result stores, isBuilt] at routed
        have isServed : (served runtime config ⟨workflowId, .authorizationRequest, answers⟩
            (.verify detail)).result = .ok (json built) := routed
        simp only [requestedState, isServed]
        exact buildAuthorizationRequest_state isBuilt (withMintedState_given nonempty)
      · rcases Action.saved_bind later with nothing | ⟨_, -, nothing⟩ <;> cases nothing

private theorem request_answered {workflowId : String} {snapshot : Exchange}
    (nonempty : answers.randomBytes ≠ "") {response : Response}
    (isServed : (served runtime config ⟨workflowId, .authorizationRequest, answers⟩
      snapshot).result = .ok response) :
    ∃ token, requestedState runtime config ⟨workflowId, .authorizationRequest, answers⟩
        snapshot = some token ∧
      storedState ((written runtime config ⟨workflowId, .authorizationRequest, answers⟩
        snapshot).or (some snapshot)) = some token := by
  rcases onVerify_answers isServed with ⟨detail, rfl, routed, sameSave⟩
  have isWritten : written runtime config ⟨workflowId, .authorizationRequest, answers⟩
      (.verify detail) = (oid4vpRequestRoute runtime answers detail).saved := sameSave
  have isRouted : (oid4vpRequestRoute runtime answers detail).result = .ok response := routed
  rw [isWritten]
  cases stored : Text.given (oid4vpState detail).state with
  | some token =>
      rw [oid4vpRequestRoute_given stored, Option.none_or]
      unfold oid4vpRequestRoute at isRouted
      rw [ensureOid4vpState_given stored] at isRouted
      rcases Action.result_bind isRouted with ⟨built, isBuilt, responds⟩
      cases responds
      refine ⟨token, ?_, (Option.filter_eq_some_iff.mp stored).1⟩
      simp only [requestedState, isServed]
      exact buildAuthorizationRequest_state isBuilt stored
  | none =>
      rw [oid4vpRequestRoute_minted stored] at isRouted ⊢
      rcases Action.result_bind isRouted with ⟨_, saves, builds⟩
      rcases Action.result_bind builds with ⟨built, isBuilt, responds⟩
      cases responds
      refine ⟨answers.randomBytes, ?_, ?_⟩
      · simp only [requestedState, isServed]
        exact buildAuthorizationRequest_state isBuilt (withMintedState_given nonempty)
      · rw [Action.bind_ok saves, saveExchange_ok saves]
        dsimp only
        rw [Action.bind_ok isBuilt]
        rfl

/-! ### Responses -/

variable (runtime config) in
/-- A `direct_post` that is answered with status 200. -/
def acceptsResponse (request : StoreRequest) (snapshot : Exchange) : Bool :=
  match request.endpoint with
  | .directPost _ => SingleUse.succeeds (served runtime config request snapshot).result
  | _ => false

/-! ## One step of the record -/

inductive VerifyStep (operation : Operation) (detail : ExchangeDetailVerify) :
    ExchangeDetailVerify → Prop
  | other {after : ExchangeDetailVerify} (same : after.vars.oid4vp = detail.vars.oid4vp) :
      VerifyStep operation detail after
  | minted {workflowId : String} {answers : Answers}
      (requests : operation = .request ⟨workflowId, .authorizationRequest, answers⟩)
      (none : Text.given (oid4vpState detail).state = none) :
      VerifyStep operation detail (withMintedState answers detail)
  | answered {after : ExchangeDetailVerify} {token : String}
      (issued : (oid4vpState detail).state = some token)
      (marked : oid4vpState after =
        { oid4vpState detail with responseReceived := some true }) :
      VerifyStep operation detail after

theorem submission_sameState {data : Json} {stored : Exchange}
    (stores : SubmissionStores runtime config answers data detail stored) :
    ∃ after, stored = .verify after ∧ after.vars.oid4vp = detail.vars.oid4vp := by
  rcases stores.overwrites with ⟨_, _, _, rfl⟩
  exact ⟨_, rfl, rfl⟩

private theorem written_verifyStep
    (saved : written runtime config request (.verify detail) = some next) :
    ∃ after, next = .verify after ∧ VerifyStep (.request request) detail after := by
  rcases request with ⟨workflowId, endpoint, answers⟩
  have change := written_change saved
  generalize isEndpoint : endpoint = place at change
  cases change with
  | activated pending => exact ⟨_, rfl, .other rfl⟩
  | submitted ongoing nonempty stores =>
      rcases submission_sameState stores with ⟨after, rfl, same⟩
      exact ⟨after, rfl, .other same⟩
  | swept planned =>
      rcases planSweep_eq_some config answers planned with
        ⟨exchange, task, same, -, -, -, -, ⟨-, rfl⟩ | ⟨-, rfl⟩⟩
      · cases same
        exact ⟨_, rfl, .other rfl⟩
      · cases same
        exact ⟨_, rfl, .other rfl⟩
  | requested =>
      subst isEndpoint
      rcases request_written saved with ⟨none, isNext, -⟩
      exact ⟨_, isNext, .minted rfl none⟩
  | answered ongoing accepted stores =>
      rcases acceptDirectPost_ok runtime accepted with ⟨_, _, -, -, consumed, -, -⟩
      rcases consumeOid4vpResponse_ok consumed with ⟨token, -, issued, -, rfl⟩
      rcases submission_sameState stores with ⟨after, rfl, same⟩
      refine ⟨after, rfl, .answered issued ?_⟩
      simp [oid4vpState, same, withOid4vp]

private theorem worker_verifyStep {task : VerifyTask}
    (stores : WorkerStores runtime config answers detail task next) :
    ∃ after, next = .verify after ∧ VerifyStep (.work answers) detail after := by
  cases stores with
  | running => exact ⟨_, rfl, .other rfl⟩
  | failed message => exact ⟨_, rfl, .other rfl⟩
  | settled hasResults passed => exact ⟨_, rfl, .other rfl⟩

variable (runtime config) in
theorem verify_step (operation : Operation) (detail : ExchangeDetailVerify)
    (isApplied : applied runtime config operation (some (.verify detail)) = some next) :
    ∃ after, next = .verify after ∧ VerifyStep operation detail after := by
  cases operation with
  | evict => cases isApplied
  | work answers =>
      rcases Option.or_eq_some_iff.mp isApplied with saved | ⟨-, unchanged⟩
      · rcases processVerifyTask_saved runtime config answers saved with
          ⟨exchange, task, same, -, -, stores⟩
        cases same
        exact worker_verifyStep stores
      · cases unchanged
        exact ⟨detail, rfl, .other rfl⟩
  | request request =>
      rcases Option.or_eq_some_iff.mp isApplied with saved | ⟨-, unchanged⟩
      · exact written_verifyStep saved
      · cases unchanged
        exact ⟨detail, rfl, .other rfl⟩

end

/-! ## What the record owes to its past -/

section

variable (runtime : Runtime) (config : Config)

def MintsServed (recorded : RecordWithPast) (operation : Operation) : Prop :=
  ∀ request detail, operation = .request request →
    request.endpoint = .authorizationRequest → recorded.value = some (.verify detail) →
    (written runtime config request (.verify detail)).isSome = true →
    CanBeRequested runtime detail

def DrawsText (operation : Operation) : Prop :=
  ∀ request, operation = .request request → request.answers.randomBytes ≠ ""

def succeeded (entry : RecordEntry) : Bool :=
  happened (fun request snapshot =>
    SingleUse.succeeds (served runtime config request snapshot).result) entry

structure Guards (recorded : RecordWithPast) : Prop where
  /-- A state token stays in the record as long as there is one. -/
  unchanged : ∀ newer entry older token,
    recorded.past = newer ++ entry :: older → storedState entry.found = some token →
    (∀ later ∈ newer, ∀ snapshot, later.found = some snapshot →
      storedState (some snapshot) = some token) ∧
    ∀ snapshot, recorded.value = some snapshot → storedState (some snapshot) = some token
  /-- A request that is served carries the token that is stored from then on. -/
  carried : ∀ workflowId answers found,
    ⟨found, .request ⟨workflowId, .authorizationRequest, answers⟩⟩ ∈ recorded.past →
    succeeded runtime config
      ⟨found, .request ⟨workflowId, .authorizationRequest, answers⟩⟩ = true →
    ∃ token,
      answered (requestedState runtime config)
        ⟨found, .request ⟨workflowId, .authorizationRequest, answers⟩⟩ = some token ∧
      storedState (applied runtime config
        (.request ⟨workflowId, .authorizationRequest, answers⟩) found) = some token
  /-- A response that is accepted presents the token, after a request with it. -/
  accepted : ∀ newer older workflowId body answers found,
    recorded.past =
      newer ++ ⟨found, .request ⟨workflowId, .directPost body, answers⟩⟩ :: older →
    happened (acceptsResponse runtime config)
      ⟨found, .request ⟨workflowId, .directPost body, answers⟩⟩ = true →
    ∃ token, presentedState runtime body = some token ∧ storedState found = some token ∧
      ∃ entry ∈ older, answered (requestedState runtime config) entry = some token
  once : recorded.past.countP (happened (acceptsResponse runtime config)) ≤ 1

/-- The stored token has been sent; as long as it is not marked, there was no
response. -/
structure Guarded (past : RecordPast) (detail : ExchangeDetailVerify) : Prop where
  given : ∀ token, (oid4vpState detail).state = some token → token ≠ ""
  sent : ∀ token, (oid4vpState detail).state = some token →
    ∃ entry ∈ past, answered (requestedState runtime config) entry = some token
  kept : ∀ entry ∈ past, ∀ token, storedState entry.found = some token →
    (oid4vpState detail).state = some token
  unmarked : (oid4vpState detail).responseReceived.getD false = false →
    ∀ entry ∈ past, happened (acceptsResponse runtime config) entry = false
  unminted : (oid4vpState detail).state = none →
    ∀ entry ∈ past, happened (acceptsResponse runtime config) entry = false

structure Consistent (recorded : RecordWithPast) : Prop where
  guarded : ∀ snapshot, recorded.value = some snapshot →
    ∃ detail, snapshot = .verify detail ∧ Guarded runtime config recorded.past detail
  once : recorded.past.countP (happened (acceptsResponse runtime config)) ≤ 1

end

section

variable {runtime : Runtime} {config : Config} {recorded : RecordWithPast}
  {detail after : ExchangeDetailVerify} {past : RecordPast} {operation : Operation}

theorem accepts_found {found : Option Exchange}
    (wins : happened (acceptsResponse runtime config) ⟨found, operation⟩ = true) :
    ∃ workflowId body answers detail token stored,
      operation = .request ⟨workflowId, .directPost body, answers⟩ ∧
      found = some (.verify detail) ∧ presentedState runtime body = some token ∧
      (oid4vpState detail).state = some token ∧
      (oid4vpState detail).responseReceived.getD false = false ∧
      applied runtime config operation found = some (.verify stored) ∧
      (oid4vpState stored).responseReceived = some true := by
  rcases happened_eq_true wins with ⟨request, snapshot, rfl, rfl, won⟩
  rcases request with ⟨workflowId, endpoint, answers⟩
  cases endpoint with
  | directPost body =>
      rcases directPost_succeeds won with
        ⟨detail, token, stored, rfl, presents, issued, unmarked, saved, marked⟩
      exact ⟨workflowId, body, answers, detail, token, stored, rfl, rfl, presents, issued,
        unmarked, applied_written saved, by rw [marked]⟩
  | _ => cases won

theorem Guarded.none_of_given (guarded : Guarded runtime config past detail)
    (none : Text.given (oid4vpState detail).state = none) :
    (oid4vpState detail).state = Option.none := by
  cases stored : (oid4vpState detail).state with
  | none => rfl
  | some token =>
      rw [stored] at none
      simp [Text.given, guarded.given token stored] at none

private theorem Guarded.unmarked_next (guarded : Guarded runtime config past detail)
    (isStep : VerifyStep operation detail after)
    (isApplied : applied runtime config operation (some (.verify detail)) =
      some (.verify after))
    (unmarked : (oid4vpState after).responseReceived.getD false = false) :
    ∀ entry ∈ ⟨some (.verify detail), operation⟩ :: past,
      happened (acceptsResponse runtime config) entry = false := by
  intro entry member
  rcases List.mem_cons.mp member with same | earlier
  · rw [same]
    cases wins : happened (acceptsResponse runtime config)
        ⟨some (.verify detail), operation⟩ with
    | false => rfl
    | true =>
        rcases accepts_found wins with
          ⟨_, _, _, _, _, stored, -, -, -, -, -, isStored, marked⟩
        cases isApplied.symm.trans isStored
        rw [marked] at unmarked
        cases unmarked
  · cases isStep with
    | other same =>
        have sameState : oid4vpState after = oid4vpState detail := by
          simp [oid4vpState, same]
        rw [sameState] at unmarked
        exact guarded.unmarked unmarked entry earlier
    | minted requests none =>
        exact guarded.unminted (guarded.none_of_given none) entry earlier
    | answered issued marked =>
        rw [marked] at unmarked
        cases unmarked

theorem Guarded.next_of_same (guarded : Guarded runtime config past detail)
    (sameToken : (oid4vpState after).state = (oid4vpState detail).state)
    (unmarked : (oid4vpState after).responseReceived.getD false = false →
      ∀ entry ∈ ⟨some (.verify detail), operation⟩ :: past,
        happened (acceptsResponse runtime config) entry = false) :
    Guarded runtime config (⟨some (.verify detail), operation⟩ :: past) after := by
  constructor
  · intro token stored
    rw [sameToken] at stored
    exact guarded.given token stored
  · intro token stored
    rw [sameToken] at stored
    rcases guarded.sent token stored with ⟨entry, member, isSent⟩
    exact ⟨entry, List.mem_cons_of_mem _ member, isSent⟩
  · intro entry member token stored
    rw [sameToken]
    rcases List.mem_cons.mp member with same | earlier
    · rw [same] at stored
      exact stored
    · exact guarded.kept entry earlier token stored
  · exact unmarked
  · intro none entry member
    rw [sameToken] at none
    rcases List.mem_cons.mp member with same | earlier
    · rw [same]
      cases wins : happened (acceptsResponse runtime config)
          ⟨some (.verify detail), operation⟩ with
      | false => rfl
      | true =>
          rcases accepts_found wins with
            ⟨_, _, _, found, token, _, -, isFound, -, issued, -⟩
          cases isFound
          rw [none] at issued
          cases issued
    · exact guarded.unminted none entry earlier

private theorem Guarded.next_of_minted {workflowId : String} {answers : Answers}
    (guarded : Guarded runtime config past detail)
    (none : Text.given (oid4vpState detail).state = none)
    (isApplied : applied runtime config
      (.request ⟨workflowId, .authorizationRequest, answers⟩) (some (.verify detail)) =
        some (.verify (withMintedState answers detail)))
    (nonempty : answers.randomBytes ≠ "")
    (served : MintsServed runtime config ⟨some (.verify detail), past⟩
      (.request ⟨workflowId, .authorizationRequest, answers⟩))
    (unmarked : (oid4vpState (withMintedState answers detail)).responseReceived.getD false =
      false → ∀ entry ∈ ⟨some (.verify detail),
          .request ⟨workflowId, .authorizationRequest, answers⟩⟩ :: past,
        happened (acceptsResponse runtime config) entry = false) :
    Guarded runtime config (⟨some (.verify detail),
      .request ⟨workflowId, .authorizationRequest, answers⟩⟩ :: past)
      (withMintedState answers detail) := by
  have unset := guarded.none_of_given none
  have saved : ∃ next, written runtime config
      ⟨workflowId, .authorizationRequest, answers⟩ (.verify detail) = some next := by
    rcases Option.or_eq_some_iff.mp isApplied with saved | ⟨-, unchanged⟩
    · exact ⟨_, saved⟩
    · have same : detail = withMintedState answers detail :=
        Exchange.verify.inj (Option.some.inj unchanged)
      rw [same] at unset
      cases unset
  rcases saved with ⟨next, saved⟩
  have can := served _ detail rfl rfl rfl (by rw [saved]; rfl)
  constructor
  · intro token stored
    cases stored
    exact nonempty
  · intro token stored
    cases stored
    exact ⟨_, List.mem_cons_self .., (request_written saved).2.2 nonempty can⟩
  · intro entry member token stored
    rcases List.mem_cons.mp member with same | earlier
    · rw [same] at stored
      have issued : (oid4vpState detail).state = some token := stored
      rw [unset] at issued
      cases issued
    · have issued := guarded.kept entry earlier token stored
      rw [unset] at issued
      cases issued
  · exact unmarked
  · intro impossible
    cases impossible

theorem Guarded.next (guarded : Guarded runtime config past detail)
    (isStep : VerifyStep operation detail after)
    (isApplied : applied runtime config operation (some (.verify detail)) =
      some (.verify after))
    (draws : DrawsText operation)
    (served : MintsServed runtime config ⟨some (.verify detail), past⟩ operation) :
    Guarded runtime config (⟨some (.verify detail), operation⟩ :: past) after := by
  have unmarked := guarded.unmarked_next isStep isApplied
  cases isStep with
  | other same =>
      apply guarded.next_of_same _ unmarked
      simp [oid4vpState, same]
  | minted requests none =>
      subst requests
      exact guarded.next_of_minted none isApplied (draws _ rfl) served unmarked
  | answered issued marked =>
      apply guarded.next_of_same _ unmarked
      rw [marked]

/-! ## Runs -/

theorem consistent_next (consistent : Consistent runtime config recorded)
    (operation : Operation) (draws : DrawsText operation)
    (served : MintsServed runtime config recorded operation) :
    Consistent runtime config (History.next (applied runtime config) recorded operation) := by
  constructor
  · intro snapshot stores
    have isApplied : applied runtime config operation recorded.value = some snapshot :=
      stores
    rcases recorded with ⟨value, past⟩
    cases value with
    | none => exact absurd isApplied (applied_none operation snapshot)
    | some stored =>
        rcases consistent.guarded stored rfl with ⟨detail, rfl, guarded⟩
        rcases verify_step runtime config operation detail isApplied with
          ⟨after, rfl, isStep⟩
        exact ⟨after, rfl, guarded.next isStep isApplied draws served⟩
  · apply countP_cons_le_one _ consistent.once
    intro wins
    rcases accepts_found wins with
      ⟨_, _, _, detail, token, _, -, isFound, -, issued, unmarked, -⟩
    rcases consistent.guarded _ isFound with ⟨same, isSame, guarded⟩
    cases isSame
    exact guarded.unmarked unmarked

theorem start_consistent (created : detail.vars.oid4vp = none) :
    Consistent runtime config (start (some (.verify detail))) := by
  have empty : oid4vpState detail = {} := by simp [oid4vpState, created]
  refine ⟨?_, Nat.zero_le 1⟩
  intro snapshot isStored
  cases isStored
  refine ⟨detail, rfl, ?_, ?_, fun _ member => (nomatch member),
    fun _ _ member => (nomatch member), fun _ _ member => (nomatch member)⟩
  · intro token stored
    rw [empty] at stored
    cases stored
  · intro token stored
    rw [empty] at stored
    cases stored

theorem Consistent.kept (consistent : Consistent runtime config recorded)
    {entry : RecordEntry} {token : String} (member : entry ∈ recorded.past)
    (stored : storedState entry.found = some token) :
    ∀ snapshot, recorded.value = some snapshot → storedState (some snapshot) = some token := by
  intro snapshot found
  rcases consistent.guarded snapshot found with ⟨detail, rfl, guarded⟩
  exact guarded.kept entry member token stored

private theorem guards_of_consistent (consistent : Consistent runtime config recorded)
    (before : ∀ newer entry older, recorded.past = newer ++ entry :: older →
      Consistent runtime config ⟨entry.found, older⟩)
    (draws : ∀ entry ∈ recorded.past, DrawsText entry.operation) :
    Guards runtime config recorded where
  unchanged := by
    intro newer entry older token split stored
    constructor
    · intro later member snapshot found
      rcases List.append_of_mem member with ⟨newest, between, rfl⟩
      have isSplit : recorded.past = newest ++ later :: (between ++ entry :: older) := by
        rw [split, List.append_assoc, List.cons_append]
      exact (before newest later _ isSplit).kept (by simp) stored snapshot found
    · exact consistent.kept (by rw [split]; simp) stored
  carried := by
    intro workflowId answers found member success
    rcases happened_eq_true success with ⟨request, snapshot, rfl, isRequest, succeeds⟩
    cases isRequest
    have nonempty := draws _ member _ rfl
    cases isServed : (served runtime config ⟨workflowId, .authorizationRequest, answers⟩
        snapshot).result with
    | error thrown => simp [isServed, SingleUse.succeeds] at succeeds
    | ok response => exact request_answered nonempty isServed
  accepted := by
    intro newer older workflowId body answers found split wins
    rcases accepts_found wins with
      ⟨_, _, _, detail, token, _, isRequest, rfl, presents, issued, -⟩
    cases isRequest
    rcases (before newer _ older split).guarded _ rfl with ⟨same, isSame, guarded⟩
    cases isSame
    exact ⟨token, presents, issued, guarded.sent token issued⟩
  once := consistent.once

/-- In every run in which states are only minted for requests that can be built, one
response at most is accepted, to a request that was sent. -/
theorem replay_guarded {creationAnswers : Answers} {data : VerifyCreateData}
    {operations : List Operation} {final : RecordWithPast}
    (draws : ∀ operation ∈ operations, DrawsText operation)
    (served : Machine.Along (recordStep runtime config) (MintsServed runtime config)
      (start (some (.verify (createExchangeVerify config creationAnswers data)))) operations)
    (runs : Machine.run (recordStep runtime config)
      (start (some (.verify (createExchangeVerify config creationAnswers data)))) operations =
        some final) :
    Guards runtime config final := by
  have drawsAlong : Machine.Along (recordStep runtime config)
      (fun _ operation => DrawsText operation)
      (start (some (.verify (createExchangeVerify config creationAnswers data))))
      operations :=
    Machine.along_of_forall_mem (fun operation member _ => draws operation member) _
  have along := drawsAlong.and served
  have throughout := holds_throughout
    (fun recorded => Consistent runtime config recorded ∧
      ∀ entry ∈ recorded.past, DrawsText entry.operation)
    (fun recorded operation holding allowed => by
      refine ⟨consistent_next holding.1 operation allowed.1 allowed.2, ?_⟩
      intro entry member
      rcases List.mem_cons.mp member with same | earlier
      · rw [same]
        exact allowed.1
      · exact holding.2 entry earlier)
    ⟨start_consistent rfl, fun _ member => (nomatch member)⟩ rfl along runs
  exact guards_of_consistent throughout.1.1
    (fun newer entry older split => (throughout.2 newer entry older split).1)
    throughout.1.2

end

/-! ## A state that is never sent -/

def verifyData (vprClaims : List (Option DcqlClaim)) : VerifyCreateData where
  exchangeHost := "http://localhost:4004"
  vprContext := []
  vprCredentialType := ["VerifiableCredential"]
  vprClaims := vprClaims

def createdVerify (vprClaims : List (Option DcqlClaim)) : ExchangeDetailVerify :=
  createExchangeVerify {} Answers.plain (verifyData vprClaims)

def mintingAnswers : Answers := { Answers.plain with randomBytes := "state-1" }

def postedProof : Json :=
  .obj [
    ("type", .str "DataIntegrityProof"),
    ("created", .str "2026-01-01T00:00:00Z"),
    ("verificationMethod", .str "did:example:holder#key-1"),
    ("proofPurpose", .str "authentication"),
    ("challenge", .str "uuid"),
    ("domain", .str (clientIdForExchange (createdVerify []))),
    ("proofValue", .str "z1")]

def postedPresentation : Json :=
  .obj [
    ("@context", .arr [.str "https://www.w3.org/2018/credentials/v1"]),
    ("type", .arr [.str "VerifiablePresentation"]),
    ("holder", .str "did:example:holder"),
    ("verifiableCredential", .arr [sampleCredential]),
    ("proof", postedProof)]

def postedResponse : Json :=
  .obj [
    ("vp_token", .obj [("credential", .arr [postedPresentation])]),
    ("state", .str "state-1")]

theorem firstPresentation_posted (key : String) :
    firstPresentation [(key, .arr [postedPresentation])] = some postedPresentation := by
  rw [firstPresentation, objectValues_singleton]
  rfl

theorem acceptDirectPost_posted {body : Json} {vpToken : List (String × Json)}
    (vprClaims : List (Option DcqlClaim))
    (parsed : parseDirectPost (coerceBody Runtime.plain body) =
      some { vpToken, state := some "state-1" })
    (first : firstPresentation vpToken = some postedPresentation) :
    acceptDirectPost Runtime.plain (some body)
        (withMintedState mintingAnswers (createdVerify vprClaims)) =
      .ok (postedPresentation, withOid4vp (createdVerify vprClaims)
        { state := some "state-1", responseReceived := some true }) := by
  have consumed : consumeOid4vpResponse
      (withMintedState mintingAnswers (createdVerify vprClaims)) (some "state-1") =
        .ok (withOid4vp (createdVerify vprClaims)
          { state := some "state-1", responseReceived := some true }) := rfl
  have binds : bindsAudience postedPresentation (clientIdForExchange
      (withOid4vp (createdVerify vprClaims)
        { state := some "state-1", responseReceived := some true })) = true := by
    have found : proofsOf postedPresentation = [postedProof] := rfl
    rw [bindsAudience, found, List.any_cons, List.any_nil, Bool.or_false]
    exact Json.isText_iff.mpr rfl
  simp only [acceptDirectPost, Option.bind_some, parsed, consumed, first, binds, if_true]

def verifyRequest (endpoint : Endpoint) : Operation :=
  .request ⟨"verify", endpoint, mintingAnswers⟩

def requestAndResponse : List Operation := [
  verifyRequest .authorizationRequest,
  verifyRequest (.directPost (some postedResponse))]

theorem requestAndResponse_draw :
    ∀ operation ∈ requestAndResponse, DrawsText operation := by
  intro operation member request isRequest
  simp only [requestAndResponse, verifyRequest, List.mem_cons, List.not_mem_nil, or_false]
    at member
  rcases member with same | same
  · cases isRequest.symm.trans same
    decide
  · cases isRequest.symm.trans same
    decide

theorem replay_guarded_in_turn :
    ∃ final, Machine.run (recordStep Runtime.plain {})
        (start (some (.verify (createdVerify [])))) requestAndResponse = some final ∧
      Guards Runtime.plain {} final := by
  have ran : ∃ final, Machine.run (recordStep Runtime.plain {})
      (start (some (.verify (createdVerify [])))) requestAndResponse = some final :=
    ⟨_, rfl⟩
  rcases ran with ⟨final, runs⟩
  refine ⟨final, runs, replay_guarded requestAndResponse_draw ?_ runs⟩
  refine ⟨?_, fun _ _ => ⟨?_, fun _ _ => trivial⟩⟩
  · intro request detail _ _ found _
    cases found
    exact ⟨fun _ member => (nomatch member), by decide, by decide⟩
  · intro request detail isRequest requests
    cases isRequest
    cases requests

def emptyPath : List (Option DcqlClaim) :=
  [some { path := [], values := some [] }]

/-- A claim with an empty path makes the request fail once its state is stored. -/
theorem state_never_sent :
    ∃ final, Machine.run (recordStep Runtime.plain {})
        (start (some (.verify (createdVerify emptyPath)))) requestAndResponse =
          some final ∧
      (∀ operation ∈ requestAndResponse, DrawsText operation) ∧
      ¬ Guards Runtime.plain {} final := by
  refine ⟨_, rfl, requestAndResponse_draw, fun guards => ?_⟩
  have accepted : acceptsResponse Runtime.plain {}
      ⟨"verify", .directPost (some postedResponse), mintingAnswers⟩
      (.verify (withMintedState mintingAnswers (createdVerify emptyPath))) =
        true := by
    have isServed : (served Runtime.plain {}
        ⟨"verify", .directPost (some postedResponse), mintingAnswers⟩
        (.verify (withMintedState mintingAnswers (createdVerify emptyPath)))).result =
      (handleOid4vpResponse Runtime.plain {} mintingAnswers (some postedResponse)
        (withMintedState mintingAnswers (createdVerify emptyPath))).result := rfl
    have passed : acceptDirectPost Runtime.plain (some postedResponse)
        (withMintedState mintingAnswers (createdVerify emptyPath)) = .ok _ :=
      acceptDirectPost_posted emptyPath rfl (firstPresentation_posted "credential")
    simp only [acceptsResponse, isServed, handleOid4vpResponse, passed]
    rfl
  rcases guards.accepted [] [_] "verify" _ _ _ rfl accepted with
    ⟨token, -, -, entry, member, sent⟩
  rw [List.mem_singleton.mp member] at sent
  cases sent

end TransactionService.ReplayGuard
