import Mathlib.Logic.Function.Basic
import TransactionService.Routes.Creation
import TransactionService.Routes.SaveOrder

namespace TransactionService.FailureAtomicity

open TransactionService.Action Fallible HolderAgreement Provenance ReplayGuard SaveOrder

/-! # Failed requests and the store

Whether a request that is answered with an error has left a record behind. -/

/-! ## The store -/

/-- Every record is filed under its own id. -/
@[ext] structure ExchangeStore where
  record : String → Option Exchange
  filed : ∀ {exchangeId : String} {exchange : Exchange},
    record exchangeId = some exchange → exchange.exchangeId = exchangeId

namespace ExchangeStore

variable {store : ExchangeStore} {exchange : Exchange}

def write (store : ExchangeStore) (exchange : Exchange) : ExchangeStore where
  record := Function.update store.record exchange.exchangeId (some exchange)
  filed := by
    intro exchangeId found isFound
    by_cases same : exchangeId = exchange.exchangeId
    · subst same
      rw [Function.update_self] at isFound
      cases isFound
      rfl
    · rw [Function.update_of_ne same] at isFound
      exact store.filed isFound

def writeAll (store : ExchangeStore) (saved : List Exchange) : ExchangeStore :=
  saved.foldl write store

theorem write_self : (store.write exchange).record exchange.exchangeId = some exchange :=
  Function.update_self ..

private theorem write_isSome {exchangeId : String}
    (present : (store.record exchangeId).isSome = true) :
    ((store.write exchange).record exchangeId).isSome = true := by
  by_cases same : exchangeId = exchange.exchangeId
  · rw [same, write_self]
    rfl
  · have kept : (store.write exchange).record exchangeId = store.record exchangeId :=
      Function.update_of_ne same ..
    rw [kept]
    exact present

private theorem writeAll_isSome {saved : List Exchange} {exchangeId : String}
    (present : (store.record exchangeId).isSome = true) :
    ((store.writeAll saved).record exchangeId).isSome = true := by
  induction saved generalizing store with
  | nil => exact present
  | cons first rest induction => exact induction (write_isSome present)

private theorem writeAll_ne {rest : List Exchange}
    (free : store.record exchange.exchangeId = none) :
    store.writeAll (exchange :: rest) ≠ store := by
  intro same
  have stored : ((store.write exchange).record exchange.exchangeId).isSome = true := by
    rw [write_self]
    rfl
  have present : (((store.write exchange).writeAll rest).record
      exchange.exchangeId).isSome = true := writeAll_isSome stored
  have unchanged : (store.write exchange).writeAll rest = store := same
  rw [unchanged, free] at present
  cases present

end ExchangeStore

/-! ## Requests that write -/

/-- The routes that save exchanges. The reads that sweep are none of them. -/
inductive WriteRequest
  | createBatch (authorization : Option String) (body : Option Json)
  | create (workflowId : String) (authorization : Option String) (body : Option Json)
  | participateUnparsed
  | ofExchange (exchangeId workflowId : String) (endpoint : Endpoint)
      (direct : endpoint.sweeps = false)

section

variable (runtime : Runtime) (config : Config) (answers : Answers)

def respond (request : WriteRequest) (store : ExchangeStore) : Outcome Response :=
  match request with
  | .createBatch authorization body =>
      exchangeBatchCreateRoute runtime config answers authorization body
  | .create workflowId authorization body =>
      .ofHandler (exchangeCreateRoute runtime config answers workflowId authorization body)
  | .participateUnparsed => .ofExcept (json <$> validateJson none)
  | .ofExchange exchangeId workflowId endpoint _ =>
      .ofHandler (serve runtime config answers workflowId endpoint (store.record exchangeId))

def LeavesStore (request : WriteRequest) (store : ExchangeStore) : Prop :=
  let outcome := respond runtime config answers request store
  400 ≤ statusOf outcome.result → store.writeAll outcome.saved = store

/-! ## When nothing can go wrong after a write -/

/-- What the handler reads after its write is there: the JSON text of a template
is not `null`, the signing service has not answered a falsy value, and the
schema accepts the authorization request. -/
def CanAnswer (endpoint : Endpoint) (exchange : Exchange) : Prop :=
  match endpoint, exchange with
  | .credentialOffer, .claim detail =>
      currentCode (answers.clock 1) detail = none →
        runtime.parseJson detail.vars.vc ≠ some .null
  | .credential authorization (some posted), .claim detail =>
      ∀ proof, admittedKeyProof runtime answers detail (presentedToken authorization) posted =
          some proof →
        ∀ service sent signed,
          SignsFor runtime config answers claimWorkflow proof service sent →
          answers.callService service sent = some signed → signed.isTruthy = true
  | .authorizationRequest, .verify detail =>
      Text.given (oid4vpState detail).state = none →
        CanBeRequested runtime detail
  | _, _ => True

/-- Every exchange about to be created can be linked to, and the exchange a
request is about can be answered for. -/
def CanRespond (request : WriteRequest) (store : ExchangeStore) : Prop :=
  match request with
  | .createBatch authorization body =>
      ∀ exchanges, createdByBatch runtime config answers authorization body = .ok exchanges →
        ∀ exchange ∈ exchanges, Linkable runtime exchange
  | .create workflowId authorization body =>
      ∀ exchange, createdByRequest runtime config answers workflowId authorization body =
        .ok exchange → Linkable runtime exchange
  | .participateUnparsed => True
  | .ofExchange exchangeId workflowId endpoint _ =>
      ∀ exchange, getExchangeData (store.record exchangeId) workflowId = .ok exchange →
        CanAnswer runtime config answers endpoint exchange

end

/-! ## Routes that can fail after they have saved -/

def StaysBehind (handler : Handler Response) (exchange : Exchange) : Prop :=
  ∃ record, handler.saved = some record ∧ 400 ≤ statusOf handler.result ∧
    record.exchangeId = exchange.exchangeId ∧ record ≠ exchange

section

variable {runtime : Runtime} {config : Config} {answers : Answers}

section

variable {detail : ExchangeDetailClaim}

private theorem credentialOfferRoute_kept (accepts : answers.accepted 0 = true)
    (text : answers.randomBytes ≠ "")
    (can : currentCode (answers.clock 1) detail = none →
      runtime.parseJson detail.vars.vc ≠ some .null) :
    Kept Succeeded (credentialOfferRoute runtime answers detail) := by
  cases current : currentCode (answers.clock 1) detail with
  | some code => exact Kept.of_silent (credentialOfferRoute_current current)
  | none =>
      have succeeds := (buildCredentialOffer_succeeds text).mpr (can current)
      rw [credentialOfferRoute_accepted accepts current]
      exact kept_of_succeeds succeeds fun _ => rfl

private theorem credentialOfferRoute_left (accepts : answers.accepted 0 = true)
    (text : answers.randomBytes ≠ "")
    (newCode : (oid4vciState detail).preAuthorizedCode ≠ some answers.randomBytes)
    (none : currentCode (answers.clock 1) detail = none)
    (isNull : runtime.parseJson detail.vars.vc = some .null) :
    StaysBehind (credentialOfferRoute runtime answers detail) (.claim detail) := by
  rw [credentialOfferRoute_accepted accepts none]
  refine ⟨_, rfl, ?_, rfl, ?_⟩
  · apply status_of_unsuccessful buildCredentialOffer_failsOnly
    rw [buildCredentialOffer_succeeds text]
    exact fun different => different isNull
  · intro same
    have stores := congrArg (fun claim => (oid4vciState claim).preAuthorizedCode)
      (Exchange.claim.inj same)
    exact newCode stores.symm

section

variable {authorization : Option String} {posted : Json} {proof : KeyProof}

private theorem credentialRoute_refused (refused : admittedKeyProof runtime answers detail
      (presentedToken authorization) posted = none) :
    (credentialRoute runtime config answers authorization (some posted) detail).saved =
      none := by
  have spec := @handleCredentialRequest_spec runtime config answers detail claimWorkflow
    (presentedToken authorization) posted
  rw [refused] at spec
  exact spec.2

theorem credentialRoute_admitted (admitted : admittedKeyProof runtime answers detail
      (presentedToken authorization) posted = some proof) :
    credentialRoute runtime config answers authorization (some posted) detail =
      verifyThenIssue runtime config answers detail claimWorkflow proof := by
  have spec := @handleCredentialRequest_spec runtime config answers detail claimWorkflow
    (presentedToken authorization) posted
  rw [admitted] at spec
  exact spec

private theorem credentialRoute_kept
    (can : ∀ proof, admittedKeyProof runtime answers detail (presentedToken authorization)
        posted = some proof →
      ∀ service sent signed, SignsFor runtime config answers claimWorkflow proof service sent →
        answers.callService service sent = some signed → signed.isTruthy = true) :
    Kept Succeeded
      (credentialRoute runtime config answers authorization (some posted) detail) := by
  cases admitted : admittedKeyProof runtime answers detail (presentedToken authorization)
      posted with
  | none => exact Kept.of_silent (credentialRoute_refused admitted)
  | some proof =>
      rw [credentialRoute_admitted admitted]
      exact verifyThenIssue_kept (admittedKeyProof_checked admitted) (can proof admitted)

private theorem credentialRoute_left {service : String} {sent signed : Json}
    (accepts : answers.accepted 0 = true)
    (admitted : admittedKeyProof runtime answers detail (presentedToken authorization)
      posted = some proof)
    (signs : SignsFor runtime config answers claimWorkflow proof service sent)
    (answered : answers.callService service sent = some signed)
    (falsy : signed.isTruthy = false) :
    StaysBehind (credentialRoute runtime config answers authorization (some posted) detail)
      (.claim detail) := by
  rcases signs with ⟨did, credential, reached, rfl⟩
  rcases admittedKeyProof_some admitted with ⟨ongoing, same, isWorking⟩
  rcases verifyThenIssue_denied detail accepts same reached answered falsy with
    ⟨compatLog, saved, status⟩
  rw [credentialRoute_admitted admitted]
  refine ⟨_, saved, status.ge, ?_, ?_⟩
  · rw [isWorking]
    rfl
  · intro unchanged
    have complete := congrArg Exchange.state unchanged
    exact ongoing complete.symm

end

end

section

variable {detail : ExchangeDetailVerify}

private theorem oid4vpRequestRoute_kept (accepts : answers.accepted 0 = true)
    (can : Text.given (oid4vpState detail).state = none → CanBeRequested runtime detail) :
    Kept Succeeded (oid4vpRequestRoute runtime answers detail) := by
  cases found : Text.given (oid4vpState detail).state with
  | some token => exact Kept.of_silent (oid4vpRequestRoute_given found)
  | none =>
      have able : CanBeRequested runtime (withMintedState answers detail) :=
        canBeRequested_minted.mpr (can found)
      rw [oid4vpRequestRoute_accepted accepts found]
      exact kept_of_succeeds (buildAuthorizationRequest_ok_iff.mpr able) fun _ => rfl

private theorem oid4vpRequestRoute_left (accepts : answers.accepted 0 = true)
    (text : answers.randomBytes ≠ "")
    (none : Text.given (oid4vpState detail).state = none)
    (unable : ¬ CanBeRequested runtime detail) :
    StaysBehind (oid4vpRequestRoute runtime answers detail) (.verify detail) := by
  rw [oid4vpRequestRoute_accepted accepts none]
  refine ⟨_, rfl, ?_, rfl, ?_⟩
  · apply status_of_unsuccessful buildAuthorizationRequest_failsOnly
    intro succeeds
    have able := buildAuthorizationRequest_ok_iff.mp succeeds
    exact unable (canBeRequested_minted.mp able)
  · intro same
    have stores := congrArg (fun verify => Text.given (oid4vpState verify).state)
      (Exchange.verify.inj same)
    rw [withMintedState_given text, none] at stores
    cases stores

end

/-! ## One request about a stored exchange -/

variable {endpoint : Endpoint} {workflowId : String} {stored : Option Exchange}
  {exchange : Exchange}

theorem serve_kept (direct : endpoint.sweeps = false) (accepts : answers.accepted 0 = true)
    (text : answers.randomBytes ≠ "")
    (can : ∀ exchange, getExchangeData stored workflowId = .ok exchange →
      CanAnswer runtime config answers endpoint exchange) :
    Kept Succeeded (serve runtime config answers workflowId endpoint stored) := by
  cases endpoint with
  | participate data =>
      apply Kept.bind_silent rfl
      intro _ _
      apply Kept.bind_silent rfl
      intro exchange _
      exact Kept.map (participateInExchange_kept.mono fun _ _ => rfl)
  | legacyParticipate =>
      apply Kept.bind_silent rfl
      intro exchange _
      exact Kept.map (participateInExchange_kept.mono fun _ _ => rfl)
  | credentialOffer =>
      apply Kept.bind_silent rfl
      intro exchange loads
      apply onClaim_kept
      intro detail same
      subst same
      exact credentialOfferRoute_kept accepts text (can _ loads)
  | token body =>
      apply Kept.bind_silent rfl
      intro exchange _
      exact onClaim_kept fun detail _ => tokenRoute_kept
  | nonce =>
      apply Kept.bind_silent rfl
      intro exchange _
      exact onClaim_kept fun detail _ => nonceRoute_kept
  | credential authorization body =>
      apply Kept.bind_silent rfl
      intro exchange loads
      apply onClaim_kept
      intro detail same
      subst same
      cases body with
      | none => exact Kept.of_silent rfl
      | some posted => exact credentialRoute_kept (can _ loads)
  | authorizationRequest =>
      apply Kept.bind_silent rfl
      intro exchange loads
      apply onVerify_kept
      intro detail same
      subst same
      exact oid4vpRequestRoute_kept accepts (can _ loads)
  | directPost body =>
      apply Kept.bind_silent rfl
      intro exchange _
      exact onVerify_kept fun detail _ => oid4vpResponseRoute_kept
  | _ => cases direct

theorem serve_left (accepts : answers.accepted 0 = true) (text : answers.randomBytes ≠ "")
    (newCode : ∀ detail, exchange = .claim detail →
      (oid4vciState detail).preAuthorizedCode ≠ some answers.randomBytes)
    (loads : getExchangeData stored workflowId = .ok exchange)
    (cannot : ¬ CanAnswer runtime config answers endpoint exchange) :
    StaysBehind (serve runtime config answers workflowId endpoint stored) exchange := by
  unfold CanAnswer at cannot
  split at cannot
  · rename_i detail
    push Not at cannot
    rcases cannot with ⟨none, isNull⟩
    have routed : serve runtime config answers workflowId .credentialOffer stored =
        credentialOfferRoute runtime answers detail := by
      simp only [serve, loads, Action.ofExcept_ok_bind]
      rfl
    rw [routed]
    exact credentialOfferRoute_left accepts text (newCode detail rfl) none isNull
  · rename_i authorization posted detail
    push Not at cannot
    rcases cannot with ⟨proof, admitted, service, sent, signed, signs, answered, falsy⟩
    have routed : serve runtime config answers workflowId
        (.credential authorization (some posted)) stored =
          credentialRoute runtime config answers authorization (some posted) detail := by
      simp only [serve, loads, Action.ofExcept_ok_bind]
      rfl
    rw [routed]
    exact credentialRoute_left accepts admitted signs answered (by simpa using falsy)
  · rename_i detail
    push Not at cannot
    rcases cannot with ⟨none, unable⟩
    have routed : serve runtime config answers workflowId .authorizationRequest stored =
        oid4vpRequestRoute runtime answers detail := by
      simp only [serve, loads, Action.ofExcept_ok_bind]
      rfl
    rw [routed]
    exact oid4vpRequestRoute_left accepts text none unable
  · exact absurd trivial cannot

end

/-! ## The law -/

structure DrawsFresh (answers : Answers) (store : ExchangeStore) : Prop where
  unusedIds : ∀ index, store.record (answers.randomUUID index) = none
  text : answers.randomBytes ≠ ""
  newCode : ∀ exchangeId detail, store.record exchangeId = some (.claim detail) →
    (oid4vciState detail).preAuthorizedCode ≠ some answers.randomBytes

section

variable {store : ExchangeStore}

private theorem unchanged_of_kept {handler : Handler Response} (kept : Kept Succeeded handler)
    (isError : 400 ≤ statusOf handler.result) :
    store.writeAll handler.saved.toList = store := by
  cases saved : handler.saved with
  | none => rfl
  | some record =>
      rcases kept record saved with ⟨response, answered, succeeded⟩
      rw [answered] at isError
      have low : response.status = 200 := succeeded
      have high : 400 ≤ response.status := isError
      omega

private theorem changed_of_left {handler : Handler Response} {record exchange : Exchange}
    (saved : handler.saved = some record) (stored : store.record exchange.exchangeId =
      some exchange)
    (same : record.exchangeId = exchange.exchangeId) (different : record ≠ exchange) :
    store.writeAll handler.saved.toList ≠ store := by
  intro unchanged
  rw [saved] at unchanged
  have written : store.write record = store := unchanged
  have found : (store.write record).record record.exchangeId = some record :=
    ExchangeStore.write_self
  rw [written, same, stored] at found
  exact different (Option.some.inj found).symm

variable {runtime : Runtime} {config : Config} {answers : Answers}

theorem creation_unchanged_iff {exchanges : List Exchange} {α : Type}
    {built : Except Thrown α} {answer : α → Response} {able : Prop}
    (fails : FailsOnly IsAnswered built) (succeeds : Succeeds built ↔ able)
    (nonempty : ¬ able → exchanges ≠ [])
    (unused : ∀ exchange ∈ exchanges, store.record exchange.exchangeId = none)
    (succeeded : ∀ value, Succeeded (answer value)) :
    (400 ≤ statusOf (answer <$> built) → store.writeAll exchanges = store) ↔ able := by
  constructor
  · intro leaves
    by_contra unable
    have unsuccessful : ¬ Succeeds built := fun success => unable (succeeds.mp success)
    have unchanged := leaves (status_of_unsuccessful fails unsuccessful)
    cases exchanges with
    | nil => exact nonempty unable rfl
    | cons first rest =>
        exact ExchangeStore.writeAll_ne (unused first List.mem_cons_self) unchanged
  · intro isAble isError
    rcases succeeds.mpr isAble with ⟨value, rfl⟩
    have low : (answer value).status = 200 := succeeded value
    have high : 400 ≤ (answer value).status := isError
    omega

theorem batch_leaves_store_iff {authorization : Option String} {body : Option Json}
    (accepts : ∀ index, answers.accepted index = true) (draws : DrawsFresh answers store) :
    LeavesStore runtime config answers (.createBatch authorization body) store ↔
      CanRespond runtime config answers (.createBatch authorization body) store := by
  unfold LeavesStore CanRespond respond
  dsimp only
  cases created : createdByBatch runtime config answers authorization body with
  | error thrown =>
      rw [exchangeBatchCreateRoute_refused created]
      exact ⟨fun _ _ impossible => (nomatch impossible), fun _ _ => rfl⟩
  | ok exchanges =>
      have unused : ∀ exchange ∈ exchanges, store.record exchange.exchangeId = none := by
        intro exchange member
        rcases bind_eq_ok.mp created with ⟨data, -, made⟩
        rcases batchExchanges_drawn made exchange member with ⟨draw, drawn⟩
        rw [drawn]
        exact draws.unusedIds draw
      have law : (400 ≤ statusOf ((fun queries => json (.arr queries)) <$>
          walletQueries runtime exchanges) → store.writeAll exchanges = store) ↔
          ∀ exchange ∈ exchanges, Linkable runtime exchange := by
        apply creation_unchanged_iff
        · exact fun thrown failed => .inr (walletQueries_failsOnly thrown failed)
        · exact walletQueries_succeeds
        · intro unable empty
          subst empty
          exact unable (by simp)
        · exact unused
        · exact fun _ => rfl
      rw [exchangeBatchCreateRoute_created accepts created, law]
      simp

theorem create_leaves_store_iff {workflowId : String} {authorization : Option String}
    {body : Option Json} (accepts : ∀ index, answers.accepted index = true)
    (draws : DrawsFresh answers store) :
    LeavesStore runtime config answers (.create workflowId authorization body) store ↔
      CanRespond runtime config answers (.create workflowId authorization body) store := by
  unfold LeavesStore CanRespond respond
  dsimp only [Outcome.ofHandler]
  cases created : createdByRequest runtime config answers workflowId authorization body with
  | error thrown =>
      rw [exchangeCreateRoute_refused created]
      exact ⟨fun _ _ impossible => (nomatch impossible), fun _ _ => rfl⟩
  | ok exchange =>
      have unused : store.record exchange.exchangeId = none := by
        rcases bind_eq_ok.mp created with ⟨data, -, made⟩
        rw [newExchange_drawn made]
        exact draws.unusedIds 0
      have law : (400 ≤ statusOf ((fun protocols => json protocols.toJson) <$>
          getProtocols runtime exchange) → store.writeAll [exchange] = store) ↔
          Linkable runtime exchange := by
        apply creation_unchanged_iff
        · exact fun thrown failed => .inr (getProtocols_failsOnly exchange thrown failed)
        · exact getProtocols_succeeds
        · exact fun _ => List.cons_ne_nil exchange []
        · simpa using unused
        · exact fun _ => rfl
      rw [exchangeCreateRoute_created (accepts 0) created]
      dsimp only [Option.toList]
      rw [law]
      simp

theorem serve_leaves_store_iff {exchangeId workflowId : String} {endpoint : Endpoint}
    {direct : endpoint.sweeps = false} (accepts : ∀ index, answers.accepted index = true)
    (draws : DrawsFresh answers store) :
    LeavesStore runtime config answers (.ofExchange exchangeId workflowId endpoint direct)
        store ↔
      CanRespond runtime config answers (.ofExchange exchangeId workflowId endpoint direct)
        store := by
  constructor
  · intro leaves exchange loads
    by_contra cannot
    have stored : store.record exchangeId = some exchange := getExchangeData_ok loads
    have isFiled : exchange.exchangeId = exchangeId := store.filed stored
    have newCode : ∀ detail, exchange = .claim detail →
        (oid4vciState detail).preAuthorizedCode ≠ some answers.randomBytes := by
      intro detail same
      rw [same] at stored
      exact draws.newCode exchangeId detail stored
    rcases serve_left (accepts 0) draws.text newCode loads cannot with
      ⟨record, saved, isError, same, different⟩
    rw [← isFiled] at stored
    exact changed_of_left saved stored same different (leaves isError)
  · intro can
    exact unchanged_of_kept (serve_kept direct (accepts 0) draws.text can)

/-- An error leaves the store as it was exactly when nothing is missing for the
response once the exchange has been saved. -/
theorem failures_leave_store_iff (request : WriteRequest)
    (accepts : ∀ index, answers.accepted index = true) (draws : DrawsFresh answers store) :
    LeavesStore runtime config answers request store ↔
      CanRespond runtime config answers request store := by
  cases request with
  | createBatch authorization body => exact batch_leaves_store_iff accepts draws
  | create workflowId authorization body => exact create_leaves_store_iff accepts draws
  | participateUnparsed => exact ⟨fun _ => trivial, fun _ _ => rfl⟩
  | ofExchange exchangeId workflowId endpoint direct =>
      exact serve_leaves_store_iff accepts draws

end

/-! ## An exchange host without a scheme -/

def emptyStore : ExchangeStore where
  record _ := none
  filed := by
    intro _ _ found
    cases found

private theorem emptyStore_fresh : DrawsFresh Answers.plain emptyStore where
  unusedIds _ := rfl
  text := by decide
  newCode := by
    intro _ _ found
    cases found

def createDidAuth (exchangeHost : String) : WriteRequest :=
  .create "didAuth" none (some (.obj [
    ("variables", .obj [("exchangeHost", .str exchangeHost)])]))

theorem hosted_leaves_store :
    LeavesStore Runtime.plain {} Answers.plain (createDidAuth "http://localhost:4004")
      emptyStore := by
  apply (failures_leave_store_iff _ (fun _ => rfl) emptyStore_fresh).mpr
  intro exchange created
  cases created
  constructor
  · intro _
    decide
  · intro text _
    rfl

/-- The exchange is saved, and its URL turns out not to be one. -/
theorem schemeless_host_stays :
    ¬ LeavesStore Runtime.plain {} Answers.plain (createDidAuth "issuer.example.com")
      emptyStore := by
  intro leaves
  have isError : 400 ≤ statusOf (respond Runtime.plain {} Answers.plain
      (createDidAuth "issuer.example.com") emptyStore).result := by decide
  have unchanged := congrArg (fun store => (store.record "uuid").isSome) (leaves isError)
  cases unchanged

end TransactionService.FailureAtomicity
