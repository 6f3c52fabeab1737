import TransactionService.Foundation.Interleaving
import TransactionService.Routes.Changes

namespace TransactionService.SingleUse

open Interleaving

/-! # Single-use secrets under interleaving

Every request reads the record, works on its snapshot, and writes the whole
record back; other requests run in between. -/

/-! ## Requests on one record -/

structure StoreRequest where
  workflowId : String
  endpoint : Endpoint
  answers : Answers

def UsesSecrets (request : StoreRequest) : Prop :=
  match request.endpoint with
  | .token _ => True
  | .nonce => True
  | .credential _ _ => True
  | .participate _ => True
  | .directPost _ => True
  | _ => False

section

variable (runtime : Runtime) (config : Config)

/-- What a request does when it has read `snapshot`. -/
def served (request : StoreRequest) (snapshot : Exchange) : Handler Response :=
  serve runtime config request.answers request.workflowId request.endpoint (some snapshot)

def written (request : StoreRequest) (snapshot : Exchange) : Option Exchange :=
  (served runtime config request snapshot).saved

def succeeds : Except Thrown Response → Bool
  | .ok response => decide (response.status = 200)
  | .error _ => false

/-- A presentation or an OID4VCI response with a credential in it. -/
def holdsCredential (value : Json) : Bool :=
  (value.field "verifiableCredential").isSome || (value.field "credentials").isSome

def carriesCredential : Except Thrown Response → Bool
  | .ok ⟨_, .json value⟩ => holdsCredential value
  | _ => false

def presentedCode (body : Json) : Option String :=
  (parseTokenRequest body).bind (·.preAuthorizedCode)

def presentedState (body : Option Json) : Option String :=
  (body.bind fun posted => parseDirectPost (coerceBody runtime posted)).bind (·.state)

def redeems (code : String) (request : StoreRequest) (snapshot : Exchange) : Bool :=
  match request.endpoint with
  | .token body => decide (presentedCode body = some code) &&
      succeeds (served runtime config request snapshot).result
  | _ => false

def returnsCredential (request : StoreRequest) (snapshot : Exchange) : Bool :=
  match request.endpoint with
  | .participate _ => carriesCredential (served runtime config request snapshot).result
  | .credential _ _ => carriesCredential (served runtime config request snapshot).result
  | _ => false

def answersState (state : String) (request : StoreRequest) (snapshot : Exchange) : Bool :=
  match request.endpoint with
  | .directPost body => decide (presentedState runtime body = some state) &&
      succeeds (served runtime config request snapshot).result
  | _ => false

end

/-! ## Marks -/

def CodeUsed (code : String) (record : Exchange) : Prop :=
  ∃ detail, record = .claim detail ∧
    (oid4vciState detail).preAuthorizedCode = some code ∧
    isUsed (oid4vciState detail).codeUsed = true

def Completed (record : Exchange) : Prop :=
  record.state = .complete

def StateAnswered (state : String) (record : Exchange) : Prop :=
  ∃ detail, record = .verify detail ∧ (oid4vpState detail).state = some state ∧
    (oid4vpState detail).responseReceived.getD false = true

section

variable {runtime : Runtime} {config : Config} {answers : Answers} {endpoint : Endpoint}
  {before after : Exchange} {code state : String}

/-- A used code is redeemed never again, so only the offer of a new code could
take the mark away. -/
private theorem codeUsed_kept (change : Change runtime config answers endpoint before after)
    (noOffer : endpoint ≠ .credentialOffer) (used : CodeUsed code before) :
    CodeUsed code after := by
  rcases used with ⟨detail, rfl, isCode, isMarked⟩
  cases change with
  | activated pending => exact ⟨_, rfl, isCode, isMarked⟩
  | claimed signedCredential compatLog ongoing => exact ⟨_, rfl, isCode, isMarked⟩
  | swept planned => cases planned
  | offered => exact absurd rfl noOffer
  | redeemed handled =>
      rcases handleTokenRequest_ok answers handled with ⟨presented, redeemed, -, accepted, -⟩
      have unused := (redeemPreAuthorizedCode_ok accepted).2.1
      rw [isMarked] at unused
      cases unused
  | minted => exact ⟨_, rfl, isCode, isMarked⟩
  | issued signedCredential compatLog ongoing => exact ⟨_, rfl, isCode, isMarked⟩

private theorem stateAnswered_kept (change : Change runtime config answers endpoint before after)
    (noRequest : endpoint ≠ .authorizationRequest) (isAnswered : StateAnswered state before) :
    StateAnswered state after := by
  rcases isAnswered with ⟨detail, rfl, isState, isMarked⟩
  cases change with
  | activated pending => exact ⟨_, rfl, isState, isMarked⟩
  | submitted ongoing nonempty stores =>
      rcases stores.overwrites with ⟨_, _, _, rfl⟩
      exact ⟨_, rfl, isState, isMarked⟩
  | swept planned =>
      rcases planSweep_eq_some config answers planned with
        ⟨exchange, task, same, -, -, -, -, ⟨-, rfl⟩ | ⟨-, rfl⟩⟩ <;>
        cases same <;> exact ⟨_, rfl, isState, isMarked⟩
  | requested => exact absurd rfl noRequest
  | answered ongoing accepted stores =>
      rcases acceptDirectPost_ok runtime accepted with ⟨_, _, -, -, consumed, -, -⟩
      rcases consumeOid4vpResponse_ok consumed with ⟨_, -, -, unanswered, -⟩
      rw [isMarked] at unanswered
      cases unanswered

/-! ## Successes

A success spends its secret: it was unspent in the snapshot and is spent in the
record written. -/

theorem tokenRoute_succeeds {body : Json} {detail : ExchangeDetailClaim}
    {response : Response} (answered : (tokenRoute answers body detail).result = .ok response)
    (success : response.status = 200) :
    ∃ updated token, handleTokenRequest answers body detail = .ok (updated, token) ∧
      response = json token ∧
      (tokenRoute answers body detail).saved = some (.claim updated) := by
  unfold tokenRoute at answered ⊢
  split at answered
  · rename_i refused handled
    cases answered
    rw [handleTokenRequest_error answers handled] at success
    cases success
  · rename_i updated token handled
    rcases Action.result_bind answered with ⟨_, saves, responds⟩
    refine ⟨updated, token, handled, (Except.ok.inj responds).symm, ?_⟩
    rw [Action.bind_ok saves]
    simp [saveExchange_ok saves]

theorem redeems_spends {request : StoreRequest} {snapshot : Exchange}
    (wins : redeems runtime config code request snapshot = true) :
    ¬ CodeUsed code snapshot ∧
      ∃ next, written runtime config request snapshot = some next ∧ CodeUsed code next := by
  rcases request with ⟨workflowId, endpoint, answers⟩
  cases endpoint with
  | token body =>
    simp only [redeems, Bool.and_eq_true, decide_eq_true_eq] at wins
    rcases wins with ⟨presents, success⟩
    cases answered : (served runtime config ⟨workflowId, .token body, answers⟩
        snapshot).result with
    | error thrown => simp [answered, succeeds] at success
    | ok response =>
        rcases onClaim_answers answered with ⟨detail, rfl, routed, sameSave⟩
        rcases tokenRoute_succeeds routed (by simpa [answered, succeeds] using success) with
          ⟨updated, token, handled, -, saved⟩
        rcases handleTokenRequest_ok answers handled with
          ⟨presented, redeemed, isPresented, accepted, rfl⟩
        have isCode : presented = code :=
          Option.some.inj (isPresented.symm.trans presents)
        subst isCode
        rcases redeemPreAuthorizedCode_ok accepted with ⟨stored, unused, rfl⟩
        constructor
        · rintro ⟨other, same, -, used⟩
          cases same
          rw [unused] at used
          cases used
        · exact ⟨_, sameSave.trans saved, _, rfl, stored, rfl⟩
  | _ => cases wins

/-! ### Credentials -/

private theorem participateInClaimExchange_returns {data value : Json}
    {detail : ExchangeDetailClaim} {workflow : Workflow}
    (returns : (participateInClaimExchange runtime config answers data detail
      workflow).result = .ok value)
    (holds : holdsCredential value = true) :
    ∃ next, (participateInClaimExchange runtime config answers data detail
      workflow).saved = some next ∧ Completed next := by
  have finishes : ∀ holderDid compatLog,
      (participateInClaimExchange.finish runtime config answers data detail workflow
        holderDid compatLog).result = .ok value →
      ∃ next, (participateInClaimExchange.finish runtime config answers data detail
        workflow holderDid compatLog).saved = some next ∧ Completed next := by
    intro holderDid compatLog finished
    unfold participateInClaimExchange.finish at finished ⊢
    rcases Action.result_bind finished with ⟨signed, signs, responds⟩
    rw [Action.bind_ok signs]
    cases signed with
    | none =>
        cases responds
        cases holds
    | some credential =>
        rw [signClaimCredentialFromHolderDid_ok runtime config answers signs]
        refine ⟨.claim (claimCompleted detail credential compatLog), ?_, rfl⟩
        dsimp only
        split <;> rfl
  unfold participateInClaimExchange at returns ⊢
  rcases Action.result_bind returns with ⟨didAuthResult, verified, later⟩
  rw [Action.bind_ok verified]
  cases didAuthResult with
  | rejected problemDetails compatLog => cases later
  | verified holderDid compatLog =>
      dsimp only at later ⊢
      rw [verifyDIDAuth_saved, Option.or_none]
      split at later
      · split at later
        · cases later
        · rename_i agree
          rw [if_neg agree]
          exact finishes _ _ later
      · exact finishes _ _ later

private theorem participateInDidAuthExchange_holds {data value : Json}
    {detail : ExchangeDetailDidAuth}
    (returns : (participateInDidAuthExchange runtime config answers data detail).result =
      .ok value) : holdsCredential value = false := by
  rw [participateInDidAuthExchange_response runtime config answers returns]
  rfl

private theorem buildVerificationResponse_holds (exchange : ExchangeDetailVerify) :
    holdsCredential (buildVerificationResponse exchange) = false := by
  unfold buildVerificationResponse
  split <;> rfl

private theorem participateInVerifyExchange_holds {data value : Json}
    {detail : ExchangeDetailVerify}
    (returns : (participateInVerifyExchange runtime config answers data detail).result =
      .ok value) : holdsCredential value = false := by
  rw [participateInVerifyExchange_response runtime config answers returns]
  exact buildVerificationResponse_holds detail

private theorem participateWithEmptyBody_holds {value : Json} {exchange : Exchange}
    (returns : (participateWithEmptyBody answers exchange).result = .ok value) :
    holdsCredential value = false := by
  unfold participateWithEmptyBody at returns
  dsimp only at returns
  split at returns
  · rcases Action.result_bind returns with ⟨_, -, responds⟩
    cases responds
    rfl
  · cases returns
    rfl

private theorem participateInExchange_returns {data value : Json} {exchange : Exchange}
    (returns : (participateInExchange runtime config answers data exchange).result =
      .ok value)
    (holds : holdsCredential value = true) :
    ¬ Completed exchange ∧
      ∃ next, (participateInExchange runtime config answers data exchange).saved =
        some next ∧ Completed next := by
  have nothing : ∀ {P : Prop}, holdsCredential value = false → P := by
    intro P none
    rw [holds] at none
    cases none
  unfold participateInExchange at returns ⊢
  split at returns
  · cases returns
  · rename_i ongoing
    refine ⟨ongoing, ?_⟩
    rw [if_neg ongoing]
    split at returns
    · exact nothing (participateWithEmptyBody_holds returns)
    · rename_i nonempty
      rw [if_neg nonempty]
      cases exchange with
      | didAuth detail => exact nothing (participateInDidAuthExchange_holds returns)
      | claim detail => exact participateInClaimExchange_returns returns holds
      | verify detail => exact nothing (participateInVerifyExchange_holds returns)

theorem carries_bind {α : Type} {action : Handler α} {next : α → Handler Response}
    (carries : carriesCredential (action >>= next).result = true) :
    ∃ middle, action.result = .ok middle ∧
      carriesCredential (next middle).result = true := by
  cases answer : action.result with
  | error thrown =>
      rw [Action.bind_error answer] at carries
      cases carries
  | ok middle =>
      rw [Action.bind_ok answer] at carries
      exact ⟨middle, rfl, carries⟩

private theorem issueToHolder_returns {vp : Json} {working : ExchangeDetailClaim}
    {workflow : Workflow} {didAuthResult : DidAuthVerificationResult}
    (carries : carriesCredential (issueToHolder runtime config answers vp working workflow
      didAuthResult).result = true) :
    ∃ next, (issueToHolder runtime config answers vp working workflow
      didAuthResult).saved = some next ∧ Completed next := by
  unfold issueToHolder at carries ⊢
  split at carries
  · cases carries
  · cases carries
  · rename_i holderDid compatLog
    split at carries
    · cases carries
    · rename_i agree
      rw [if_neg agree]
      rcases carries_bind carries with ⟨signed, signs, responds⟩
      rw [Action.bind_ok signs]
      cases signed with
      | none => cases responds
      | some credential =>
          rw [signClaimCredentialFromHolderDid_ok runtime config answers signs]
          refine ⟨.claim (claimCompleted working credential compatLog), ?_, rfl⟩
          dsimp only
          split <;> rfl

private theorem handleKeyProof_returns {request : CredentialRequest}
    {detail : ExchangeDetailClaim} {workflow : Workflow}
    (carries : carriesCredential (handleKeyProof runtime config answers request detail
      workflow).result = true) :
    ∃ next, (handleKeyProof runtime config answers request detail workflow).saved =
      some next ∧ Completed next := by
  unfold handleKeyProof at carries ⊢
  rcases carries_bind carries with ⟨expectedConfigId, isConfigId, afterConfig⟩
  rw [Action.bind_ok isConfigId]
  dsimp only at afterConfig ⊢
  split at afterConfig
  · cases afterConfig
  · rename_i offered
    rw [if_neg offered]
    rcases carries_bind afterConfig with ⟨presented, isPresented, afterChallenge⟩
    rw [Action.bind_ok isPresented]
    cases isGiven : Text.given presented with
    | none =>
        simp only [isGiven] at afterChallenge
        cases afterChallenge
    | some challenge =>
        simp only [isGiven] at afterChallenge ⊢
        cases consumed : validateAndConsumeNonce (answers.clock 1) detail challenge with
        | error failure =>
            simp only [consumed] at afterChallenge
            cases afterChallenge
        | ok working =>
            simp only [consumed] at afterChallenge ⊢
            rcases carries_bind afterChallenge with ⟨didAuthResult, verified, issues⟩
            rcases issueToHolder_returns issues with ⟨next, saved, completed⟩
            rw [Action.bind_ok verified, saved]
            exact ⟨next, rfl, completed⟩

private theorem credentialRoute_returns {authorization : Option String} {body : Option Json}
    {detail : ExchangeDetailClaim}
    (carries : carriesCredential (credentialRoute runtime config answers authorization body
      detail).result = true) :
    ∃ next, (credentialRoute runtime config answers authorization body detail).saved =
      some next ∧ Completed next := by
  unfold credentialRoute handleCredentialRequest at carries ⊢
  dsimp only at carries ⊢
  split at carries
  · cases carries
  · split at carries
    · cases carries
    · rename_i accessToken isGiven
      split at carries
      · cases carries
      · split at carries
        · cases carries
        · rename_i ongoing
          rw [if_neg ongoing]
          split at carries
          · cases carries
          · exact handleKeyProof_returns carries

theorem returnsCredential_spends {request : StoreRequest} {snapshot : Exchange}
    (wins : returnsCredential runtime config request snapshot = true) :
    ¬ Completed snapshot ∧
      ∃ next, written runtime config request snapshot = some next ∧ Completed next := by
  rcases request with ⟨workflowId, endpoint, answers⟩
  cases endpoint with
  | participate data =>
      rcases carries_bind wins with ⟨_, knownWorkflow, afterWorkflow⟩
      rcases carries_bind afterWorkflow with ⟨exchange, loads, participates⟩
      have found : some snapshot = some exchange := getExchangeData_ok loads
      cases found
      cases answer : (participateInExchange runtime config answers data snapshot).result with
      | error thrown =>
          rw [show (json <$> participateInExchange runtime config answers data snapshot) =
            _ from Action.bind_error answer _] at participates
          cases participates
      | ok value =>
          rw [show (json <$> participateInExchange runtime config answers data snapshot) =
            _ from Action.bind_ok answer _] at participates
          rcases participateInExchange_returns answer participates with
            ⟨ongoing, next, saved, completed⟩
          refine ⟨ongoing, next, ?_, completed⟩
          simp only [written, served, serve]
          rw [Action.bind_ok knownWorkflow, Action.bind_ok loads, Action.saved_map, saved]
          rfl
  | credential authorization body =>
      rcases carries_bind wins with ⟨exchange, loads, issues⟩
      have found : some snapshot = some exchange := getExchangeData_ok loads
      cases found
      cases snapshot with
      | claim detail =>
          rcases credentialRoute_returns issues with ⟨next, saved, completed⟩
          refine ⟨(credentialRoute_saved runtime config answers saved).1, next, ?_, completed⟩
          simp only [written, served, serve]
          rw [Action.bind_ok loads]
          simp only [onClaim, saved]
          rfl
      | didAuth detail => cases issues
      | verify detail => cases issues
  | _ => cases wins

/-! ### OID4VP states -/

private theorem oid4vpResponseRoute_succeeds {body : Option Json} {detail : ExchangeDetailVerify}
    {response : Response}
    (answered : (oid4vpResponseRoute runtime config answers body detail).result =
      .ok response) (success : response.status = 200) :
    ∃ presentation working stored,
      acceptDirectPost runtime body detail = .ok (presentation, working) ∧
      (oid4vpResponseRoute runtime config answers body detail).saved =
        some (.verify stored) ∧
      oid4vpState stored = oid4vpState working := by
  unfold oid4vpResponseRoute at answered ⊢
  split at answered
  · cases answered
    cases success
  · rename_i ongoing
    rw [if_neg ongoing]
    rcases handleOid4vpResponse_succeeds runtime config answers answered success with
      ⟨presentation, working, value, accepted, participated⟩
    rcases participateInVerifyExchange_ok runtime config answers participated with
      ⟨stored, saved⟩
    refine ⟨presentation, working, stored, accepted, ?_, ?_⟩
    · simp only [handleOid4vpResponse, accepted, Action.recover_saved]
      rw [Action.bind_ok participated, saved]
      rfl
    · have stores := participateInVerifyExchange_saved runtime config answers saved
      rcases stores.overwrites with ⟨_, _, _, same⟩
      cases same
      rfl

theorem directPost_succeeds {workflowId : String} {body : Option Json}
    {snapshot : Exchange}
    (success : succeeds (served runtime config ⟨workflowId, .directPost body, answers⟩
      snapshot).result = true) :
    ∃ detail token stored, snapshot = .verify detail ∧
      presentedState runtime body = some token ∧
      (oid4vpState detail).state = some token ∧
      (oid4vpState detail).responseReceived.getD false = false ∧
      written runtime config ⟨workflowId, .directPost body, answers⟩ (.verify detail) =
        some (.verify stored) ∧
      oid4vpState stored = { oid4vpState detail with responseReceived := some true } := by
  cases answered : (served runtime config ⟨workflowId, .directPost body, answers⟩
      snapshot).result with
  | error thrown => simp [answered, succeeds] at success
  | ok response =>
      rcases onVerify_answers answered with ⟨detail, rfl, routed, sameSave⟩
      rcases oid4vpResponseRoute_succeeds routed
        (by simpa [answered, succeeds] using success) with
        ⟨presentation, working, stored, accepted, saved, kept⟩
      rcases acceptDirectPost_ok runtime accepted with
        ⟨posted, parsed, rfl, schema, consumed, -, -⟩
      rcases consumeOid4vpResponse_ok consumed with
        ⟨token, isPresented, issued, unanswered, rfl⟩
      refine ⟨detail, token, stored, rfl, ?_, issued, unanswered, sameSave.trans saved, kept⟩
      simp [presentedState, schema, isPresented]

theorem answersState_spends {request : StoreRequest} {snapshot : Exchange}
    (wins : answersState runtime config state request snapshot = true) :
    ¬ StateAnswered state snapshot ∧
      ∃ next, written runtime config request snapshot = some next ∧
        StateAnswered state next := by
  rcases request with ⟨workflowId, endpoint, answers⟩
  cases endpoint with
  | directPost body =>
      simp only [answersState, Bool.and_eq_true, decide_eq_true_eq] at wins
      rcases wins with ⟨presents, success⟩
      rcases directPost_succeeds success with
        ⟨detail, token, stored, rfl, isPresented, issued, unanswered, saved, marked⟩
      have isState : token = state := Option.some.inj (isPresented.symm.trans presents)
      subst isState
      constructor
      · rintro ⟨other, same, -, already⟩
        cases same
        rw [unanswered] at already
        cases already
      · refine ⟨.verify stored, saved, stored, rfl, ?_, ?_⟩
        · rw [marked]
          exact issued
        · rw [marked]
          rfl
  | _ => cases wins

/-! ## At most one success -/

theorem written_change {request : StoreRequest} {snapshot next : Exchange}
    (saved : written runtime config request snapshot = some next) :
    Change runtime config request.answers request.endpoint snapshot next := by
  rcases serve_saved saved with ⟨exchange, found, change⟩
  cases found
  exact change

theorem UsesSecrets.noOffer {request : StoreRequest} (uses : UsesSecrets request) :
    request.endpoint ≠ .credentialOffer := by
  intro offers
  simp [UsesSecrets, offers] at uses

theorem UsesSecrets.noRequest {request : StoreRequest} (uses : UsesSecrets request) :
    request.endpoint ≠ .authorizationRequest := by
  intro requests
  simp [UsesSecrets, requests] at uses

end

section

variable (runtime : Runtime) (config : Config)

def codeShot (code : String) :
    OneShot (written runtime config) UsesSecrets (redeems runtime config code) where
  Marked := CodeUsed code
  win_unmarked _ _ wins := (redeems_spends wins).1
  win_marks _ _ wins := (redeems_spends wins).2
  keeps _ _ _ uses used saved := codeUsed_kept (written_change saved) uses.noOffer used

def credentialShot :
    OneShot (written runtime config) UsesSecrets (returnsCredential runtime config) where
  Marked := Completed
  win_unmarked _ _ wins := (returnsCredential_spends wins).1
  win_marks _ _ wins := (returnsCredential_spends wins).2
  keeps _ _ _ _ completed saved := ((written_change saved).complete_kept completed).1

def stateShot (state : String) :
    OneShot (written runtime config) UsesSecrets (answersState runtime config state) where
  Marked := StateAnswered state
  win_unmarked _ _ wins := (answersState_spends wins).1
  win_marks _ _ wins := (answersState_spends wins).2
  keeps _ _ _ uses answered saved :=
    stateAnswered_kept (written_change saved) uses.noRequest answered

structure SecretsUsedOnce (system : System Exchange StoreRequest) : Prop where
  codes : ∀ code, winCount (redeems runtime config code) system ≤ 1
  credential : winCount (returnsCredential runtime config) system ≤ 1
  states : ∀ state, winCount (answersState runtime config state) system ≤ 1

/-- Nothing has been spent between the read and the write of a request that
writes. -/
structure SpentSeen (system : System Exchange StoreRequest)
    (label : Label StoreRequest) : Prop where
  codes : ∀ code, SeenBefore (written runtime config) (CodeUsed code) system label
  credential : SeenBefore (written runtime config) Completed system label
  states : ∀ state, SeenBefore (written runtime config) (StateAnswered state) system label

variable {runtime config} in
theorem spentSeen_of_current {system : System Exchange StoreRequest} {thread : Nat}
    (current : ∀ request snapshot, system.inFlight thread = some (request, snapshot) →
      system.record = snapshot) : SpentSeen runtime config system (.write thread) where
  codes _ := seenBefore_of_current current
  credential := seenBefore_of_current current
  states _ := seenBefore_of_current current

def requestStep : System Exchange StoreRequest → Label StoreRequest →
    Option (System Exchange StoreRequest) :=
  Interleaving.step (written runtime config)

variable {runtime config}

/-- Interleaved requests use every secret once, as long as no request writes over
a use that it has not seen. -/
theorem secrets_used_once {initial : Exchange} {labels : List (Label StoreRequest)}
    {final : System Exchange StoreRequest}
    (requests : Machine.Along (requestStep runtime config) (Requests UsesSecrets)
      (start initial) labels)
    (seen : Machine.Along (requestStep runtime config) (SpentSeen runtime config)
      (start initial) labels)
    (runs : Machine.run (requestStep runtime config) (start initial) labels = some final) :
    SecretsUsedOnce runtime config final where
  codes code := (codeShot runtime config code).at_most_one requests
    (seen.mono fun _ _ all => all.codes code) runs
  credential := (credentialShot runtime config).at_most_one requests
    (seen.mono fun _ _ all => all.credential) runs
  states state := (stateShot runtime config state).at_most_one requests
    (seen.mono fun _ _ all => all.states state) runs

end

/-! ## Two token requests for one code -/

def offeredExchange : Exchange := .claim {
  tenantName := "default"
  exchangeId := "exchange-1"
  expires := 600000
  state := .active
  vars := {
    exchangeHost := "http://localhost:4004"
    challenge := "challenge-1"
    vc := "the credential"
    oid4vci := some {
      preAuthorizedCode := some "code-1"
      preAuthorizedCodeExpiresAt := some 600000
      codeUsed := some false } } }

def tokenRequest : StoreRequest where
  workflowId := "claim"
  endpoint := .token (.obj [
    ("grant_type", .str "urn:ietf:params:oauth:grant-type:pre-authorized_code"),
    ("pre-authorized_code", .str "code-1")])
  answers := {
    clock := fun _ => 0
    randomUUID := fun _ => "minted"
    randomBytes := "token-1"
    verifyPresentation := fun _ => .error "not asked"
    verifyCredential := fun _ _ => .error "not asked"
    callService := fun _ _ => none
    accepted := fun _ => true }

/-- The second request reads what the first has written, and is refused. -/
theorem secrets_used_once_in_turn :
    ∃ final, Machine.run (requestStep Runtime.plain {}) (start offeredExchange)
        [.read 0 tokenRequest, .write 0, .read 1 tokenRequest, .write 1] = some final ∧
      SecretsUsedOnce Runtime.plain {} final := by
  have ran : ∃ final, Machine.run (requestStep Runtime.plain {}) (start offeredExchange)
      [.read 0 tokenRequest, .write 0, .read 1 tokenRequest, .write 1] = some final :=
    ⟨_, rfl⟩
  rcases ran with ⟨final, runs⟩
  refine ⟨final, runs, secrets_used_once ?_ ?_ runs⟩
  · exact ⟨trivial, fun _ _ => ⟨trivial, fun _ _ => ⟨trivial, fun _ _ =>
      ⟨trivial, fun _ _ => trivial⟩⟩⟩⟩
  · have reads : ∀ system thread, SpentSeen Runtime.plain {} system
        (.read thread tokenRequest) :=
      fun _ _ => ⟨fun _ => trivial, trivial, fun _ => trivial⟩
    refine ⟨reads _ _, fun _ first => ?_⟩
    cases first
    refine ⟨spentSeen_of_current (fun _ _ reading => ?_), fun _ second => ?_⟩
    · cases reading
      rfl
    · cases second
      refine ⟨reads _ _, fun _ third => ?_⟩
      cases third
      refine ⟨spentSeen_of_current (fun _ _ reading => ?_), fun _ _ => trivial⟩
      cases reading
      rfl

/-- Both requests read the code before either marks it as used. -/
theorem code_redeemed_twice :
    ∃ final, Machine.run (requestStep Runtime.plain {}) (start offeredExchange)
        [.read 0 tokenRequest, .read 1 tokenRequest, .write 0, .write 1] = some final ∧
      winCount (redeems Runtime.plain {} "code-1") final = 2 :=
  ⟨_, rfl, by decide⟩

end TransactionService.SingleUse
