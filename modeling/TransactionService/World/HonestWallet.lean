import TransactionService.Oid4vci.Provenance
import TransactionService.World.Steps

namespace TransactionService.HonestWallet

open World

/-! # A wallet that follows the protocol

The requests of an OID4VCI wallet for one claim exchange, each made from the answers
to those before it, among whatever else the service is asked to do. -/

/-- The members of the presentation that the wallet signs for a nonce. -/
structure Wallet where
  present : String → List (String × Json)

/-- The wallet has made its first, second, third or last request; a request that
fails ends the protocol. -/
inductive Stage
  | started
  | offered (offer : Json)
  | authorized (offer token : Json)
  | challenged (offer token nonce : Json)
  | credentialed (response : Json)
  | refused

/-! ## The wallet's requests -/

def offeredCode (offer : Json) : Option Json :=
  ((offer.field "grants").bind (·.field preAuthorizedGrant)).bind
    (·.field "pre-authorized_code")

def offeredConfigurationId (offer : Json) : Option Json :=
  (offer.field "credential_configuration_ids").bind fun ids => ids.arrayOf.head?

def textField (response : Json) (name : String) : String :=
  ((response.field name).bind Json.asString?).getD ""

def tokenBody (offer : Json) : Json :=
  .obj (definedMembers [
    ("grant_type", some (.str preAuthorizedGrant)),
    ("pre-authorized_code", offeredCode offer)])

def credentialBody (wallet : Wallet) (offer nonce : Json) : Json :=
  .obj (definedMembers [
    ("credential_configuration_id", offeredConfigurationId offer),
    ("proofs", some (.obj [
      ("di_vp", .arr [.obj (wallet.present (textField nonce "c_nonce"))])]))])

def nextRequest (wallet : Wallet) : Stage → Option Endpoint
  | .started => some .credentialOffer
  | .offered offer => some (.token (tokenBody offer))
  | .authorized _ _ => some .nonce
  | .challenged offer token nonce =>
      some (.credential (some ("Bearer " ++ textField token "access_token"))
        (some (credentialBody wallet offer nonce)))
  | .credentialed _ => none
  | .refused => none

def Stage.next (stage : Stage) (response : Json) : Stage :=
  match stage with
  | .started => .offered response
  | .offered offer => .authorized offer response
  | .authorized offer token => .challenged offer token response
  | .challenged _ _ _ => .credentialed response
  | _ => .refused

def Stage.answered (stage : Stage) (result : Except Thrown Response) : Stage :=
  match result with
  | .ok { status := 200, body := .json response } => stage.next response
  | _ => .refused

/-! ## The wallet and the service -/

structure Session where
  world : World
  stage : Stage

inductive Label
  | wallet (answers : Answers)
  | elsewhere (event : Event)

section

variable (runtime : Runtime) (config : Config) (wallet : Wallet) (exchangeId : String)

/-- The exchange is not evicted, and written by no request but the wallet's. -/
def isElsewhere (world : World) : Event → Bool
  | .expire other => other ≠ exchangeId
  | .request other workflowId endpoint answers =>
      other ≠ exchangeId || (serve runtime config answers workflowId endpoint
        (world.slots other).record).saved.isNone
  | _ => true

def step (session : Session) : Label → Option Session
  | .elsewhere event =>
      if isElsewhere runtime config exchangeId session.world event then
        (World.step runtime config session.world event).map fun world =>
          { session with world }
      else none
  | .wallet answers =>
      (nextRequest wallet session.stage).map fun endpoint =>
        let action := serve runtime config answers "claim" endpoint
          (session.world.slots exchangeId).record
        { world := session.world.after action
          stage := session.stage.answered action.result }

end

/-! ## Requests of others -/

section

variable {runtime : Runtime} {config : Config}

theorem after_not_evicted {α : Type} {world : World} {action : Handler α}
    {exchangeId : String} (evicted : (world.after action).slots exchangeId = .evicted) :
    world.slots exchangeId = .evicted := by
  cases saved : action.saved with
  | none => simpa only [World.after, saved, World.write] using evicted
  | some record =>
      simp only [World.after, saved, write_slots] at evicted
      split at evicted
      · cases evicted
      · exact evicted

theorem elsewhere_slot {world next : World} {event : Event} {exchangeId : String}
    {detail : ExchangeDetailClaim} (keyed : Keyed world)
    (isOther : isElsewhere runtime config exchangeId world event = true)
    (stepped : World.step runtime config world event = some next)
    (found : world.slots exchangeId = .stored (.claim detail)) :
    next.slots exchangeId = .stored (.claim detail) := by
  have slotStep := step_slot keyed stepped exchangeId
  rw [found] at slotStep
  generalize after : next.slots exchangeId = slot at slotStep
  cases slotStep with
  | unchanged => rfl
  | changed isRequest addressed change =>
      subst isRequest
      simp only [isElsewhere, ne_eq, not_true_eq_false, decide_false, Bool.false_or] at isOther
      have silent := Option.isNone_iff_eq_none.mp isOther
      cases stepped
      simp only [World.after, silent, World.write] at after
      exact after.symm.trans found
  | evicted =>
      cases event with
      | expire other =>
          simp only [World.step] at stepped
          split at stepped
          · cases stepped
            have different : exchangeId ≠ other := by
              rintro rfl
              simp [isElsewhere] at isOther
            simp only [Function.update_of_ne different] at after
            exact after.symm.trans found
          · cases stepped
      | create data answers =>
          simp only [World.step] at stepped
          split at stepped
          · cases stepped
            cases found.symm.trans (after_not_evicted after)
          · cases stepped
      | request other workflowId endpoint answers =>
          cases stepped
          cases found.symm.trans (after_not_evicted after)
      | work answers =>
          simp only [World.step] at stepped
          split at stepped
          · cases stepped
          · cases stepped
            have earlier := after_not_evicted after
            cases found.symm.trans earlier

/-! ## What the service does for the wallet -/

structure Continues (exchange next : ExchangeDetailClaim) : Prop where
  exchangeId : next.exchangeId = exchange.exchangeId
  state : next.state = exchange.state
  vc : next.vars.vc = exchange.vars.vc

theorem Continues.refl (exchange : ExchangeDetailClaim) : Continues exchange exchange :=
  ⟨rfl, rfl, rfl⟩

theorem Continues.withOid4vci {exchange next : ExchangeDetailClaim}
    (continues : Continues exchange next) (state : ExchangeOid4vciState) :
    Continues exchange (withOid4vci next state) :=
  ⟨continues.exchangeId, continues.state, continues.vc⟩

/-- The store accepts the write, and what is drawn can be sent in a header. -/
structure Cooperates (answers : Answers) : Prop where
  accepts : answers.accepted 0 = true
  nonempty : answers.randomBytes ≠ ""
  trimmed : Text.trim answers.randomBytes = answers.randomBytes

structure Served (action : Handler Response) (detail : ExchangeDetailClaim)
    (response : Json) (next : ExchangeDetailClaim) : Prop where
  result : action.result = .ok (json response)
  stored : action.saved = some (.claim next) ∨ action.saved = none ∧ next = detail

theorem saves_then {answers : Answers} (cooperates : Cooperates answers)
    (next : ExchangeDetailClaim) (response : Json) :
    (do
      saveExchange answers (.claim next)
      return json response : Handler Response) =
      { saved := some (.claim next), result := .ok (json response) } := by
  rw [saveExchange_eq cooperates.accepts]
  rfl

variable {answers : Answers} {detail : ExchangeDetailClaim} {configId : String}

/-! ### The offer -/

structure Redeemable (detail : ExchangeDetailClaim) (code : String) : Prop where
  stored : Text.given (oid4vciState detail).preAuthorizedCode = some code
  unused : isUsed (oid4vciState detail).codeUsed = false

structure Offers (offer : Json) (configId code : String) : Prop where
  code : offeredCode offer = some (.str code)
  configuration : offeredConfigurationId offer = some (.str configId)

theorem buildCredentialOffer_redeemable {code : String} (redeemable : Redeemable detail code)
    (configured : deriveCredentialConfigurationId runtime detail.vars.vc = .ok configId) :
    ∃ offer, buildCredentialOffer runtime detail = .ok offer ∧
      Offers offer configId code := by
  simp only [buildCredentialOffer, redeemable.stored, configured]
  exact ⟨_, rfl, rfl, rfl⟩

private theorem redeemable_of_current {now : Timestamp} {code : String}
    (current : currentCode now detail = some code) : Redeemable detail code := by
  unfold currentCode at current
  dsimp only at current
  split at current
  · cases current
  · rename_i usable
    simp only [Bool.or_eq_true, not_or, Bool.not_eq_true] at usable
    exact ⟨current, usable.1⟩

private theorem offer_served (cooperates : Cooperates answers)
    (configured : deriveCredentialConfigurationId runtime detail.vars.vc = .ok configId) :
    ∃ next offer code, Served (credentialOfferRoute runtime answers detail) detail offer next ∧
      Continues detail next ∧ Offers offer configId code ∧ Redeemable next code := by
  cases current : currentCode (answers.clock 1) detail with
  | some code =>
      have redeemable := redeemable_of_current current
      rcases buildCredentialOffer_redeemable redeemable configured with
        ⟨offer, built, offers⟩
      have silent : (credentialOfferRoute runtime answers detail).saved = none :=
        Provenance.credentialOfferRoute_current current
      have answered : (credentialOfferRoute runtime answers detail).result =
          .ok (json offer) := by
        simp [credentialOfferRoute, ensurePreAuthorizedCode, current, built]
      exact ⟨detail, offer, code, ⟨answered, .inr ⟨silent, rfl⟩⟩, .refl detail, offers,
        redeemable⟩
  | none =>
      have redeemable : Redeemable (Provenance.withDrawnCode answers detail)
          answers.randomBytes := ⟨Text.given_some cooperates.nonempty, rfl⟩
      rcases buildCredentialOffer_redeemable redeemable configured with
        ⟨offer, built, offers⟩
      have draws := @Provenance.credentialOfferRoute_drawn runtime answers detail current
      rw [built, Action.ofExcept_ok_bind, saves_then cooperates] at draws
      rw [draws]
      exact ⟨_, offer, _, ⟨rfl, .inl rfl⟩, (Continues.refl detail).withOid4vci _, offers,
        redeemable⟩

/-! ### The token -/

structure Bears (detail : ExchangeDetailClaim) (token : String) : Prop where
  stored : Text.given (oid4vciState detail).accessToken = some token
  trimmed : Text.trim token = token

private theorem tokenRequest_parsed {offer : Json} {code : String}
    (offered : offeredCode offer = some (.str code)) :
    parseTokenRequest (tokenBody offer) = some {
      grantType := preAuthorizedGrant, preAuthorizedCode := some code } := by
  rw [tokenBody, offered]
  rfl

private theorem token_served {offer : Json} {code : String} (cooperates : Cooperates answers)
    (redeemable : Redeemable detail code) (offered : offeredCode offer = some (.str code))
    (inTime : isExpired (answers.clock 0) (oid4vciState detail).preAuthorizedCodeExpiresAt =
      false) :
    ∃ next response, Served (tokenRoute answers (tokenBody offer) detail) detail
        response next ∧
      Continues detail next ∧ Bears next (textField response "access_token") := by
  have isGiven : Text.given (some code) = some code := by
    rw [← redeemable.stored, Text.given_given]
  have redeemed : redeemPreAuthorizedCode (answers.clock 0) detail code =
      .ok (withOid4vci detail { oid4vciState detail with codeUsed := some true }) := by
    simp [redeemPreAuthorizedCode, redeemable.stored, redeemable.unused, inTime]
  have handled : ∃ state response,
      handleTokenRequest answers (tokenBody offer) detail =
        .ok (withOid4vci detail state, response) ∧
      state.accessToken = some answers.randomBytes ∧
      textField response "access_token" = answers.randomBytes := by
    simp only [handleTokenRequest, tokenRequest_parsed offered, isGiven, redeemed]
    exact ⟨_, _, rfl, rfl, rfl⟩
  rcases handled with ⟨state, response, handled, stored, sent⟩
  have serves : tokenRoute answers (tokenBody offer) detail =
      { saved := some (.claim (withOid4vci detail state)), result := .ok (json response) } := by
    simp only [tokenRoute, handled]
    exact saves_then cooperates _ _
  refine ⟨withOid4vci detail state, response, ?_, (Continues.refl detail).withOid4vci _, ?_⟩
  · rw [serves]
    exact ⟨rfl, .inl rfl⟩
  · rw [sent]
    constructor
    · change Text.given state.accessToken = _
      rw [stored, Text.given_some cooperates.nonempty]
    · exact cooperates.trimmed

/-! ### The nonce -/

structure Challenges (detail : ExchangeDetailClaim) (nonce : String) : Prop where
  stored : Text.given (oid4vciState detail).cNonce = some nonce
  unused : isUsed (oid4vciState detail).nonceUsed = false

private theorem nonce_served {token : String} (cooperates : Cooperates answers)
    (bears : Bears detail token) :
    ∃ next response, Served (nonceRoute answers detail) detail response next ∧
      Continues detail next ∧ Bears next token ∧
      Challenges next (textField response "c_nonce") := by
  let response : Json := .obj [("c_nonce", .str answers.randomBytes)]
  have serves : nonceRoute answers detail =
      { saved := some (.claim (handleNonceRequest answers detail))
        result := .ok (json response) } :=
    saves_then cooperates _ response
  have challenges : Challenges (handleNonceRequest answers detail) answers.randomBytes :=
    ⟨Text.given_some cooperates.nonempty, rfl⟩
  refine ⟨handleNonceRequest answers detail, response, ?_,
    (Continues.refl detail).withOid4vci _, ⟨bears.stored, bears.trimmed⟩, challenges⟩
  rw [serves]
  exact ⟨rfl, .inl rfl⟩

/-! ### The credential -/

private theorem presentedToken_bearer {token : String} (trimmed : Text.trim token = token) :
    Provenance.presentedToken (some ("Bearer " ++ token)) = some token := by
  have starts : Text.startsWith "Bearer " ("Bearer " ++ token) = true := by
    simp [Text.startsWith, String.toList_append]
  have cut : Text.sliceFrom 7 ("Bearer " ++ token) = token := by
    have seven : "Bearer ".toList.length = 7 := rfl
    simp only [Text.sliceFrom, String.toList_append, ← seven, List.drop_left,
      String.ofList_toList]
  simp [Provenance.presentedToken, starts, cut, trimmed]

def presented (wallet : Wallet) (nonce : String) : Json :=
  .obj (zodRecord (wallet.present nonce))

private theorem credentialRequest_parsed {wallet : Wallet} {offer nonce : Json}
    (offered : offeredConfigurationId offer = some (.str configId))
    (named : configId ≠ "") :
    parseCredentialRequest (credentialBody wallet offer nonce) = some {
      credentialConfigurationId := configId
      diVp := presented wallet (textField nonce "c_nonce") } := by
  rw [credentialBody, offered]
  change (if configId = "" then none else _) = _
  rw [if_neg named]
  rfl

/-- The wallet's presentation answers the nonce, is accepted by the verifier, and
asserts no other holder than its signer. -/
structure Proves (runtime : Runtime) (answers : Answers) (vp : Json) (nonce holder : String) :
    Prop where
  challenge : extractVpChallenge vp = .ok (some nonce)
  valid : Schema.verifiablePresentation (preparePresentation runtime vp).result = true
  accepted : ∃ result, answers.verifyPresentation {
      presentation := (preparePresentation runtime vp).result, challenge := nonce } =
      .ok result ∧ result.verified = true
  signer : Text.given (deriveHolderFromProof (preparePresentation runtime vp).result nonce) =
    some holder
  asserted : ∀ asserted, Text.given (extractHolderDid vp) = some asserted → asserted = holder

/-- The credential that the creator gave can be bound to a holder, and the services
answer. -/
structure Issues (runtime : Runtime) (answers : Answers) (vc : String) : Prop where
  /-- Handlebars puts the value of a variable between three braces as it is. -/
  renders : ∀ vars, runtime.renderTemplate "\x7b\x7b\x7bvc\x7d\x7d\x7d" vars = some vars.vc
  subject : ∀ holder, ∃ credential bound,
    runtime.parseJson vc = some credential ∧ withSubjectId credential holder = some bound
  services : ∀ endpoint body, ∃ reply,
    answers.callService endpoint body = some reply ∧ reply.isTruthy = true

theorem callService_served {vc endpoint : String} {body : Json}
    (issues : Issues runtime answers vc) :
    ∃ reply, (callService answers endpoint body).result = .ok reply ∧
      reply.isTruthy = true := by
  rcases issues.services endpoint body with ⟨reply, answered, truthy⟩
  refine ⟨reply, ?_, truthy⟩
  simp [callService, Action.perform, answered]

private theorem allocateStatus_served {vc : String} {credential : Json}
    (issues : Issues runtime answers vc) :
    ∃ allocated, (allocateStatus config answers credential).result = .ok allocated := by
  unfold allocateStatus
  split
  · exact ⟨credential, rfl⟩
  · rcases callService_served issues with ⟨reply, answered, -⟩
    exact ⟨reply, answered⟩

private theorem issueCredential_served {vc : String} {exchange : ExchangeDetailClaim}
    {suites : List String} {compatLog : Option (List CheckResult)} {credential : Json}
    (cooperates : Cooperates answers) (issues : Issues runtime answers vc) :
    ∃ signed, (issueCredential runtime config answers exchange suites compatLog
        credential).result = .ok signed ∧ signed.isTruthy = true := by
  unfold issueCredential
  rcases @allocateStatus_served runtime config answers vc (withIssuer
    (issuerInstanceFor runtime config exchange suites) credential) issues with
    ⟨allocated, allocates⟩
  rcases @callService_served runtime answers vc (signEndpoint config exchange
    (issuerInstanceFor runtime config exchange suites)) allocated issues with
    ⟨signed, signs, truthy⟩
  refine ⟨signed, ?_, truthy⟩
  dsimp only
  rw [Action.bind_ok allocates, Action.bind_ok signs, saveExchange_eq cooperates.accepts]
  rfl

private theorem sign_served {holder : String} {exchange : ExchangeDetailClaim}
    {suites : List String} {compatLog : Option (List CheckResult)}
    (cooperates : Cooperates answers) (issues : Issues runtime answers exchange.vars.vc)
    (named : Text.given (some holder) = some holder) :
    ∃ signed, (signClaimCredentialFromHolderDid runtime config answers (some holder)
        exchange (getWorkflow .claim) suites compatLog).result = .ok (some signed) ∧
      signed.isTruthy = true := by
  rcases issues.subject holder with ⟨template, bound, parsed, binds⟩
  have built : buildCredential runtime "\x7b\x7b\x7bvc\x7d\x7d\x7d" exchange holder =
      some bound := by
    simp [buildCredential, issues.renders, parsed, binds]
  rcases @issueCredential_served runtime config answers _ exchange suites compatLog bound
    cooperates issues with ⟨signed, issued, truthy⟩
  refine ⟨signed, ?_, truthy⟩
  have signs : signClaimCredentialFromHolderDid runtime config answers (some holder)
      exchange (getWorkflow .claim) suites compatLog =
      some <$> issueCredential runtime config answers exchange suites compatLog bound := by
    simp only [signClaimCredentialFromHolderDid, named, getWorkflow, claimWorkflow,
      Option.bind_some, List.head?_cons, built]
  rw [signs, Action.map_ok issued]

def credentialResponse (signed : Json) : Json :=
  .obj [("credentials", .arr [.obj [("credential", signed)]])]

private theorem issueToHolder_served {vp : Json} {holder : String} {working : ExchangeDetailClaim}
    {compatLog : Option (List CheckResult)} (cooperates : Cooperates answers)
    (issues : Issues runtime answers working.vars.vc)
    (named : Text.given (some holder) = some holder)
    (asserted : ∀ asserted, Text.given (extractHolderDid vp) = some asserted →
      asserted = holder) :
    ∃ signed, (issueToHolder runtime config answers vp working (getWorkflow .claim)
        (.verified (some holder) compatLog)).result =
          .ok (json (credentialResponse signed)) ∧
      (issueToHolder runtime config answers vp working (getWorkflow .claim)
        (.verified (some holder) compatLog)).saved =
          some (.claim (claimCompleted working signed compatLog)) := by
  have agrees : ((Text.given (extractHolderDid vp)).any (· ≠ holder)) = false := by
    cases holds : Text.given (extractHolderDid vp) with
    | none => rfl
    | some other => simp [asserted other holds]
  rcases @sign_served runtime config answers holder working
    (extractWalletCryptosuitesFromPresentation vp) compatLog cooperates issues named with
    ⟨signed, signs, truthy⟩
  have written := signClaimCredentialFromHolderDid_ok runtime config answers signs
  refine ⟨signed, ?_, ?_⟩
  · simp only [issueToHolder, agrees, Bool.false_eq_true, if_false]
    rw [Action.bind_ok signs]
    simp [Json.truthy, truthy, credentialResponse]
  · simp only [issueToHolder, agrees, Bool.false_eq_true, if_false]
    rw [Action.bind_ok signs]
    simp [Json.truthy, truthy, written]

structure Credentialed (detail : ExchangeDetailClaim) (response signed : Json) : Prop where
  answer : response = credentialResponse signed
  complete : detail.state = .complete
  stored : detail.vars.results.map (·.verifiableCredential) = some [signed]

private theorem validateAccessToken_served {token : String} (bears : Bears detail token)
    (inTime : isExpired (answers.clock 0) (oid4vciState detail).accessTokenExpiresAt =
      false) :
    validateAccessToken (answers.clock 0) detail token = .ok () := by
  simp [validateAccessToken, bears.stored, inTime]

private theorem validateAndConsumeNonce_served {nonce : String}
    (challenges : Challenges detail nonce)
    (inTime : isExpired (answers.clock 1) (oid4vciState detail).cNonceExpiresAt = false) :
    validateAndConsumeNonce (answers.clock 1) detail nonce =
      .ok (withOid4vci detail { oid4vciState detail with nonceUsed := some true }) := by
  simp [validateAndConsumeNonce, challenges.stored, challenges.unused, inTime]

private theorem handleKeyProof_served {request : CredentialRequest} {nonce holder : String}
    (cooperates : Cooperates answers) (issues : Issues runtime answers detail.vars.vc)
    (configured : deriveCredentialConfigurationId runtime detail.vars.vc =
      .ok request.credentialConfigurationId)
    (challenges : Challenges detail nonce)
    (inTime : isExpired (answers.clock 1) (oid4vciState detail).cNonceExpiresAt = false)
    (proves : Proves runtime answers request.diVp nonce holder) :
    ∃ next signed, Served (handleKeyProof runtime config answers request detail
        (getWorkflow .claim)) detail (credentialResponse signed) next ∧
      next.exchangeId = detail.exchangeId ∧
      Credentialed next (credentialResponse signed) signed := by
  let working := withOid4vci detail { oid4vciState detail with nonceUsed := some true }
  have given : Text.given (some nonce) = some nonce := by
    rw [← challenges.stored, Text.given_given]
  have named : Text.given (some holder) = some holder := by
    rw [← proves.signer, Text.given_given]
  rcases (verifyDIDAuth_verified_iff runtime answers).mpr
    ⟨proves.valid, proves.accepted, proves.signer.symm⟩ with ⟨compatLog, verified⟩
  rcases @issueToHolder_served runtime config answers request.diVp holder working compatLog
    cooperates issues named proves.asserted with ⟨signed, answered, written⟩
  have silent := verifyDIDAuth_saved runtime answers request.diVp nonce
    (detail.vars.debug.getD config.defaultExchangeDebug)
  refine ⟨claimCompleted working signed compatLog, signed, ⟨?_, .inl ?_⟩, rfl, rfl, rfl, rfl⟩
  all_goals
    simp only [handleKeyProof, configured, Action.ofExcept_ok_bind, ne_eq,
      not_true_eq_false, if_false, proves.challenge, given,
      validateAndConsumeNonce_served challenges inTime]
    rw [Action.bind_ok verified]
  · exact answered
  · simp only [silent, Option.or_none]
    exact written

private theorem credential_served {wallet : Wallet} {offer token nonce : Json} {holder : String}
    (cooperates : Cooperates answers) (issues : Issues runtime answers detail.vars.vc)
    (ongoing : detail.state ≠ .complete) (named : configId ≠ "")
    (configured : deriveCredentialConfigurationId runtime detail.vars.vc = .ok configId)
    (offered : offeredConfigurationId offer = some (.str configId))
    (bears : Bears detail (textField token "access_token"))
    (tokenInTime : isExpired (answers.clock 0)
      (oid4vciState detail).accessTokenExpiresAt = false)
    (challenges : Challenges detail (textField nonce "c_nonce"))
    (nonceInTime : isExpired (answers.clock 1) (oid4vciState detail).cNonceExpiresAt = false)
    (proves : Proves runtime answers (presented wallet (textField nonce "c_nonce"))
      (textField nonce "c_nonce") holder) :
    ∃ next signed, Served (credentialRoute runtime config answers
        (some ("Bearer " ++ textField token "access_token"))
        (some (credentialBody wallet offer nonce)) detail) detail
        (credentialResponse signed) next ∧
      next.exchangeId = detail.exchangeId ∧
      Credentialed next (credentialResponse signed) signed := by
  have bearer := presentedToken_bearer bears.trimmed
  have isGiven : Text.given (some (textField token "access_token")) =
      some (textField token "access_token") := by
    rw [← bears.stored, Text.given_given]
  have routes : credentialRoute runtime config answers
      (some ("Bearer " ++ textField token "access_token"))
      (some (credentialBody wallet offer nonce)) detail =
      handleKeyProof runtime config answers {
        credentialConfigurationId := configId
        diVp := presented wallet (textField nonce "c_nonce") } detail
        (getWorkflow .claim) := by
    change handleCredentialRequest runtime config answers (Provenance.presentedToken _)
      _ detail (getWorkflow .claim) = _
    simp only [bearer, handleCredentialRequest, isGiven,
      validateAccessToken_served bears tokenInTime, ongoing, if_false,
      credentialRequest_parsed offered named]
  rw [routes]
  exact handleKeyProof_served cooperates issues configured challenges nonceInTime proves

end

/-! ## Runs of the protocol -/

structure Offered (runtime : Runtime) (vc configId : String) : Prop where
  configured : deriveCredentialConfigurationId runtime vc = .ok configId
  named : configId ≠ ""

/-- What the wallet and the service rely on for the wallet's next request. -/
def Ready (runtime : Runtime) (wallet : Wallet) (answers : Answers)
    (detail : ExchangeDetailClaim) : Stage → Prop
  | .offered _ =>
      isExpired (answers.clock 0) (oid4vciState detail).preAuthorizedCodeExpiresAt = false
  | .challenged _ _ nonce =>
      isExpired (answers.clock 0) (oid4vciState detail).accessTokenExpiresAt = false ∧
      isExpired (answers.clock 1) (oid4vciState detail).cNonceExpiresAt = false ∧
      Issues runtime answers detail.vars.vc ∧
      ∃ holder, Proves runtime answers (presented wallet (textField nonce "c_nonce"))
        (textField nonce "c_nonce") holder
  | _ => True

/-- The store and the services answer the wallet's requests, each made in time. -/
def Honest (runtime : Runtime) (wallet : Wallet) (exchangeId : String)
    (session : Session) : Label → Prop
  | .elsewhere _ => True
  | .wallet answers =>
      Cooperates answers ∧ ∀ detail,
        session.world.slots exchangeId = .stored (.claim detail) →
        Ready runtime wallet answers detail session.stage

/-- How far the wallet has come, and what the exchange holds for it. -/
inductive Progress (configId : String) (detail : ExchangeDetailClaim) : Stage → Nat → Prop
  | started : Progress configId detail .started 0
  | offered {offer : Json} {code : String} (offers : Offers offer configId code)
      (redeemable : Redeemable detail code) :
      Progress configId detail (.offered offer) 1
  | authorized {offer token : Json}
      (configuration : offeredConfigurationId offer = some (.str configId))
      (bears : Bears detail (textField token "access_token")) :
      Progress configId detail (.authorized offer token) 2
  | challenged {offer token nonce : Json}
      (configuration : offeredConfigurationId offer = some (.str configId))
      (bears : Bears detail (textField token "access_token"))
      (challenges : Challenges detail (textField nonce "c_nonce")) :
      Progress configId detail (.challenged offer token nonce) 3

inductive Reached (exchangeId vc configId : String) (session : Session) : Nat → Prop
  | ongoing {detail : ExchangeDetailClaim} {requests : Nat}
      (found : session.world.slots exchangeId = .stored (.claim detail))
      (ongoing : detail.state ≠ .complete) (template : detail.vars.vc = vc)
      (progress : Progress configId detail session.stage requests) :
      Reached exchangeId vc configId session requests
  | credentialed {detail : ExchangeDetailClaim} {response signed : Json}
      (found : session.world.slots exchangeId = .stored (.claim detail))
      (stage : session.stage = .credentialed response)
      (credentialed : Credentialed detail response signed) :
      Reached exchangeId vc configId session 4

section

variable {runtime : Runtime} {config : Config} {wallet : Wallet} {exchangeId vc : String}
  {configId : String} {session next : Session} {requests : Nat}

theorem serve_claim {detail : ExchangeDetailClaim} {message : String}
    (route : ExchangeDetailClaim → Handler Response) :
    (do
      let exchange ← Action.ofExcept (getExchangeData (some (.claim detail)) "claim")
      onClaim message route exchange : Handler Response) = route detail := by
  have loaded : getExchangeData (some (.claim detail)) "claim" = .ok (.claim detail) := rfl
  rw [loaded, Action.ofExcept_ok_bind]
  rfl

theorem after_served {world : World} {action : Handler Response} {response : Json}
    {detail later : ExchangeDetailClaim}
    (found : world.slots exchangeId = .stored (.claim detail))
    (served : Served action detail response later) (isOwn : later.exchangeId = exchangeId) :
    (world.after action).slots exchangeId = .stored (.claim later) := by
  rcases served.stored with writes | ⟨silent, same⟩
  · simp only [World.after, writes, write_slots]
    exact if_pos isOwn.symm
  · simp only [World.after, silent, World.write, same, found]

theorem wallet_step {answers : Answers} {detail : ExchangeDetailClaim}
    (offered : Offered runtime vc configId)
    (honest : Honest runtime wallet exchangeId session (.wallet answers))
    (isOwn : detail.exchangeId = exchangeId)
    (found : session.world.slots exchangeId = .stored (.claim detail))
    (ongoing : detail.state ≠ .complete) (template : detail.vars.vc = vc)
    (progress : Progress configId detail session.stage requests)
    (stepped : step runtime config wallet exchangeId session (.wallet answers) = some next) :
    Reached exchangeId vc configId next (requests + 1) := by
  rcases honest with ⟨cooperates, ready⟩
  replace ready := ready detail found
  subst template
  cases session with
  | mk world stage =>
      dsimp only at found progress ready
      simp only [step, found, Slot.record] at stepped
      cases progress with
      | started =>
          rcases @offer_served runtime answers detail configId cooperates
            offered.configured with ⟨later, offer, code, served, continues, offers, redeemable⟩
          simp only [nextRequest, serve, serve_claim, Option.map_some, served.result,
            Option.some.injEq] at stepped
          subst stepped
          exact .ongoing (after_served found served (continues.exchangeId.trans isOwn))
            (continues.state ▸ ongoing) continues.vc (.offered offers redeemable)
      | offered offers redeemable =>
          rcases token_served cooperates redeemable offers.code ready with
            ⟨later, response, served, continues, bears⟩
          simp only [nextRequest, serve, serve_claim, Option.map_some, served.result,
            Option.some.injEq] at stepped
          subst stepped
          exact .ongoing (after_served found served (continues.exchangeId.trans isOwn))
            (continues.state ▸ ongoing) continues.vc
            (.authorized offers.configuration bears)
      | authorized configuration bears =>
          rcases nonce_served cooperates bears with
            ⟨later, response, served, continues, bears, challenges⟩
          simp only [nextRequest, serve, serve_claim, Option.map_some, served.result,
            Option.some.injEq] at stepped
          subst stepped
          exact .ongoing (after_served found served (continues.exchangeId.trans isOwn))
            (continues.state ▸ ongoing) continues.vc
            (.challenged configuration bears challenges)
      | challenged configuration bears challenges =>
          rcases ready with ⟨tokenInTime, nonceInTime, issues, holder, proves⟩
          rcases @credential_served runtime config answers detail configId wallet _ _ _ holder
            cooperates issues ongoing offered.named offered.configured configuration bears
            tokenInTime challenges nonceInTime proves with
            ⟨later, signed, served, same, credentialed⟩
          simp only [nextRequest, serve, serve_claim, Option.map_some, served.result,
            Option.some.injEq] at stepped
          subst stepped
          exact .credentialed (after_served found served (same.trans isOwn)) rfl credentialed

theorem wallet_done {answers : Answers} {response : Json}
    (stage : session.stage = .credentialed response) :
    step runtime config wallet exchangeId session (.wallet answers) = none := by
  simp [step, stage, nextRequest]

def Label.isRequest : Label → Bool
  | .wallet _ => true
  | .elsewhere _ => false

def Invariant (exchangeId vc configId : String) (session : Session) (requests : Nat) : Prop :=
  Keyed session.world ∧ Reached exchangeId vc configId session requests

theorem invariant_step {label : Label} (offered : Offered runtime vc configId)
    (honest : Honest runtime wallet exchangeId session label)
    (invariant : Invariant exchangeId vc configId session requests)
    (stepped : step runtime config wallet exchangeId session label = some next) :
    Invariant exchangeId vc configId next (requests + [label].countP Label.isRequest) := by
  rcases invariant with ⟨keyed, reached⟩
  cases label with
  | elsewhere event =>
      have count : [Label.elsewhere event].countP Label.isRequest = 0 := rfl
      rw [count, Nat.add_zero]
      simp only [step] at stepped
      split at stepped
      · rename_i isOther
        rcases Option.map_eq_some_iff.mp stepped with ⟨world, moved, rfl⟩
        refine ⟨step_keyed keyed moved, ?_⟩
        cases reached with
        | ongoing found ongoing template progress =>
            exact .ongoing (elsewhere_slot keyed isOther moved found) ongoing template progress
        | credentialed found stage credentialed =>
            exact .credentialed (elsewhere_slot keyed isOther moved found) stage credentialed
      · cases stepped
  | wallet answers =>
      have count : [Label.wallet answers].countP Label.isRequest = 1 := rfl
      rw [count]
      constructor
      · simp only [step] at stepped
        rcases Option.map_eq_some_iff.mp stepped with ⟨endpoint, -, rfl⟩
        have moved : World.step runtime config session.world
            (.request exchangeId "claim" endpoint answers) = some _ := rfl
        exact step_keyed keyed moved
      · cases reached with
        | ongoing found ongoing template progress =>
            exact wallet_step offered honest (keyed exchangeId _ found) found ongoing template
              progress stepped
        | credentialed found stage credentialed =>
            rw [wallet_done stage] at stepped
            cases stepped

private theorem invariant_run {labels : List Label} {final : Session}
    (offered : Offered runtime vc configId)
    (honest : Machine.Along (step runtime config wallet exchangeId)
      (Honest runtime wallet exchangeId) session labels)
    (invariant : Invariant exchangeId vc configId session requests)
    (ran : Machine.run (step runtime config wallet exchangeId) session labels = some final) :
    Invariant exchangeId vc configId final (requests + labels.countP Label.isRequest) := by
  induction labels generalizing session requests with
  | nil =>
      cases ran
      exact invariant
  | cons label labels induction =>
      rcases Machine.run_cons ran with ⟨middle, stepped, rest⟩
      have later := induction (honest.2 middle stepped)
        (invariant_step offered honest.1 invariant stepped) rest
      have count : (label :: labels).countP Label.isRequest =
          [label].countP Label.isRequest + labels.countP Label.isRequest :=
        @List.countP_append _ _ [label] labels
      rw [count, ← Nat.add_assoc]
      exact later

private theorem Reached.cases_of {final : Session}
    (reached : Reached exchangeId vc configId final requests) :
    requests ≤ 4 ∧
    (requests < 4 → (nextRequest wallet final.stage).isSome = true) ∧
    (requests = 4 → ∃ detail response signed,
      final.world.slots exchangeId = .stored (.claim detail) ∧
      final.stage = .credentialed response ∧ Credentialed detail response signed) := by
  cases reached with
  | ongoing found ongoing template progress =>
      generalize final.stage = stage at progress
      cases progress <;> simp [nextRequest]
  | credentialed found stage credentialed =>
      exact ⟨Nat.le_refl 4, fun less => absurd less (Nat.lt_irrefl 4),
        fun _ => ⟨_, _, _, found, stage, credentialed⟩⟩

/-- A wallet that follows the protocol is served: whatever others ask of the service
in between, as long as it is not the exchange that they write, none of its requests is
refused, and after four of them it has the credential that the exchange has stored. -/
theorem honest_wallet_served {labels : List Label} {final : Session}
    {detail : ExchangeDetailClaim} (keyed : Keyed session.world)
    (found : session.world.slots exchangeId = .stored (.claim detail))
    (ongoing : detail.state ≠ .complete) (starts : session.stage = .started)
    (offered : Offered runtime detail.vars.vc configId)
    (honest : Machine.Along (step runtime config wallet exchangeId)
      (Honest runtime wallet exchangeId) session labels)
    (ran : Machine.run (step runtime config wallet exchangeId) session labels = some final) :
    labels.countP Label.isRequest ≤ 4 ∧
    (labels.countP Label.isRequest < 4 → (nextRequest wallet final.stage).isSome = true) ∧
    (labels.countP Label.isRequest = 4 → ∃ completed response signed,
      final.world.slots exchangeId = .stored (.claim completed) ∧
      final.stage = .credentialed response ∧ Credentialed completed response signed) := by
  have initially : Invariant exchangeId detail.vars.vc configId session 0 :=
    ⟨keyed, .ongoing found ongoing rfl (starts ▸ .started)⟩
  have reached := (invariant_run offered honest initially ran).2
  rw [Nat.zero_add] at reached
  exact reached.cases_of

end

/-! ## A wallet and its badge -/

def plainWallet : Wallet where
  present nonce := [
    ("@context", .arr [.str "https://www.w3.org/2018/credentials/v1"]),
    ("type", .arr [.str "VerifiablePresentation"]),
    ("proof", .obj [
      ("type", .str "DataIntegrityProof"),
      ("created", .str "2026-01-01T00:00:00Z"),
      ("verificationMethod", .str "did:example:holder#key-1"),
      ("proofPurpose", .str "authentication"),
      ("challenge", .str nonce),
      ("proofValue", .str "z1")])]

def claimSession : Session where
  world := { World.start with
    slots := Function.update World.start.slots "exchange-1"
      (.stored (.claim Provenance.createdClaim)) }
  stage := .started

def drawing (randomBytes : String) : Answers :=
  { Answers.plain with
    randomBytes, callService := fun _ body => some (.obj [("signed", body)]) }

/-- In between, somebody asks for the protocols of the exchange. -/
def claimLabels : List Label := [
  .wallet (drawing "code-1"), .wallet (drawing "token-1"),
  .elsewhere (.request "exchange-1" "claim" .protocols Answers.plain),
  .wallet (drawing "nonce-1"), .wallet (drawing "unused")]

theorem drawing_cooperates {text : String} (nonempty : text ≠ "")
    (trimmed : Text.trim text = text) : Cooperates (drawing text) :=
  ⟨rfl, nonempty, trimmed⟩

theorem plain_issues : Issues Provenance.claimRuntime (drawing "unused") "the credential" where
  renders _ := rfl
  subject _ := ⟨_, _, rfl, rfl⟩
  services _ body := ⟨.obj [("signed", body)], rfl, rfl⟩

theorem plain_proves : Proves Provenance.claimRuntime (drawing "unused")
    (presented plainWallet "nonce-1") "nonce-1" "did:example:holder" where
  challenge := rfl
  valid := by decide
  accepted := ⟨_, rfl, rfl⟩
  signer := by decide
  asserted := by
    intro asserted given
    cases given

private theorem claim_honest :
    Machine.Along (step Provenance.claimRuntime {} plainWallet "exchange-1")
      (Honest Provenance.claimRuntime plainWallet "exchange-1") claimSession claimLabels := by
  refine ⟨⟨drawing_cooperates (by decide) (by decide), fun _ _ => trivial⟩,
    fun offered asked => ?_⟩
  cases asked
  refine ⟨⟨drawing_cooperates (by decide) (by decide), fun detail found => ?_⟩,
    fun authorized asked => ?_⟩
  · cases found
    exact rfl
  cases asked
  refine ⟨trivial, fun _ read => ?_⟩
  cases read
  refine ⟨⟨drawing_cooperates (by decide) (by decide), fun _ _ => trivial⟩,
    fun challenged asked => ?_⟩
  cases asked
  refine ⟨⟨drawing_cooperates (by decide) (by decide), fun detail found => ?_⟩,
    fun _ _ => trivial⟩
  cases found
  exact ⟨rfl, rfl, plain_issues, "did:example:holder", plain_proves⟩

theorem plainWallet_served : ∃ final completed response signed,
    Machine.run (step Provenance.claimRuntime {} plainWallet "exchange-1") claimSession
      claimLabels = some final ∧
    final.world.slots "exchange-1" = .stored (.claim completed) ∧
    final.stage = .credentialed response ∧ Credentialed completed response signed := by
  have ran : ∃ final, Machine.run (step Provenance.claimRuntime {} plainWallet "exchange-1")
    claimSession claimLabels = some final := ⟨_, rfl⟩
  rcases ran with ⟨final, ran⟩
  have keyed : Keyed claimSession.world := by
    intro exchangeId exchange found
    rcases Machine.update_cases found with ⟨same, stored⟩ | ⟨-, earlier⟩
    · cases stored
      exact same.symm
    · cases earlier
  rcases (honest_wallet_served keyed rfl (by decide) rfl ⟨rfl, by decide⟩ claim_honest
    ran).2.2 rfl with ⟨completed, response, signed, served⟩
  exact ⟨final, completed, response, signed, ran, served⟩

end TransactionService.HonestWallet
