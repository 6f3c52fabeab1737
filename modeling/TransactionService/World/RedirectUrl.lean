import TransactionService.Routes.CreationStages
import TransactionService.World.IdentityFrame
import TransactionService.World.RecordHistory

namespace TransactionService.RedirectUrl

open Fallible SharedStore SingleUse Sessions RecordHistory

/-! # Where the redirect URL goes

A request for an exchange may name a URL to which a wallet is sent when its
submission has succeeded. -/

section

variable (runtime : Runtime) (config : Config)

inductive CreatedFor (redirectUrl : String) (exchange : Exchange) : Prop
  | single {answers : Answers} {workflowId : String} {authorization : Option String}
      {body : Json} (takesUrl : workflowId = "didAuth" ∨ workflowId = "verify")
      (asked : CreationStages.bodyVariable body "redirectUrl" = some (.str redirectUrl))
      (created : createdByRequest runtime config answers workflowId authorization
        (some body) = .ok exchange) : CreatedFor redirectUrl exchange
  | batch {answers : Answers} {authorization : Option String} {body item : Json}
      {items : List Json} {exchanges : List Exchange} {index : Nat}
      (isData : body.field "data" = some (.arr items)) (isItem : items[index]? = some item)
      (asked : item.field "redirectUrl" = some (.str redirectUrl))
      (created : createdByBatch runtime config answers authorization (some body) =
        .ok exchanges) (isOwn : exchanges[index]? = some exchange)
      (isDidAuth : exchange.workflowId = .didAuth) : CreatedFor redirectUrl exchange

def redirectMember : Endpoint → Option String
  | .participate data => if isEmptyBody data then none else some "redirectUrl"
  | .directPost _ => some "redirect_uri"
  | _ => none

/-- A submission that succeeds, in a run of the store in which the exchange has
been created. -/
inductive Submitted (exchange : Exchange) (member : String) (response : Json) : Prop
  | intro {labels : List ExchangeLabel} {system : ExchangeSystem} {snapshot : Exchange}
      {request : StoreRequest}
      (runs : Machine.run (sessionStep runtime config) SharedStore.start labels = some system)
      (isCreated : system.created exchange.exchangeId = some exchange)
      (isStored : system.stored exchange.exchangeId = some snapshot)
      (isSubmission : redirectMember request.endpoint = some member)
      (answered : answeredJson (served runtime config request snapshot).result =
        some response) : Submitted exchange member response

def RedirectSurvives (redirectUrl : String) (exchange : Exchange) : Prop :=
  ∀ member response, Submitted runtime config exchange member response →
    response.field member = some (.str redirectUrl)

end

def fixedRedirectUrl : FixedVariables → Option String
  | .didAuth vars => vars.redirectUrl
  | .claim vars => vars.redirectUrl
  | .verify vars => vars.redirectUrl

section

variable {runtime : Runtime} {config : Config} {answers : Answers}

/-! ## What the responses tell -/

private theorem participateInExchange_response {data value : Json} {exchange : Exchange}
    (unissued : exchange.workflowId ≠ .claim) (nonempty : isEmptyBody data = false)
    (succeeds : (participateInExchange runtime config answers data exchange).result =
      .ok value) :
    value = redirectTo exchange.baseVariables.redirectUrl ∨
      ∃ detail, exchange = .verify detail ∧ value = buildVerificationResponse detail := by
  unfold participateInExchange at succeeds
  split at succeeds
  · cases succeeds
  · rw [nonempty] at succeeds
    cases exchange with
    | didAuth detail =>
        exact .inl (participateInDidAuthExchange_response runtime config answers succeeds)
    | claim detail => exact absurd rfl unissued
    | verify detail =>
        exact .inr ⟨detail, rfl,
          participateInVerifyExchange_response runtime config answers succeeds⟩

private theorem oid4vpResponseRoute_response {body : Option Json} {detail : ExchangeDetailVerify}
    {value : Json}
    (succeeds : (oid4vpResponseRoute runtime config answers body detail).result =
      .ok (json value)) :
    value = match Text.given detail.vars.redirectUrl with
      | some redirectUrl => .obj [("redirect_uri", .str redirectUrl)]
      | none => .obj [] := by
  unfold oid4vpResponseRoute at succeeds
  split at succeeds
  · cases succeeds
  · rcases handleOid4vpResponse_response runtime config answers succeeds rfl with
      ⟨presentation, working, _, accepted, -, same⟩
    rcases acceptDirectPost_ok runtime accepted with ⟨_, _, -, -, consumed, -, -⟩
    rcases consumeOid4vpResponse_ok consumed with ⟨_, -, -, -, rfl⟩
    cases same
    rfl

private theorem submission_without_url {request : StoreRequest} {snapshot : Exchange}
    {member : String} {response : Json} (unissued : snapshot.workflowId ≠ .claim)
    (unset : snapshot.baseVariables.redirectUrl = none)
    (isSubmission : redirectMember request.endpoint = some member)
    (answered : answeredJson (served runtime config request snapshot).result =
      some response) :
    response.field member = none ∨ response.field member = some (.str "") := by
  rcases request with ⟨workflowId, endpoint, answers⟩
  rw [answeredJson_eq_some] at answered
  cases endpoint with
  | participate data =>
      cases empty : isEmptyBody data with
      | true => simp [redirectMember, empty] at isSubmission
      | false =>
          simp only [redirectMember, empty] at isSubmission
          cases isSubmission
          rcases Action.result_bind answered with ⟨_, -, afterWorkflow⟩
          rcases Action.result_bind afterWorkflow with ⟨exchange, loads, participates⟩
          have found : some snapshot = some exchange := getExchangeData_ok loads
          cases found
          rcases Action.result_map participates with ⟨value, participated, same⟩
          cases same
          rcases participateInExchange_response unissued empty participated with
            rfl | ⟨detail, rfl, rfl⟩
          · rw [unset]
            exact .inr rfl
          · have unsetDetail : detail.vars.redirectUrl = none := unset
            rw [buildVerificationResponse, unsetDetail]
            exact .inl rfl
  | directPost body =>
      cases isSubmission
      rcases onVerify_answers answered with ⟨detail, rfl, routed, -⟩
      have unsetDetail : detail.vars.redirectUrl = none := unset
      rw [oid4vpResponseRoute_response routed, unsetDetail]
      exact .inl rfl
  | _ => cases isSubmission

/-! ## What is on record -/

private theorem createExchange_unset (data : CreateData) :
    (createExchange config answers data).baseVariables.redirectUrl = none := by
  cases data <;> rfl

theorem fixedRedirectUrl_eq (exchange : Exchange) :
    fixedRedirectUrl (fixedVariables exchange) = exchange.baseVariables.redirectUrl := by
  cases exchange <;> rfl

private theorem stored_as_created {labels : List ExchangeLabel} {system : ExchangeSystem}
    {exchange snapshot : Exchange}
    (runs : Machine.run (sessionStep runtime config) SharedStore.start labels = some system)
    (isCreated : system.created exchange.exchangeId = some exchange)
    (isStored : system.stored exchange.exchangeId = some snapshot) :
    snapshot.workflowId = exchange.workflowId ∧
      snapshot.baseVariables.redirectUrl = exchange.baseVariables.redirectUrl := by
  have asCreated := (IdentityFrame.exchange_framed.sound_of_run runs).stored _ _ isStored
  rcases asCreated with ⟨original, created, -, same⟩
  cases isCreated.symm.trans created
  refine ⟨congrArg Identity.workflowId same, ?_⟩
  rw [← fixedRedirectUrl_eq, ← fixedRedirectUrl_eq]
  exact congrArg (fun identity => fixedRedirectUrl identity.vars) same

theorem CreatedFor.made {redirectUrl : String} {exchange : Exchange}
    (createdFor : CreatedFor runtime config redirectUrl exchange) :
    exchange.workflowId ≠ .claim ∧ ∃ creation : Creation,
      createExchange config creation.answers creation.data = exchange := by
  cases createdFor with
  | single takesUrl asked created =>
      rcases bind_eq_ok.mp created with ⟨data, -, made⟩
      rcases newExchange_made made with ⟨isWorkflow, -, makes, isMade⟩
      refine ⟨?_, ⟨makes, _⟩, isMade.symm⟩
      intro isClaim
      rw [isClaim] at isWorkflow
      rcases takesUrl with rfl | rfl
      · exact absurd isWorkflow (by decide)
      · exact absurd isWorkflow (by decide)
  | batch isData isItem asked created isOwn isDidAuth =>
      rcases bind_eq_ok.mp created with ⟨data, -, made⟩
      rcases batchExchanges_each made _ (List.mem_of_getElem? isOwn) with
        ⟨_, makes, _, -, isMade⟩
      refine ⟨?_, ⟨makes, _⟩, isMade.symm⟩
      rw [isDidAuth]
      exact fun impossible => nomatch impossible

/-! ## A submission that succeeds -/

def plainResult : PresentationVerificationResult where
  verified := true
  presentationResults := []
  credentialResults := []

theorem preparePresentation_sample (runtime : Runtime) :
    (preparePresentation runtime samplePresentation).result = samplePresentation := by
  have carried : presentationOf samplePresentation = samplePresentation := by rfl
  simp only [preparePresentation, presentationOf_prepareVcalmParticipationMessage, carried]
  simp only [prepareVerifiableEntity, chainFixes, List.foldl_cons, List.foldl_nil,
    ed25519Signature2020Context]
  split
  · rfl
  · rfl

private theorem didAuth_sample (detail : ExchangeDetailDidAuth) :
    ∃ value, (participateInDidAuthExchange runtime config Answers.plain samplePresentation
      detail).result = .ok value := by
  have verified : ∃ compatLog, (verifyDIDAuth runtime Answers.plain samplePresentation
      detail.vars.challenge (detail.vars.debug.getD config.defaultExchangeDebug)).result =
      .ok (.verified (some "did:example:holder") compatLog) := by
    rw [verifyDIDAuth_verified_iff, preparePresentation_sample]
    exact ⟨rfl, ⟨_, rfl, rfl⟩, rfl⟩
  rcases verified with ⟨compatLog, isVerified⟩
  unfold participateInDidAuthExchange
  rw [Action.bind_ok isVerified]
  exact ⟨_, rfl⟩

private theorem verify_sample (detail : ExchangeDetailVerify) :
    ∃ value, (participateInVerifyExchange runtime config Answers.plain samplePresentation
      detail).result = .ok value := by
  have ready : preparePresentationForVerify runtime config samplePresentation detail = .ok {
      presentation := samplePresentation
      compatLog := (preparePresentation runtime samplePresentation).log
      debug := detail.vars.debug.getD config.defaultExchangeDebug } := by
    simp only [preparePresentationForVerify, preparePresentation_sample]
    rfl
  have answered : (verifyPresentation Answers.plain
      (verifyCallFor runtime config detail samplePresentation)).result =
      .ok plainResult := rfl
  have applies : ∀ log debug, ∃ finalized,
      applyVerificationResults detail plainResult log debug = .ok finalized := by
    intro log debug
    have unmatched : ∃ validation, validateClaims detail.vars.vprClaims
        (storedCredentialResults plainResult) = .ok validation := by
      unfold validateClaims
      split
      · exact ⟨_, rfl⟩
      · exact ⟨_, rfl⟩
    rcases unmatched with ⟨validation, isValidated⟩
    unfold applyVerificationResults
    simp only [isValidated]
    exact ⟨_, rfl⟩
  rcases applies (preparePresentation runtime samplePresentation).log
    (detail.vars.debug.getD config.defaultExchangeDebug) with ⟨finalized, applied⟩
  unfold participateInVerifyExchange
  rw [ready, Action.ofExcept_ok_bind, Action.bind_ok answered]
  dsimp only
  rw [applied, Action.ofExcept_ok_bind]
  exact ⟨_, rfl⟩

private theorem serve_sample {exchange : Exchange} (unissued : exchange.workflowId ≠ .claim)
    (isPending : exchange.state = .pending) :
    ∃ response, answeredJson (served runtime config {
      workflowId := exchange.workflowId.text
      endpoint := .participate samplePresentation
      answers := Answers.plain } exchange).result = some response := by
  have participates : ∃ value, (participateInExchange runtime config Answers.plain
      samplePresentation exchange).result = .ok value := by
    have ongoing : exchange.state ≠ .complete := by
      rw [isPending]
      exact fun impossible => nomatch impossible
    have nonempty : isEmptyBody samplePresentation = false := rfl
    unfold participateInExchange
    rw [if_neg ongoing, nonempty]
    cases exchange with
    | didAuth detail => exact didAuth_sample detail
    | claim detail => exact absurd rfl unissued
    | verify detail => exact verify_sample detail
  rcases participates with ⟨value, participated⟩
  refine ⟨value, answeredJson_eq_some.mpr ?_⟩
  have known : addWorkflowByParam exchange.workflowId.text = .ok () := by
    cases exchange <;> rfl
  have loads : getExchangeData (some exchange) exchange.workflowId.text = .ok exchange := by
    simp [getExchangeData]
  simp only [served, serve]
  rw [known, loads, Action.ofExcept_ok_bind, Action.ofExcept_ok_bind]
  exact Action.map_ok participated json

theorem submitted_after_creation (creation : Creation)
    (unissued : (createExchange config creation.answers creation.data).workflowId ≠ .claim) :
    ∃ response, Submitted runtime config
      (createExchange config creation.answers creation.data) "redirectUrl" response := by
  rcases serve_sample unissued (createExchange_state ..) with ⟨response, answered⟩
  have runs : ∃ system, Machine.run (sessionStep runtime config) SharedStore.start
      [.create creation] = some system ∧
      system.created (createExchange config creation.answers creation.data).exchangeId =
        some (createExchange config creation.answers creation.data) ∧
      system.stored (createExchange config creation.answers creation.data).exchangeId =
        some (createExchange config creation.answers creation.data) :=
    ⟨_, rfl, Function.update_self .., Function.update_self ..⟩
  rcases runs with ⟨system, runs, isCreated, isStored⟩
  exact ⟨response, .intro runs isCreated isStored rfl answered⟩

theorem submitted_untold {creation : Creation} {member redirectUrl : String}
    {response : Json} (nonempty : redirectUrl ≠ "")
    (unissued : (createExchange config creation.answers creation.data).workflowId ≠ .claim)
    (submitted : Submitted runtime config
      (createExchange config creation.answers creation.data) member response) :
    response.field member ≠ some (.str redirectUrl) := by
  rcases submitted with ⟨runs, isCreated, isStored, isSubmission, answered⟩
  rcases stored_as_created runs isCreated isStored with ⟨sameWorkflow, sameUrl⟩
  rw [← sameWorkflow] at unissued
  rw [createExchange_unset] at sameUrl
  intro told
  rcases submission_without_url unissued sameUrl isSubmission answered with absent | isEmpty
  · rw [absent] at told
    cases told
  · rw [isEmpty] at told
    cases told
    exact nonempty rfl

/-! ## No URL survives -/

/-- No exchange that was made for a redirect URL ever tells it: submissions
succeed, and none of them in any run is answered with the URL. -/
theorem redirect_never_survives {redirectUrl : String} {exchange : Exchange}
    (createdFor : CreatedFor runtime config redirectUrl exchange)
    (nonempty : redirectUrl ≠ "") :
    ¬ RedirectSurvives runtime config redirectUrl exchange ∧
      ∀ member response, Submitted runtime config exchange member response →
        response.field member ≠ some (.str redirectUrl) := by
  rcases createdFor.made with ⟨unissued, creation, rfl⟩
  refine ⟨?_, fun _ _ submitted => submitted_untold nonempty unissued submitted⟩
  intro survives
  rcases submitted_after_creation creation unissued with ⟨response, submitted⟩
  exact submitted_untold nonempty unissued submitted (survives _ _ submitted)

/-! ## A single request and a batch -/

def returningRequest : Json :=
  .obj [("variables", .obj [("redirectUrl", .str "https://app.example/done")])]

def returningExchange : Exchange :=
  createExchange {} (Answers.plain.skip 2 0 0) (.didAuth {
    exchangeHost := "http://localhost:4004", tenantName := some "default" })

theorem redirect_lost_single :
    CreatedFor Runtime.plain {} "https://app.example/done" returningExchange ∧
      ¬ RedirectSurvives Runtime.plain {} "https://app.example/done" returningExchange := by
  have created : createdByRequest Runtime.plain {} Answers.plain "didAuth" none
      (some returningRequest) = .ok returningExchange := rfl
  have createdFor : CreatedFor Runtime.plain {} "https://app.example/done" returningExchange :=
    .single (.inl rfl) rfl created
  exact ⟨createdFor, (redirect_never_survives createdFor (by decide)).1⟩

def returningBatch : Json :=
  .obj [("exchangeHost", .str "http://localhost:4004"), ("data", .arr [.obj [
    ("vc", .str "the credential"), ("retrievalId", .str "first"),
    ("redirectUrl", .str "https://app.example/done")]])]

def batchedCreation : Creation where
  data := .didAuth {
    exchangeHost := "http://localhost:4004", tenantName := some "default"
    retrievalId := some "first" }
  answers := Answers.plain.skip 1 0 0

def batchedExchange : Exchange :=
  createExchange {} batchedCreation.answers batchedCreation.data

/-- The batch is accepted, and a submission to the exchange it creates is answered
with an empty URL. -/
theorem redirect_lost_batch :
    CreatedFor Runtime.plain {} "https://app.example/done" batchedExchange ∧
      ¬ RedirectSurvives Runtime.plain {} "https://app.example/done" batchedExchange := by
  have created : createdByBatch Runtime.plain {} Answers.plain none (some returningBatch) =
      .ok [batchedExchange] := rfl
  have isOwn : [batchedExchange][0]? = some batchedExchange := rfl
  refine ⟨.batch rfl (by rfl) (by rfl) created isOwn rfl, ?_⟩
  intro survives
  have unissued : (createExchange {} batchedCreation.answers
      batchedCreation.data).workflowId ≠ .claim := fun impossible => nomatch impossible
  rcases submitted_after_creation batchedCreation unissued with ⟨response, submitted⟩
  exact submitted_untold (by decide) unissued submitted (survives _ _ submitted)

end

end TransactionService.RedirectUrl
