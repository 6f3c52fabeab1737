import TransactionService.Routes.Creation

namespace TransactionService.VcTemplates

open Fallible Schema

/-! # Credential templates given as objects

A record of a batch may carry its template as an object or as the text of one. -/

structure BatchRequest where
  members : List (String × Json)
  before : List Json := []
  record : List (String × Json)
  after : List Json := []

def BatchRequest.carrying (request : BatchRequest) (vc : Json) : Json :=
  .obj (("data", .arr (request.before ++ .obj (("vc", vc) :: request.record) :: request.after)) ::
    request.members)

section

variable (runtime : Runtime)

/-- The exchanges differ at most in the text of a template, not in its value. -/
def SameButTemplate : Exchange → Exchange → Prop
  | .claim left, .claim right =>
      right = { left with vars := { left.vars with vc := right.vars.vc } } ∧
        runtime.parseJson left.vars.vc = runtime.parseJson right.vars.vc
  | left, right => left = right

structure BatchAgrees (template : Json) : Prop where
  accepted : ∀ config answers authorization (request : BatchRequest),
    Succeeds (createdByBatch runtime config answers authorization
        (some (request.carrying template))) ↔
      Succeeds (createdByBatch runtime config answers authorization
        (some (request.carrying (.str (runtime.stringify template)))))
  created : ∀ config answers authorization (request : BatchRequest) fromObject fromText,
    createdByBatch runtime config answers authorization
        (some (request.carrying template)) = .ok fromObject →
    createdByBatch runtime config answers authorization
        (some (request.carrying (.str (runtime.stringify template)))) = .ok fromText →
    List.Forall₂ (SameButTemplate runtime) fromObject fromText

/-- The schema makes a text of an object that can be parsed back, and a batch does
not see the difference. -/
structure TemplateFormsAgree (template : Json) : Prop where
  record : ∀ members data,
    credentialDataSchema runtime (.obj (("vc", template) :: members)) = some data →
    ∃ text, data.vc = some text ∧ runtime.parseJson text = some template
  batch : BatchAgrees runtime template

def isBatchTemplate (text : String) : Bool :=
  (Text.given (some text)).any (isCredentialTemplate runtime)

end

section

variable {runtime : Runtime} {config : Config} {answers : Answers}

theorem sameButTemplate_refl (exchange : Exchange) :
    SameButTemplate runtime exchange exchange := by
  cases exchange with
  | claim detail => exact ⟨rfl, rfl⟩
  | didAuth detail => exact rfl
  | verify detail => exact rfl

/-! ## One record -/

theorem optionalMember_vc {value : Json} {text : String}
    (isText : credentialVcSchema runtime value = some text) (record : List (String × Json)) :
    optionalMember (.obj (("vc", value) :: record)) "vc" (credentialVcSchema runtime) =
      some (some text) := by
  have isField : (Json.obj (("vc", value) :: record)).field "vc" = some value := by
    simp [Json.field]
  rw [optionalMember, isField]
  simp [isText]

theorem credentialDataSchema_vc {vc other : Json} {text otherText : String}
    (isText : credentialVcSchema runtime vc = some text)
    (isOther : credentialVcSchema runtime other = some otherText)
    (record : List (String × Json)) :
    credentialDataSchema runtime (.obj (("vc", other) :: record)) =
      (credentialDataSchema runtime (.obj (("vc", vc) :: record))).map fun data =>
        { data with vc := some otherText } := by
  have sameField : ∀ name ≠ "vc", ∀ value : Json,
      (Json.obj (("vc", value) :: record)).field name = record.lookup name := by
    intro name different value
    have unequal : (name == "vc") = false := beq_eq_false_iff_ne.mpr different
    rw [Json.field, List.lookup_cons, unequal]
  unfold credentialDataSchema
  rw [optionalMember_vc isText, optionalMember_vc isOther]
  simp only [requiredMember, optionalMember, sameField, ne_eq, String.reduceEq,
    not_false_eq_true, Option.isSome_some, Bool.true_or, if_true, Option.bind_eq_bind,
    Option.bind_some]
  cases (record.lookup "retrievalId").bind Json.asString? with
  | none => rfl
  | some retrievalId =>
      cases record.lookup "redirectUrl" with
      | none => rfl
      | some redirectUrl => cases isUrl : redirectUrl.asString? <;> simp [isUrl]

theorem credentialDataSchema_keeps {value : Json} {text : String}
    (isText : credentialVcSchema runtime value = some text) {record : List (String × Json)}
    {data : CredentialData}
    (isRead : credentialDataSchema runtime (.obj (("vc", value) :: record)) = some data) :
    data.vc = some text := by
  rw [credentialDataSchema_vc isText isText] at isRead
  rcases Option.map_eq_some_iff.mp isRead with ⟨_, -, rfl⟩
  rfl

theorem validateExchangeClaim_unfit {now : Timestamp} {input : ExchangeCreateInput}
    (unfit : input.vars.vc.any (isCredentialTemplate runtime) = false) :
    validateExchangeClaim runtime now input = .error .zodError := by
  apply orZodError_refused
  intro data validated
  rcases validateExchangeClaim_ok validated with ⟨vc, _, isVc, isTemplate, -⟩
  rw [isVc, Option.any_some, isTemplate] at unfit
  cases unfit

private theorem batchCreateData_unfit {data : ExchangeBatch} {workflowId : WorkflowId}
    {item : CredentialData} {text otherText : String} (isText : item.vc = some text)
    (unfit : isBatchTemplate runtime text = false)
    (otherUnfit : isBatchTemplate runtime otherText = false) :
    batchCreateData runtime answers data workflowId { item with vc := some otherText } =
      batchCreateData runtime answers data workflowId item := by
  cases workflowId with
  | didAuth => rfl
  | verify => rfl
  | claim =>
      unfold batchCreateData
      simp only [isText]
      refine congrArg (· >>= _) ?_
      exact Eq.trans (validateExchangeClaim_unfit otherUnfit)
        (Eq.symm (validateExchangeClaim_unfit unfit))

/-! ## One record among others -/

private theorem mapM_middle {α β : Type} (read : α → Option β) (before : List α) (item : α)
    (after : List α) :
    (before ++ item :: after).mapM read = do
      let earlier ← before.mapM read
      let value ← read item
      let later ← after.mapM read
      return earlier ++ value :: later := by
  rw [List.mapM_append, List.mapM_cons]
  simp [Option.bind_assoc]

private theorem batchExchanges_congr {data other : ExchangeBatch} {workflowId : WorkflowId}
    (alike : ∀ item, batchCreateData runtime answers data workflowId item =
      batchCreateData runtime answers other workflowId item)
    {item otherItem : CredentialData}
    (same : batchCreateData runtime answers data workflowId item =
      batchCreateData runtime answers data workflowId otherItem)
    (before after : List CredentialData) (index : Nat) :
    batchExchanges runtime config answers data workflowId index (before ++ item :: after) =
      batchExchanges runtime config answers other workflowId index
        (before ++ otherItem :: after) := by
  have sameItems : ∀ items index,
      batchExchanges runtime config answers data workflowId index items =
        batchExchanges runtime config answers other workflowId index items := by
    intro items
    induction items with
    | nil => exact fun _ => rfl
    | cons first rest induction =>
        intro index
        rw [batchExchanges, batchExchanges, alike, induction]
  induction before generalizing index with
  | nil =>
      rw [List.nil_append, List.nil_append, batchExchanges, batchExchanges, same, alike,
        sameItems]
  | cons first rest induction =>
      rw [List.cons_append, List.cons_append, batchExchanges, batchExchanges, alike,
        induction]

private theorem BatchRequest.field_carrying (request : BatchRequest) (value : Json) {name : String}
    (different : name ≠ "data") :
    (request.carrying value).field name = (Json.obj request.members).field name := by
  have unequal : (name == "data") = false := beq_eq_false_iff_ne.mpr different
  rw [carrying, Json.field, Json.field, List.lookup_cons, unequal]

theorem exchangeBatchSchema_carrying (request : BatchRequest) (now : Timestamp)
    (value : Json) :
    exchangeBatchSchema runtime now (request.carrying value) = orZodError (do
      let exchangeHost ← requiredMember (.obj request.members) "exchangeHost" Json.asString?
      let tenantName ← optionalMember (.obj request.members) "tenantName" Json.asString?
      let batchId ← optionalMember (.obj request.members) "batchId" Json.asString?
      let workflowId ← optionalMember (.obj request.members) "workflowId" batchWorkflowSchema
      let earlier ← request.before.mapM (credentialDataSchema runtime)
      let item ← credentialDataSchema runtime (.obj (("vc", value) :: request.record))
      let later ← request.after.mapM (credentialDataSchema runtime)
      let _expires ← expiresSchema runtime now (.obj request.members)
      let data := earlier ++ item :: later
      if data.any (·.subjectData.isSome) = (Text.given batchId).isSome then
        some { exchangeHost, tenantName, batchId, workflowId, data }
      else none) := by
  have isData : requiredMember (request.carrying value) "data"
      (readArray (credentialDataSchema runtime)) =
      (request.before ++ .obj (("vc", value) :: request.record) :: request.after).mapM
        (credentialDataSchema runtime) := rfl
  unfold exchangeBatchSchema expiresSchema
  rw [isData, mapM_middle]
  simp only [requiredMember, optionalMember, request.field_carrying value, ne_eq,
    String.reduceEq, not_false_eq_true, bind_assoc, pure_bind]

section

variable {vc other : Json} {text otherText : String} {request : BatchRequest}

private theorem exchangeBatchSchema_vc (isText : credentialVcSchema runtime vc = some text)
    (isOther : credentialVcSchema runtime other = some otherText) {now : Timestamp}
    {batch : ExchangeBatch}
    (accepted : exchangeBatchSchema runtime now (request.carrying vc) = .ok batch) :
    ∃ earlier item later, item.vc = some text ∧ batch.data = earlier ++ item :: later ∧
      exchangeBatchSchema runtime now (request.carrying other) =
        .ok { batch with data := earlier ++ { item with vc := some otherText } :: later } := by
  rw [exchangeBatchSchema_carrying, orZodError_eq_ok] at accepted
  rcases Option.bind_eq_some_iff.mp accepted with ⟨exchangeHost, isHost, accepted⟩
  rcases Option.bind_eq_some_iff.mp accepted with ⟨tenantName, isTenantName, accepted⟩
  rcases Option.bind_eq_some_iff.mp accepted with ⟨batchId, isBatchId, accepted⟩
  rcases Option.bind_eq_some_iff.mp accepted with ⟨workflowId, isWorkflowId, accepted⟩
  rcases Option.bind_eq_some_iff.mp accepted with ⟨earlier, isEarlier, accepted⟩
  rcases Option.bind_eq_some_iff.mp accepted with ⟨item, isItem, accepted⟩
  rcases Option.bind_eq_some_iff.mp accepted with ⟨later, isLater, accepted⟩
  rcases Option.bind_eq_some_iff.mp accepted with ⟨_, isExpires, accepted⟩
  rcases Option.ite_none_right_eq_some.mp accepted with ⟨hasBatchId, same⟩
  cases same
  refine ⟨earlier, item, later, credentialDataSchema_keeps isText isItem, rfl, ?_⟩
  rw [exchangeBatchSchema_carrying, credentialDataSchema_vc isText isOther, orZodError_eq_ok,
    isHost, isTenantName, isBatchId, isWorkflowId, isEarlier, isItem, isLater, isExpires]
  rw [List.any_append, List.any_cons] at hasBatchId
  simp [hasBatchId]

theorem createdByBatch_unfit (isText : credentialVcSchema runtime vc = some text)
    (isOther : credentialVcSchema runtime other = some otherText)
    (unfit : isBatchTemplate runtime text = false)
    (otherUnfit : isBatchTemplate runtime otherText = false)
    {authorization : Option String} {exchanges : List Exchange}
    (created : createdByBatch runtime config answers authorization
      (some (request.carrying vc)) = .ok exchanges) :
    createdByBatch runtime config answers authorization (some (request.carrying other)) =
      .ok exchanges := by
  rcases bind_eq_ok.mp created with ⟨data, accepted, made⟩
  rcases acceptExchangeBatch_eq_ok.mp accepted with
    ⟨authTenant, _, batch, tenantName, isTenant, isBody, isBatch, resolved, rfl⟩
  cases isBody
  rcases exchangeBatchSchema_vc isText isOther isBatch with
    ⟨earlier, item, later, hasText, isData, isOtherBatch⟩
  have otherAccepted : acceptExchangeBatch runtime config answers authorization
      (some (request.carrying other)) = .ok { batch with
        tenantName
        data := earlier ++ { item with vc := some otherText } :: later } :=
    acceptExchangeBatch_eq_ok.mpr
      ⟨authTenant, _, _, tenantName, isTenant, rfl, isOtherBatch, resolved, rfl⟩
  refine bind_eq_ok.mpr ⟨_, otherAccepted, ?_⟩
  rw [← made, isData]
  refine (batchExchanges_congr ?_ ?_ earlier later 0).symm
  · exact fun _ => rfl
  · exact (batchCreateData_unfit hasText unfit otherUnfit).symm

end

/-! ## When the forms agree -/

def claimRequest : BatchRequest where
  members := [("exchangeHost", .str "http://localhost"), ("workflowId", .str "claim")]
  record := [("retrievalId", .str "first")]

theorem claimRequest_accepted {vc : Json} {text : String}
    (isText : credentialVcSchema runtime vc = some text) :
    Succeeds (createdByBatch runtime {} Answers.plain none
      (some (claimRequest.carrying vc))) ↔ isBatchTemplate runtime text = true := by
  have ownText : credentialVcSchema runtime (.str text) = some text := rfl
  have item : credentialDataSchema runtime (.obj (("vc", vc) :: claimRequest.record)) =
      some { vc := some text, retrievalId := "first" } :=
    credentialDataSchema_vc ownText isText claimRequest.record
  have parsed : exchangeBatchSchema runtime 0 (claimRequest.carrying vc) = .ok {
      exchangeHost := "http://localhost", workflowId := some .claim
      data := [{ vc := some text, retrievalId := "first" }] } := by
    rw [exchangeBatchSchema_carrying, item]
    rfl
  have accepted : acceptExchangeBatch runtime {} Answers.plain none
      (some (claimRequest.carrying vc)) = .ok {
        exchangeHost := "http://localhost", tenantName := some "default"
        workflowId := some .claim, data := [{ vc := some text, retrievalId := "first" }] } :=
    acceptExchangeBatch_eq_ok.mpr ⟨none, _, _, _, rfl, rfl, parsed, rfl, rfl⟩
  unfold isBatchTemplate
  constructor
  · rintro ⟨exchanges, created⟩
    rcases bind_eq_ok.mp created with ⟨data, isData, made⟩
    cases accepted.symm.trans isData
    rcases bind_eq_ok.mp made with ⟨itemData, isItem, -⟩
    rcases bind_eq_ok.mp isItem with ⟨validated, isValidated, -⟩
    rcases validateExchangeClaim_ok isValidated with ⟨template, _, isVc, isTemplate, -⟩
    rw [show Text.given (some text) = some template from isVc]
    exact isTemplate
  · intro fits
    cases isVc : Text.given (some text) with
    | none =>
        rw [isVc] at fits
        cases fits
    | some template =>
        rw [isVc, Option.any_some] at fits
        have isItem : batchCreateData runtime Answers.plain {
            exchangeHost := "http://localhost", tenantName := some "default"
            workflowId := some .claim, data := [] } .claim
            { vc := some text, retrievalId := "first" } = .ok _ :=
          bind_eq_ok.mpr ⟨_, validateExchangeClaim_accepts isVc rfl rfl fits, rfl⟩
        exact ⟨_, bind_eq_ok.mpr ⟨_, accepted, bind_eq_ok.mpr ⟨_, isItem, rfl⟩⟩⟩

theorem empty_unfit
    (parsesEmpty : runtime.parseJson (runtime.stringify (.obj [])) = some (.obj [])) :
    isBatchTemplate runtime (runtime.stringify (.obj [])) = false := by
  have unfit : isCredentialTemplate runtime (runtime.stringify (.obj [])) = false := by
    rw [isCredentialTemplate, parsesEmpty]
    rfl
  unfold isBatchTemplate Text.given
  by_cases empty : runtime.stringify (.obj []) = ""
  · simp [empty]
  · simp [empty, unfit]

theorem batch_agrees_iff
    (parsesEmpty : runtime.parseJson (runtime.stringify (.obj [])) = some (.obj []))
    (members : List (String × Json)) :
    BatchAgrees runtime (.obj members) ↔
      isBatchTemplate runtime (runtime.stringify (.obj members)) = false := by
  have isObject : credentialVcSchema runtime (.obj members) =
      some (runtime.stringify (.obj [])) := rfl
  have isText : credentialVcSchema runtime (.str (runtime.stringify (.obj members))) =
      some (runtime.stringify (.obj members)) := rfl
  have emptyUnfit := empty_unfit parsesEmpty
  constructor
  · intro agree
    have same := agree.accepted {} Answers.plain none claimRequest
    rw [claimRequest_accepted isObject, claimRequest_accepted isText, emptyUnfit] at same
    simpa using same
  · intro unfit
    constructor
    · intro config answers authorization request
      constructor
      · rintro ⟨exchanges, created⟩
        exact ⟨exchanges, createdByBatch_unfit isObject isText emptyUnfit unfit created⟩
      · rintro ⟨exchanges, created⟩
        exact ⟨exchanges, createdByBatch_unfit isText isObject unfit emptyUnfit created⟩
    · intro config answers authorization request fromObject fromText object text
      have same := createdByBatch_unfit isObject isText emptyUnfit unfit object
      cases same.symm.trans text
      exact List.forall₂_same.mpr fun exchange _ => sameButTemplate_refl exchange

/-- Of all objects the empty one alone keeps its meaning: the schema strips the
members of any other. -/
theorem template_forms_agree_iff
    (parsesEmpty : runtime.parseJson (runtime.stringify (.obj [])) = some (.obj []))
    (members : List (String × Json)) :
    TemplateFormsAgree runtime (.obj members) ↔ members = [] := by
  constructor
  · intro agree
    rcases agree.record [("retrievalId", .str "first")] _ rfl with ⟨text, isText, parsed⟩
    cases isText
    rw [parsesEmpty] at parsed
    cases parsed
    rfl
  · rintro rfl
    refine ⟨?_, (batch_agrees_iff parsesEmpty []).mpr (empty_unfit parsesEmpty)⟩
    intro record data isRead
    exact ⟨_, credentialDataSchema_keeps rfl isRead, parsesEmpty⟩

/-! ## A template with its type -/

def templateText : String := "\x7b\"type\":[\"VerifiableCredential\"]\x7d"

def template : Json := .obj [("type", .arr [.str "VerifiableCredential"])]

def templateRuntime : Runtime :=
  { Runtime.plain with
    stringify := fun value =>
      match value with
      | .obj [] => "\x7b\x7d"
      | _ => templateText
    parseJson := fun text =>
      if text = "\x7b\x7d" then some (.obj [])
      else if text = templateText then some template
      else none }

theorem empty_template_agrees :
    templateRuntime.parseJson (templateRuntime.stringify (.obj [])) = some (.obj []) ∧
      TemplateFormsAgree templateRuntime (.obj []) :=
  ⟨rfl, (template_forms_agree_iff rfl []).mpr rfl⟩

/-- As an object the template loses its type, and the claim workflow refuses what
it accepts as text. -/
theorem object_template_refused :
    ¬ TemplateFormsAgree templateRuntime template ∧
      Succeeds (createdByBatch templateRuntime {} Answers.plain none
        (some (claimRequest.carrying (.str templateText)))) ∧
      ¬ Succeeds (createdByBatch templateRuntime {} Answers.plain none
        (some (claimRequest.carrying template))) := by
  refine ⟨?_, ?_, ?_⟩
  · intro agree
    rcases agree.record [("retrievalId", .str "first")] _ rfl with ⟨text, isText, parsed⟩
    cases isText
    cases parsed
  · exact (claimRequest_accepted rfl).mpr (by decide)
  · intro accepted
    exact absurd ((claimRequest_accepted rfl).mp accepted) (by decide)

end

end TransactionService.VcTemplates
