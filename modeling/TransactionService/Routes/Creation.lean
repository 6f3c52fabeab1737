import TransactionService.Routes
import TransactionService.Workflows.CreationSchema

namespace TransactionService

open Fallible

/-! # Creating exchanges

`createExchangeVcapi` and `createExchangeBatch` of `exchanges.ts`, with their
routes. -/

/-! ## Several writes -/

structure Outcome (α : Type) where
  saved : List Exchange := []
  result : Except Thrown α

namespace Outcome

def ofExcept (result : Except Thrown α) : Outcome α :=
  { result }

def ofHandler (handler : Handler α) : Outcome α where
  saved := handler.saved.toList
  result := handler.result

def andThen (first : Outcome α) (next : α → Outcome β) : Outcome β :=
  match first.result with
  | .error thrown => { saved := first.saved, result := .error thrown }
  | .ok value =>
      { saved := first.saved ++ (next value).saved, result := (next value).result }

theorem mem_saved_andThen {first : Outcome α} {next : α → Outcome β} {exchange : Exchange}
    (saved : exchange ∈ (first.andThen next).saved) :
    exchange ∈ first.saved ∨
      ∃ value, first.result = .ok value ∧ exchange ∈ (next value).saved := by
  unfold andThen at saved
  split at saved
  · exact .inl saved
  · rename_i value answer
    rcases List.mem_append.mp saved with earlier | later
    · exact .inl earlier
    · exact .inr ⟨value, answer, later⟩

end Outcome

/-- What is answered once some readings of the clock, some ids and some writes
have been used. -/
def Answers.skip (answers : Answers) (clocks ids writes : Nat) : Answers :=
  { answers with
    clock := fun index => answers.clock (clocks + index)
    randomUUID := fun index => answers.randomUUID (ids + index)
    accepted := fun index => answers.accepted (writes + index) }

/-! ## Tenants -/

def resolveExchangeTenant (bodyTenantName : Option String)
    (authTenant : Option TenantEntry) (defaultTenantName : String) :
    Except Thrown (Option String) :=
  match authTenant with
  | some tenant =>
      if (Text.given bodyTenantName).any (some · ≠ tenant.tenantName) then
        .error (.http { status := 401, message := "Unauthorized" })
      else .ok tenant.tenantName
  | none => .ok (some (bodyTenantName.getD defaultTenantName))

/-- The JSON validator; `none` stands for a body that is not JSON. -/
def validateJson (body : Option Json) : Except Thrown Json :=
  match body with
  | some value => .ok value
  | none => .error (.http {
      status := 400
      message := "Malformed JSON in request body" })

section

variable (runtime : Runtime) (config : Config) (answers : Answers)

/-! ## One exchange -/

/-- The exchange that a workflow makes of the data. A workflow that is only the
name of something every object inherits makes none. -/
def newExchange (workflowId : String) (data : ExchangeCreateInput) :
    Except Thrown Exchange :=
  match WorkflowId.ofText? workflowId with
  | none => .error (.error "Cannot read properties of undefined")
  | some .didAuth =>
      .ok (createExchange config (answers.skip 2 0 0) (.didAuth data.didAuthData))
  | some .claim => do
      let validated ← validateExchangeClaim runtime (answers.clock 1) data
      return createExchange config (answers.skip 2 0 0) (.claim validated)
  | some .verify => do
      let validated ← validateExchangeVerify runtime (answers.clock 1) data
      return createExchange config (answers.skip 2 0 0) (.verify validated)

/-- The links are put together after the exchange has been saved. -/
def saveAndLink (exchange : Exchange) : Handler Json := do
  saveExchange answers exchange
  let protocols ← Action.ofExcept (getProtocols runtime exchange)
  return protocols.toJson

def createExchangeVcapi (workflowId : String) (data : ExchangeCreateInput) :
    Handler Json := do
  let exchange ← Action.ofExcept (newExchange runtime config answers workflowId data)
  saveAndLink runtime answers exchange

def acceptExchangeCreate (workflowId : String) (authorization : Option String)
    (body : Option Json) : Except Thrown ExchangeCreateInput := do
  let authTenant ← authenticateTenantMiddleware runtime config authorization
  let inputData ← validateJson body
  addWorkflowByParam workflowId
  let data ← vcApiExchangeCreateSchema runtime (answers.clock 0) inputData
  let tenantName ← resolveExchangeTenant data.vars.tenantName authTenant
    config.defaultTenantName
  return { data with vars := { data.vars with tenantName } }

def exchangeCreateRoute (workflowId : String) (authorization : Option String)
    (body : Option Json) : Handler Response := do
  let data ← Action.ofExcept
    (acceptExchangeCreate runtime config answers workflowId authorization body)
  json <$> createExchangeVcapi runtime config answers workflowId data

/-! ## A batch -/

/-- What one item of a batch creates. An empty or falsy member counts as
missing, and an item of a batch has no `variables` for the verify workflow. -/
def batchCreateData (data : ExchangeBatch) (workflowId : WorkflowId) (item : CredentialData) :
    Except Thrown CreateData :=
  let shared : VariablesInput := {
    exchangeHost := data.exchangeHost
    tenantName := data.tenantName
    batchId := data.batchId
    retrievalId := Text.given (some item.retrievalId) }
  match workflowId with
  | .claim => do
      let validated ← validateExchangeClaim runtime (answers.clock 0) {
        vars := { shared with
          vc := Text.given item.vc
          subjectData := item.subjectData.filter Json.isTruthy
          metadata := item.metadata.filter Json.isTruthy } }
      return .claim validated
  | .didAuth => do
      let validated ← validateExchangeDidAuth (answers.clock 0) { vars := shared }
      return .didAuth validated
  | .verify => .error .zodError

/-- All exchanges are made before the first one is saved. -/
def batchExchanges (data : ExchangeBatch) (workflowId : WorkflowId) :
    (index : Nat) → List CredentialData → Except Thrown (List Exchange)
  | _, [] => .ok []
  | index, item :: rest => do
      let created ← batchCreateData runtime answers data workflowId item
      let later ← batchExchanges data workflowId (index + 1) rest
      return createExchange config (answers.skip (index + 1) (2 * index) 0) created :: later

def batchExchange (index : Nat) (created : CreateData) : Exchange :=
  createExchange config (answers.skip (index + 1) (2 * index) 0) created

def saveAll : (index : Nat) → List Exchange → Outcome Unit
  | _, [] => .ofExcept (.ok ())
  | index, exchange :: rest =>
      (Outcome.ofHandler (saveExchange (answers.skip 0 0 index) exchange)).andThen fun _ =>
        saveAll (index + 1) rest

def walletQuery (exchange : Exchange) : Except Thrown Json := do
  let protocols ← getProtocols runtime exchange
  let vars := exchange.baseVariables
  return .obj (
    [("iu", .str protocols.iu)] ++
    (vars.retrievalId.toList.map fun retrievalId => ("retrievalId", .str retrievalId)) ++
    [("directDeepLink", .str protocols.lcw), ("vprDeepLink", .str protocols.lcw),
      ("chapiVPR", protocols.verifiablePresentationRequest)] ++
    vars.metadata.toList.map fun metadata => ("metadata", metadata))

def walletQueries : List Exchange → Except Thrown (List Json)
  | [] => .ok []
  | exchange :: rest => do
      let query ← walletQuery runtime exchange
      let later ← walletQueries rest
      return query :: later

def createExchangeBatch (data : ExchangeBatch) (workflowId : WorkflowId) : Outcome Json :=
  (Outcome.ofExcept (batchExchanges runtime config answers data workflowId 0 data.data)).andThen
    fun exchangeRequests =>
      (saveAll answers 0 exchangeRequests).andThen fun _ =>
        .ofExcept (Json.arr <$> walletQueries runtime exchangeRequests)

def acceptExchangeBatch (authorization : Option String) (body : Option Json) :
    Except Thrown ExchangeBatch := do
  let authTenant ← authenticateTenantMiddleware runtime config authorization
  let inputData ← validateJson body
  let data ← exchangeBatchSchema runtime (answers.clock 0) inputData
  let tenantName ← resolveExchangeTenant data.tenantName authTenant config.defaultTenantName
  return { data with tenantName }

/-- The workflow of a batch that does not name one is `didAuth`. -/
def exchangeBatchCreateRoute (authorization : Option String) (body : Option Json) :
    Outcome Response :=
  (Outcome.ofExcept (acceptExchangeBatch runtime config answers authorization body)).andThen
    fun data =>
      (createExchangeBatch runtime config answers data
        (data.workflowId.getD .didAuth)).andThen fun queries => .ofExcept (.ok (json queries))

/-! ## What is created and saved -/

def createdByBatch (authorization : Option String) (body : Option Json) :
    Except Thrown (List Exchange) := do
  let data ← acceptExchangeBatch runtime config answers authorization body
  batchExchanges runtime config answers data (data.workflowId.getD .didAuth) 0 data.data

def createdByRequest (workflowId : String) (authorization : Option String)
    (body : Option Json) : Except Thrown Exchange := do
  let data ← acceptExchangeCreate runtime config answers workflowId authorization body
  newExchange runtime config answers workflowId data

end

section

variable {runtime : Runtime} {config : Config} {answers : Answers} {exchange : Exchange}
  {exchanges : List Exchange}

theorem validateJson_ok {body : Option Json} {inputData : Json}
    (validated : validateJson body = .ok inputData) : body = some inputData := by
  cases body with
  | none => cases validated
  | some value =>
      cases validated
      rfl

theorem walletQueries_succeeds :
    Succeeds (walletQueries runtime exchanges) ↔
      ∀ exchange ∈ exchanges, Linkable runtime exchange := by
  induction exchanges with
  | nil => simp [walletQueries, Succeeds]
  | cons first rest induction =>
      have query : Succeeds (walletQuery runtime first) ↔ Linkable runtime first :=
        (succeeds_map _).trans getProtocols_succeeds
      have both : Succeeds (walletQueries runtime (first :: rest)) ↔
          Succeeds (walletQuery runtime first) ∧ Succeeds (walletQueries runtime rest) :=
        succeeds_bind fun _ => succeeds_map _
      rw [both, query, induction, List.forall_mem_cons]

theorem walletQueries_failsOnly :
    FailsOnly IsUnexpected (walletQueries runtime exchanges) := by
  induction exchanges with
  | nil => exact .ok _
  | cons first rest induction =>
      exact ((getProtocols_failsOnly first).bind fun _ => .ok _).bind fun _ =>
        induction.bind fun _ => .ok _

theorem saveAll_succeeds {index : Nat} :
    Succeeds (saveAll answers index exchanges).result ↔
      ∀ offset < exchanges.length, answers.accepted (index + offset) = true := by
  induction exchanges generalizing index with
  | nil => simp [saveAll, Outcome.ofExcept, Succeeds]
  | cons first rest induction =>
      have isAccepted : (answers.skip 0 0 index).accepted 0 = answers.accepted index := rfl
      have onRest : Succeeds (saveAll answers (index + 1) rest).result ↔
          ∀ offset < rest.length, answers.accepted (index + (offset + 1)) = true := by
        rw [induction]
        refine forall_congr' fun offset => ?_
        rw [Nat.add_assoc, Nat.add_comm 1 offset]
      rw [List.length_cons, Nat.forall_lt_succ_left, ← onRest]
      cases accepted : answers.accepted index with
      | false =>
          simp [saveAll, saveExchange, isAccepted, accepted, Outcome.andThen,
            Outcome.ofHandler, throwHttp, Action.fail, Succeeds]
      | true =>
          simp [saveAll, saveExchange, isAccepted, accepted, Outcome.andThen,
            Outcome.ofHandler, Action.save]

theorem saveAll_saved {index : Nat}
    (succeeds : Succeeds (saveAll answers index exchanges).result) :
    (saveAll answers index exchanges).saved = exchanges := by
  induction exchanges generalizing index with
  | nil => rfl
  | cons first rest induction =>
      have accepted : (answers.skip 0 0 index).accepted 0 = true :=
        saveAll_succeeds.mp succeeds 0 (Nat.zero_lt_succ _)
      simp only [saveAll, saveExchange_eq accepted, Outcome.andThen, Outcome.ofHandler,
        Action.save] at succeeds ⊢
      rw [induction succeeds]
      rfl

private theorem saveAll_accepted (accepts : ∀ index, answers.accepted index = true) (index : Nat) :
    saveAll answers index exchanges = { saved := exchanges, result := .ok () } := by
  have succeeds : Succeeds (saveAll answers index exchanges).result :=
    saveAll_succeeds.mpr fun offset _ => accepts (index + offset)
  have saved := saveAll_saved succeeds
  rcases succeeds with ⟨_, result⟩
  cases outcome : saveAll answers index exchanges
  rw [outcome] at saved result
  cases saved
  cases result
  rfl

/-! Exchanges and items of a batch correspond by their positions. -/

theorem batchExchanges_succeeds {data : ExchangeBatch} {workflowId : WorkflowId} {index : Nat}
    {items : List CredentialData} :
    Succeeds (batchExchanges runtime config answers data workflowId index items) ↔
      ∀ item ∈ items, Succeeds (batchCreateData runtime answers data workflowId item) := by
  induction items generalizing index with
  | nil => simp [batchExchanges, Succeeds]
  | cons item rest induction =>
      have both : Succeeds (batchExchanges runtime config answers data workflowId index
          (item :: rest)) ↔
          Succeeds (batchCreateData runtime answers data workflowId item) ∧
            Succeeds (batchExchanges runtime config answers data workflowId (index + 1) rest) :=
        succeeds_bind fun _ => succeeds_map _
      rw [both, induction, List.forall_mem_cons]

theorem batchExchanges_at {data : ExchangeBatch} {workflowId : WorkflowId} {index : Nat}
    {items : List CredentialData}
    (made : batchExchanges runtime config answers data workflowId index items =
      .ok exchanges) :
    exchanges.length = items.length ∧
      ∀ (offset : Nat) (item : CredentialData) (exchange : Exchange),
        items[offset]? = some item → exchanges[offset]? = some exchange →
        ∃ created, batchCreateData runtime answers data workflowId item = .ok created ∧
          exchange = batchExchange config answers (index + offset) created := by
  induction items generalizing index exchanges with
  | nil =>
      cases made
      exact ⟨rfl, fun _ _ _ isItem => nomatch isItem⟩
  | cons item rest induction =>
      rcases bind_eq_ok.mp made with ⟨created, isCreated, afterData⟩
      rcases bind_eq_ok.mp afterData with ⟨later, isLater, returned⟩
      cases returned
      rcases induction isLater with ⟨sameLength, each⟩
      refine ⟨congrArg (· + 1) sameLength, ?_⟩
      intro offset
      cases offset with
      | zero =>
          intro first exchange isFirst isExchange
          cases isFirst
          cases isExchange
          exact ⟨created, isCreated, rfl⟩
      | succ offset =>
          intro other exchange isOther isExchange
          rw [Nat.add_comm offset 1, ← Nat.add_assoc]
          exact each offset other exchange isOther isExchange

theorem batchExchanges_each {data : ExchangeBatch} {workflowId : WorkflowId} {index : Nat}
    {items : List CredentialData}
    (made : batchExchanges runtime config answers data workflowId index items =
      .ok exchanges) :
    ∀ exchange ∈ exchanges, ∃ item created position,
      batchCreateData runtime answers data workflowId item = .ok created ∧
      exchange = batchExchange config answers position created := by
  intro exchange member
  rcases batchExchanges_at made with ⟨sameLength, each⟩
  rcases List.mem_iff_getElem?.mp member with ⟨offset, isExchange⟩
  rcases List.getElem?_eq_some_iff.mp isExchange with ⟨inRange, -⟩
  rw [sameLength] at inRange
  rcases each offset _ exchange (List.getElem?_eq_getElem inRange) isExchange with
    ⟨created, isCreated, isMade⟩
  exact ⟨_, created, _, isCreated, isMade⟩

theorem walletQueries_at {queries : List Json}
    (answered : walletQueries runtime exchanges = .ok queries) :
    queries.length = exchanges.length ∧
      ∀ (offset : Nat) (exchange : Exchange) (query : Json),
        exchanges[offset]? = some exchange → queries[offset]? = some query →
        walletQuery runtime exchange = .ok query := by
  induction exchanges generalizing queries with
  | nil =>
      cases answered
      exact ⟨rfl, fun _ _ _ isExchange => nomatch isExchange⟩
  | cons first rest induction =>
      rcases bind_eq_ok.mp answered with ⟨query, isQuery, afterQuery⟩
      rcases bind_eq_ok.mp afterQuery with ⟨later, isLater, returned⟩
      cases returned
      rcases induction isLater with ⟨sameLength, each⟩
      refine ⟨congrArg (· + 1) sameLength, ?_⟩
      intro offset
      cases offset with
      | zero =>
          intro exchange other isExchange isOther
          cases isExchange
          cases isOther
          exact isQuery
      | succ offset => exact each offset

theorem batchExchanges_drawn {data : ExchangeBatch} {workflowId : WorkflowId} {index : Nat}
    {items : List CredentialData}
    (created : batchExchanges runtime config answers data workflowId index items =
      .ok exchanges) :
    ∀ exchange ∈ exchanges, ∃ draw, exchange.exchangeId = answers.randomUUID draw := by
  intro exchange member
  rcases batchExchanges_each created exchange member with ⟨_, _, position, -, rfl⟩
  exact ⟨_, createExchange_exchangeId ..⟩

theorem newExchange_made {workflowId : String} {data : ExchangeCreateInput}
    (created : newExchange runtime config answers workflowId data = .ok exchange) :
    exchange.workflowId.text = workflowId ∧
      exchange.expires =
        data.expires.getD (answers.clock 2 + config.exchangeTtl * 1000) ∧
      ∃ made : CreateData, exchange = createExchange config (answers.skip 2 0 0) made := by
  unfold newExchange at created
  split at created
  · cases created
  · rename_i named
    cases created
    exact ⟨WorkflowId.ofText?_eq_some.mp named, rfl, _, rfl⟩
  · rename_i named
    rcases bind_eq_ok.mp created with ⟨validated, isValidated, returned⟩
    cases returned
    rcases validateExchangeClaim_ok isValidated with ⟨_, _, -, -, -, -, rfl⟩
    exact ⟨WorkflowId.ofText?_eq_some.mp named, rfl, _, rfl⟩
  · rename_i named
    rcases bind_eq_ok.mp created with ⟨validated, isValidated, returned⟩
    cases returned
    rcases validateExchangeVerify_eq_ok.mp isValidated with ⟨_, _, _, -, -, -, -, -, rfl⟩
    exact ⟨WorkflowId.ofText?_eq_some.mp named, rfl, _, rfl⟩

theorem newExchange_drawn {workflowId : String} {data : ExchangeCreateInput}
    (created : newExchange runtime config answers workflowId data = .ok exchange) :
    exchange.exchangeId = answers.randomUUID 0 := by
  rcases newExchange_made created with ⟨-, -, made, rfl⟩
  exact createExchange_exchangeId ..

section

variable {workflowId : String} {authorization : Option String} {body : Option Json}

theorem acceptExchangeCreate_eq_ok {data : ExchangeCreateInput} :
    acceptExchangeCreate runtime config answers workflowId authorization body = .ok data ↔
      ∃ authTenant inputData input tenantName,
        authenticateTenantMiddleware runtime config authorization = .ok authTenant ∧
        body = some inputData ∧ addWorkflowByParam workflowId = .ok () ∧
        vcApiExchangeCreateSchema runtime (answers.clock 0) inputData = .ok input ∧
        resolveExchangeTenant input.vars.tenantName authTenant config.defaultTenantName =
          .ok tenantName ∧
        data = { input with vars := { input.vars with tenantName } } := by
  constructor
  · intro accepted
    rcases bind_eq_ok.mp accepted with ⟨authTenant, isTenant, afterTenant⟩
    rcases bind_eq_ok.mp afterTenant with ⟨inputData, isBody, afterBody⟩
    rcases bind_eq_ok.mp afterBody with ⟨_, isWorkflow, afterWorkflow⟩
    rcases bind_eq_ok.mp afterWorkflow with ⟨input, isInput, afterParse⟩
    rcases bind_eq_ok.mp afterParse with ⟨tenantName, resolved, returned⟩
    cases returned
    exact ⟨authTenant, inputData, input, tenantName, isTenant, validateJson_ok isBody,
      isWorkflow, isInput, resolved, rfl⟩
  · rintro ⟨authTenant, inputData, input, tenantName, isTenant, rfl, isWorkflow, isInput,
      resolved, rfl⟩
    refine bind_eq_ok.mpr ⟨authTenant, isTenant, ?_⟩
    refine bind_eq_ok.mpr ⟨inputData, rfl, ?_⟩
    refine bind_eq_ok.mpr ⟨(), isWorkflow, ?_⟩
    refine bind_eq_ok.mpr ⟨input, isInput, ?_⟩
    exact bind_eq_ok.mpr ⟨tenantName, resolved, rfl⟩

theorem acceptExchangeBatch_eq_ok {data : ExchangeBatch} :
    acceptExchangeBatch runtime config answers authorization body = .ok data ↔
      ∃ authTenant inputData batch tenantName,
        authenticateTenantMiddleware runtime config authorization = .ok authTenant ∧
        body = some inputData ∧
        exchangeBatchSchema runtime (answers.clock 0) inputData = .ok batch ∧
        resolveExchangeTenant batch.tenantName authTenant config.defaultTenantName =
          .ok tenantName ∧
        data = { batch with tenantName } := by
  constructor
  · intro accepted
    rcases bind_eq_ok.mp accepted with ⟨authTenant, isTenant, afterTenant⟩
    rcases bind_eq_ok.mp afterTenant with ⟨inputData, isBody, afterBody⟩
    rcases bind_eq_ok.mp afterBody with ⟨batch, isBatch, afterParse⟩
    rcases bind_eq_ok.mp afterParse with ⟨tenantName, resolved, returned⟩
    cases returned
    exact ⟨authTenant, inputData, batch, tenantName, isTenant, validateJson_ok isBody,
      isBatch, resolved, rfl⟩
  · rintro ⟨authTenant, inputData, batch, tenantName, isTenant, rfl, isBatch, resolved, rfl⟩
    refine bind_eq_ok.mpr ⟨authTenant, isTenant, ?_⟩
    refine bind_eq_ok.mpr ⟨inputData, rfl, ?_⟩
    refine bind_eq_ok.mpr ⟨batch, isBatch, ?_⟩
    exact bind_eq_ok.mpr ⟨tenantName, resolved, rfl⟩

theorem exchangeCreateRoute_refused {thrown : Thrown}
    (refused : createdByRequest runtime config answers workflowId authorization body =
      .error thrown) :
    (exchangeCreateRoute runtime config answers workflowId authorization body).saved =
      none := by
  unfold createdByRequest at refused
  unfold exchangeCreateRoute
  cases accepted : acceptExchangeCreate runtime config answers workflowId authorization
      body with
  | error failure => rfl
  | ok data =>
      rw [accepted] at refused
      have unmade : newExchange runtime config answers workflowId data = .error thrown :=
        refused
      rw [Action.ofExcept_ok_bind, Action.saved_map]
      unfold createExchangeVcapi
      rw [unmade]
      rfl

theorem exchangeCreateRoute_created (accepts : answers.accepted 0 = true)
    (created : createdByRequest runtime config answers workflowId authorization body =
      .ok exchange) :
    exchangeCreateRoute runtime config answers workflowId authorization body = {
      saved := some exchange
      result := (fun protocols => json protocols.toJson) <$>
        getProtocols runtime exchange } := by
  rcases bind_eq_ok.mp created with ⟨data, accepted, made⟩
  unfold exchangeCreateRoute createExchangeVcapi saveAndLink
  rw [accepted, Action.ofExcept_ok_bind, made, Action.ofExcept_ok_bind,
    saveExchange_eq accepts, Action.save_then _ _ Protocols.toJson]
  cases getProtocols runtime exchange <;> rfl

theorem exchangeBatchCreateRoute_refused {thrown : Thrown}
    (refused : createdByBatch runtime config answers authorization body = .error thrown) :
    (exchangeBatchCreateRoute runtime config answers authorization body).saved = [] := by
  unfold createdByBatch at refused
  unfold exchangeBatchCreateRoute
  cases accepted : acceptExchangeBatch runtime config answers authorization body with
  | error failure => rfl
  | ok data =>
      rw [accepted] at refused
      have unmade : batchExchanges runtime config answers data
          (data.workflowId.getD .didAuth) 0 data.data = .error thrown := refused
      simp only [Outcome.andThen, Outcome.ofExcept, createExchangeBatch, unmade]
      rfl

theorem exchangeBatchCreateRoute_created (accepts : ∀ index, answers.accepted index = true)
    (created : createdByBatch runtime config answers authorization body = .ok exchanges) :
    exchangeBatchCreateRoute runtime config answers authorization body = {
      saved := exchanges
      result := (fun queries => json (.arr queries)) <$> walletQueries runtime exchanges } := by
  rcases bind_eq_ok.mp created with ⟨data, accepted, made⟩
  unfold exchangeBatchCreateRoute
  simp only [Outcome.andThen, Outcome.ofExcept, createExchangeBatch, accepted, made,
    saveAll_accepted accepts]
  cases walletQueries runtime exchanges with
  | error thrown => simp [Functor.map, Except.map]
  | ok queries => simp [Functor.map, Except.map]

end

end

end TransactionService
