import TransactionService.Environment.Tenants
import TransactionService.Routes.Creation
import TransactionService.Routes.ServiceCalls
import TransactionService.World.IdentityFrame

namespace TransactionService.SigningCustody

open Environment Fallible HolderAgreement ServiceCalls Sessions SharedStore

/-! # Whose keys sign

The signing service holds the keys of all tenants behind one address. It is asked to
sign in the name of a tenant for exchanges alone that a client of that tenant has
created, however requests, sweeps, worker runs and creations interleave. A caller who
is let in as no tenant at all creates exchanges of the default tenant. -/

/-! ## Creation by clients -/

inductive ClientCreation (runtime : Runtime) (config : Config)
  | single (workflowId : String) (authorization : Option String) (body : Option Json)
      (answers : Answers) (exchange : Exchange)
      (saved : (exchangeCreateRoute runtime config answers workflowId authorization
        body).saved = some exchange)
  | batched (authorization : Option String) (body : Option Json) (answers : Answers)
      (exchange : Exchange)
      (saved : exchange ∈ (exchangeBatchCreateRoute runtime config answers authorization
        body).saved)

namespace ClientCreation

variable {runtime : Runtime} {config : Config}

def authorization : ClientCreation runtime config → Option String
  | .single _ authorization _ _ _ _ => authorization
  | .batched authorization _ _ _ _ => authorization

def exchange : ClientCreation runtime config → Exchange
  | .single _ _ _ _ exchange _ => exchange
  | .batched _ _ _ exchange _ => exchange

end ClientCreation

section

variable (runtime : Runtime) (config : Config)

abbrev ClientLabel := SharedStore.Label String Task (ClientCreation runtime config)

def clientProtocol :
    SharedStore.Protocol String Exchange String Task (ClientCreation runtime config) where
  keyOf := Exchange.exchangeId
  tag := readVerifyTaskAttemptId
  make := ClientCreation.exchange
  plan := writes runtime config

def clientStep :
    ExchangeSystem → ClientLabel runtime config → Option ExchangeSystem :=
  SharedStore.step (clientProtocol runtime config)

def callsOf (task : Task) (loaded : Exchange) : List Call :=
  match task with
  | .request request => (serve runtime config request.answers request.workflowId
      request.endpoint (some loaded)).calls
  | .work answers => (processVerifyTask runtime config answers (some loaded)).calls

def answersOf : Task → Answers
  | .request request => request.answers
  | .work answers => answers

end

/-! ## The instances of a tenant -/

def signingInstance (config : Config) (name : String) : String :=
  config.signingService ++ "/instance/" ++ name ++ "/credentials/sign"

/-- What the signing service is asked for a tenant of the environment: to sign at one
of its issuer instances a credential that names this issuer, or, when the tenant has
none, at the instance under its own name. -/
inductive SignsFor (library : TextLibrary) (env : Environment) (config : Config)
    (answers : Answers) (tenantName : String) : String → Json → Prop
  | own {credential body : Json} (unnumbered : issuerId library env tenantName 1 = none)
      (allocated : Allocated config answers credential body) :
      SignsFor library env config answers tenantName (signingInstance config tenantName) body
  | issuer {number : Nat} {id : String} {credential body : Json}
      (numbered : issuerId library env tenantName number = some id)
      (allocated : Allocated config answers (credential.withField "issuer" (.str id)) body) :
      SignsFor library env config answers tenantName
        (signingInstance config ((env.lookup (issuerVariable number "_SIGNING_TENANT_"
          (library.toUpperCase tenantName))).getD tenantName)) body

section

variable {runtime : Runtime} {library : TextLibrary} {env : Environment} {config : Config}
  {answers : Answers}

private theorem issuer_of_series {tenantName : String} {start : Nat}
    {instances : List IssuerInstance} {selected : IssuerInstance}
    (series : IssuerSeries library env tenantName start instances)
    (listed : selected ∈ instances) :
    ∃ number id, issuerId library env tenantName number = some id ∧
      selected = issuerInstanceAt library env tenantName number id := by
  induction series with
  | done missing => cases listed
  | next present later induction =>
      rcases List.mem_cons.mp listed with rfl | further
      · exact ⟨_, _, present, rfl⟩
      · exact induction further

theorem selectIssuerInstance_cases (tenant : Tenant) (wallet : List String) :
    (selectIssuerInstance tenant wallet = none ∧ tenant.issuerInstances.getD [] = []) ∨
      ∃ selected ∈ tenant.issuerInstances.getD [],
        selectIssuerInstance tenant wallet = some selected := by
  rw [selectIssuerInstance_eq]
  cases selects : (sortIssuerInstancesByPriority
      (selectionPool (tenant.issuerInstances.getD []) wallet)).head? with
  | none => exact .inl ⟨rfl, selectionPool_eq_nil.mp (StableSort.head_eq_none.mp selects)⟩
  | some selected =>
      refine .inr ⟨selected, ?_, rfl⟩
      have pooled := (StableSort.firstLeast_of_head selects).mem
      unfold selectionPool at pooled
      split at pooled
      · exact pooled
      · exact List.mem_of_mem_filter pooled

private theorem signsFor_of_call (lower : LowerCase runtime)
    (enabled : (parseConfig runtime library env).tenantAuthenticationEnabled = true)
    {tenantName value endpoint : String} {body : Json}
    (configured : configuredToken runtime env tenantName = some value)
    (signs : SigningCall runtime (parseConfig runtime library env) answers tenantName
      endpoint body) :
    SignsFor library env (parseConfig runtime library env) answers tenantName endpoint
      body := by
  cases signs with
  | mk same allocated =>
      rename_i exchange wallet credential
      have found : (parseConfig runtime library env).tenants.lookup
          (runtime.toLowerCase exchange.tenantName) =
            some (tenantFor library env tenantName value) := by
        rcases configuredToken_variable configured with ⟨key, -, -, -, named⟩
        have lowered : runtime.toLowerCase tenantName = tenantName := by
          rw [← named]
          exact lower.idempotent _
        rw [same, lowered]
        exact lookup_of_configured enabled configured
      have selects : issuerInstanceFor runtime (parseConfig runtime library env) exchange
          wallet = selectIssuerInstance (tenantFor library env tenantName value) wallet := by
        unfold issuerInstanceFor
        rw [found]
        rfl
      have series : IssuerSeries library env tenantName 1
          ((tenantFor library env tenantName value).issuerInstances.getD []) :=
        (issuerInstancesIfAny_series tenantName).2
      rw [selects] at allocated ⊢
      rcases selectIssuerInstance_cases (tenantFor library env tenantName value) wallet with
        ⟨absent, empty⟩ | ⟨selected, listed, chosen⟩
      · rw [absent] at allocated ⊢
        rw [empty] at series
        cases series with
        | done missing =>
            have atOwn : signEndpoint (parseConfig runtime library env) exchange none =
                signingInstance (parseConfig runtime library env) tenantName := by
              rw [← same]
              rfl
            rw [atOwn]
            exact .own missing allocated
      · rw [chosen] at allocated ⊢
        rcases issuer_of_series series listed with ⟨number, id, numbered, rfl⟩
        have nonempty : id ≠ "" := by
          simpa using (Option.filter_eq_some_iff.mp numbered).2
        have names : withIssuer (some (issuerInstanceAt library env tenantName number id))
            credential = credential.withField "issuer" (.str id) := if_neg nonempty
        rw [names] at allocated
        exact .issuer numbered allocated

/-! ## Whose an exchange is -/

theorem resolveExchangeTenant_authenticated {bodyTenantName : Option String}
    {entry : TenantEntry} {defaultTenantName : String} {tenantName : Option String}
    (resolved : resolveExchangeTenant bodyTenantName (some entry) defaultTenantName =
      .ok tenantName) : tenantName = entry.tenantName := by
  unfold resolveExchangeTenant at resolved
  dsimp only at resolved
  split at resolved
  · cases resolved
  · cases resolved
    rfl

private theorem newExchange_tenantName {workflowId : String} {data : ExchangeCreateInput}
    {exchange : Exchange}
    (made : newExchange runtime config answers workflowId data = .ok exchange) :
    exchange.tenantName = data.vars.tenantName.getD config.defaultTenantName := by
  unfold newExchange at made
  split at made
  · cases made
  · cases made
    rfl
  · rcases bind_eq_ok.mp made with ⟨validated, isValidated, returned⟩
    cases returned
    rcases validateExchangeClaim_ok isValidated with ⟨_, _, -, -, -, -, rfl⟩
    rfl
  · rcases bind_eq_ok.mp made with ⟨validated, isValidated, returned⟩
    cases returned
    rcases validateExchangeVerify_eq_ok.mp isValidated with ⟨_, _, _, -, -, -, -, -, rfl⟩
    rfl

private theorem batchExchange_tenantName {data : ExchangeBatch} {workflowId : WorkflowId}
    {item : CredentialData} {created : CreateData} {index : Nat}
    (isCreated : batchCreateData runtime answers data workflowId item = .ok created) :
    (batchExchange config answers index created).tenantName =
      data.tenantName.getD config.defaultTenantName := by
  cases workflowId with
  | claim =>
      rcases bind_eq_ok.mp isCreated with ⟨validated, isValidated, returned⟩
      cases returned
      rcases validateExchangeClaim_ok isValidated with ⟨_, _, -, -, -, -, rfl⟩
      rfl
  | didAuth =>
      rcases bind_eq_ok.mp isCreated with ⟨validated, isValidated, returned⟩
      cases returned
      have accepted := Schema.orZodError_eq_ok.mp isValidated
      split at accepted
      · cases accepted
        rfl
      · cases accepted
  | verify => cases isCreated

private theorem saveAll_mem {index : Nat} {exchanges : List Exchange} {exchange : Exchange}
    (saved : exchange ∈ (saveAll answers index exchanges).saved) : exchange ∈ exchanges := by
  induction exchanges generalizing index with
  | nil => cases saved
  | cons first rest induction =>
      rcases Outcome.mem_saved_andThen saved with written | ⟨_, -, later⟩
      · rw [saveExchange_saved (Option.mem_toList.mp written)]
        exact List.mem_cons_self
      · exact List.mem_cons_of_mem _ (induction later)

theorem single_saved {workflowId : String} {authorization : Option String}
    {body : Option Json} {exchange : Exchange}
    (saved : (exchangeCreateRoute runtime config answers workflowId authorization
      body).saved = some exchange) :
    ∃ data, acceptExchangeCreate runtime config answers workflowId authorization body =
        .ok data ∧
      newExchange runtime config answers workflowId data = .ok exchange := by
  unfold exchangeCreateRoute at saved
  rcases Action.saved_bind_of_none rfl saved with ⟨data, accepted, later⟩
  rw [Action.saved_map] at later
  rcases Action.saved_bind_of_none rfl later with ⟨made, isMade, writes⟩
  refine ⟨data, accepted, ?_⟩
  rcases Action.saved_bind writes with written | ⟨_, -, linked⟩
  · rw [saveExchange_saved written]
    exact isMade
  · rcases Action.saved_bind linked with nothing | ⟨_, -, nothing⟩ <;> cases nothing

theorem batched_saved {authorization : Option String} {body : Option Json}
    {exchange : Exchange}
    (saved : exchange ∈ (exchangeBatchCreateRoute runtime config answers authorization
      body).saved) :
    ∃ data exchanges, acceptExchangeBatch runtime config answers authorization body =
        .ok data ∧
      batchExchanges runtime config answers data (data.workflowId.getD .didAuth) 0 data.data =
        .ok exchanges ∧ exchange ∈ exchanges := by
  unfold exchangeBatchCreateRoute createExchangeBatch at saved
  rcases Outcome.mem_saved_andThen saved with nothing | ⟨data, accepted, later⟩
  · cases nothing
  · rcases Outcome.mem_saved_andThen later with batch | ⟨_, -, nothing⟩
    · rcases Outcome.mem_saved_andThen batch with nothing | ⟨exchanges, made, written⟩
      · cases nothing
      · rcases Outcome.mem_saved_andThen written with member | ⟨_, -, nothing⟩
        · exact ⟨data, exchanges, accepted, made, saveAll_mem member⟩
        · cases nothing
    · cases nothing

theorem ClientCreation.owned (enabled : config.tenantAuthenticationEnabled = true)
    (creation : ClientCreation runtime config) :
    ∃ header entry, creation.authorization = some header ∧
      tenantFromAuthorizationHeader runtime config (some header) = .ok (some entry) ∧
      creation.exchange.tenantName = entry.tenantName.getD config.defaultTenantName := by
  cases creation with
  | single workflowId authorization body answers exchange saved =>
      rcases single_saved saved with ⟨data, accepted, made⟩
      rcases acceptExchangeCreate_eq_ok.mp accepted with
        ⟨authTenant, inputData, input, tenantName, authenticated, -, -, -, resolved, rfl⟩
      rcases Auth.authenticated_as enabled authenticated with
        ⟨header, entry, rfl, rfl, isEntry⟩
      refine ⟨header, entry, rfl, isEntry, ?_⟩
      rw [← resolveExchangeTenant_authenticated resolved]
      exact newExchange_tenantName made
  | batched authorization body answers exchange saved =>
      rcases batched_saved saved with ⟨data, exchanges, accepted, made, member⟩
      rcases acceptExchangeBatch_eq_ok.mp accepted with
        ⟨authTenant, inputData, batch, tenantName, authenticated, -, -, resolved, rfl⟩
      rcases Auth.authenticated_as enabled authenticated with
        ⟨header, entry, rfl, rfl, isEntry⟩
      refine ⟨header, entry, rfl, isEntry, ?_⟩
      rw [← resolveExchangeTenant_authenticated resolved]
      rcases batchExchanges_each made exchange member with ⟨item, created, position,
        isCreated, rfl⟩
      exact batchExchange_tenantName isCreated

/-! ## Over whole runs -/

private theorem client_framed : Framed (clientProtocol runtime config) identityOf where
  keyed _ _ same := congrArg Identity.exchangeId same
  plans := IdentityFrame.exchange_framed.plans

private theorem service_of_task {task : Task} {loaded : Exchange} {endpoint : String} {body : Json}
    (made : .callService endpoint body ∈ callsOf runtime config task loaded) :
    (config.statusService ≠ "" ∧ endpoint = allocateEndpoint config) ∨
      SigningCall runtime config (answersOf task) loaded.tenantName endpoint body := by
  have issues : ∀ {issuer}, issuingTenant loaded = some issuer →
      issuer = loaded.tenantName := by
    intro issuer isIssuer
    cases loaded with
    | claim detail => exact (Option.some.inj isIssuer).symm
    | didAuth detail => cases isIssuer
    | verify detail => cases isIssuer
  have asked : ∀ {answers}, Asks runtime config answers (issuingTenant loaded)
      (.callService endpoint body) →
      (config.statusService ≠ "" ∧ endpoint = allocateEndpoint config) ∨
        SigningCall runtime config answers loaded.tenantName endpoint body := by
    intro answers asks
    cases asks with
    | allocate isIssuer configured => exact .inl ⟨configured, rfl⟩
    | sign isIssuer signs =>
        cases issues isIssuer
        exact .inr signs
  cases task with
  | request request =>
      cases serve_makes.made _ made with
      | asks asks => exact asked asks
  | work answers =>
      exact asked ((processVerifyTask_asks runtime config answers (some loaded)).made _ made)

/-- For whom the service signs, given the header that came with the creation: for the
tenant as whom the environment admits the header; or, where the header only names
what every object inherits, for the default tenant. -/
inductive SignedFor (runtime : Runtime) (library : TextLibrary) (env : Environment)
    (answers : Answers) (header endpoint : String) (body : Json) : Prop
  | tenant (tenantName value : String)
      (configured : configuredToken runtime env tenantName = some value)
      (admitted : Admitted runtime library env header
        (.configured (tenantFor library env tenantName value)))
      (signs : SignsFor library env (parseConfig runtime library env) answers tenantName
        endpoint body)
  | nobody (reference : Json.Reference)
      (admitted : Admitted runtime library env header (.inherited reference))
      (signs : SigningCall runtime (parseConfig runtime library env) answers
        (parseConfig runtime library env).defaultTenantName endpoint body)

private theorem tenant_of_admitted {authorization : String} {tenant : Tenant}
    (admitted : Admitted runtime library env authorization (.configured tenant)) :
    ∃ tenantName value, configuredToken runtime env tenantName = some value ∧
      tenant = tenantFor library env tenantName value := by
  cases admitted with
  | basic _ configured _ => exact ⟨_, _, configured, rfl⟩
  | bearer _ configured => exact ⟨_, _, configured, rfl⟩
  | accessToken _ _ _ configured => exact ⟨_, _, configured, rfl⟩

/-- In every run, whatever a task has loaded, it asks no service but for a status, or
for a signature for the one whom the header of the exchange's own creation admits. -/
theorem keys_stay_with_tenant (lower : LowerCase runtime)
    (enabled : (parseConfig runtime library env).tenantAuthenticationEnabled = true)
    {labels : List (ClientLabel runtime (parseConfig runtime library env))}
    {system : ExchangeSystem}
    (runs : Machine.run (clientStep runtime (parseConfig runtime library env))
      SharedStore.start labels = some system)
    {exchangeId : String} {loaded : Exchange}
    (isStored : system.stored exchangeId = some loaded) {task : Task} {endpoint : String}
    {body : Json}
    (made : .callService endpoint body ∈
      callsOf runtime (parseConfig runtime library env) task loaded) :
    ((parseConfig runtime library env).statusService ≠ "" ∧
        endpoint = allocateEndpoint (parseConfig runtime library env)) ∨
      ∃ creation header, .create creation ∈ labels ∧
        creation.exchange.exchangeId = exchangeId ∧ creation.authorization = some header ∧
        SignedFor runtime library env (answersOf task) header endpoint body := by
  rcases service_of_task made with allocates | signs
  · exact .inl allocates
  · rcases client_framed.stored_of_run runs isStored with ⟨-, creation, member, place, same⟩
    rcases creation.owned enabled with ⟨header, entry, sent, accepted, owner⟩
    have admitted := admitted_of_accepted enabled accepted
    have whose : loaded.tenantName =
        entry.tenantName.getD (parseConfig runtime library env).defaultTenantName :=
      (congrArg Identity.tenantName same).trans owner
    rw [whose] at signs
    refine .inr ⟨creation, header, member, place, sent, ?_⟩
    cases entry with
    | configured tenant =>
        rcases tenant_of_admitted admitted with ⟨tenantName, value, configured, rfl⟩
        exact .tenant tenantName value configured admitted
          (signsFor_of_call lower enabled configured signs)
    | inherited reference => exact .nobody reference admitted signs

end

/-! ## A credential of one tenant -/

def acmeConfig : Config :=
  parseConfig issuingRuntime plainLibrary acmeEnvironment

def acmeAnswers : Answers :=
  { Answers.plain with
    randomUUID := fun draw => if draw = 0 then "exchange-1" else "nonce-1" }

def acmeBody : Json :=
  .obj [("variables", .obj [
    ("exchangeHost", .str "http://localhost:4004"), ("vc", .str "the credential")])]

def acmeCollection : Task :=
  .request {
    workflowId := "claim"
    endpoint := .participate (presentationFor "did:example:signer")
    answers := acmeAnswers }

theorem acme_enabled : acmeConfig.tenantAuthenticationEnabled = true :=
  rfl

theorem acme_authenticated :
    authenticateTenantMiddleware issuingRuntime acmeConfig (some "Basic acme:s3cret") =
      .ok (some (.configured
        (tenantFor plainLibrary acmeEnvironment "acme" "s3cret"))) := by
  have header : Auth.BasicHeader issuingRuntime "Basic acme:s3cret" "acme" "s3cret" :=
    ⟨"acme:s3cret", [], by decide, by decide, by decide, rfl⟩
  have accepted := @basic_accepted issuingRuntime plainLibrary acmeEnvironment acme_enabled
    _ _ _ header (by decide) rfl
  change tenantFromAuthorizationHeader issuingRuntime acmeConfig _ = _ at accepted
  simp only [authenticateTenantMiddleware, acme_enabled, accepted]
  rfl

theorem acme_made : ∃ input exchange,
    vcApiExchangeCreateSchema issuingRuntime 0 acmeBody = .ok input ∧
    input.vars.tenantName = none ∧
    newExchange issuingRuntime acmeConfig acmeAnswers "claim"
      { input with vars := { input.vars with tenantName := some "acme" } } = .ok exchange ∧
    exchange.exchangeId = "exchange-1" ∧
    ∃ asked body, callsOf issuingRuntime acmeConfig acmeCollection exchange =
      [asked, .callService (signingInstance acmeConfig "acme") body] :=
  ⟨_, _, rfl, rfl, rfl, rfl, _, _, rfl⟩

theorem acme_saved : ∃ exchange,
    (exchangeCreateRoute issuingRuntime acmeConfig acmeAnswers "claim"
      (some "Basic acme:s3cret") (some acmeBody)).saved = some exchange ∧
    exchange.exchangeId = "exchange-1" ∧
    ∃ asked body, callsOf issuingRuntime acmeConfig acmeCollection exchange =
      [asked, .callService (signingInstance acmeConfig "acme") body] := by
  rcases acme_made with ⟨input, exchange, isInput, unnamed, made, place, calls⟩
  have resolved : resolveExchangeTenant input.vars.tenantName
      (some (.configured (tenantFor plainLibrary acmeEnvironment "acme" "s3cret")))
      acmeConfig.defaultTenantName = .ok (some "acme") := by
    rw [unnamed]
    rfl
  have named : addWorkflowByParam "claim" = .ok () := rfl
  have created : createdByRequest issuingRuntime acmeConfig acmeAnswers "claim"
      (some "Basic acme:s3cret") (some acmeBody) = .ok exchange := by
    apply bind_eq_ok.mpr
    refine ⟨_, acceptExchangeCreate_eq_ok.mpr ?_, made⟩
    exact ⟨_, acmeBody, input, some "acme", acme_authenticated, rfl, named, isInput, resolved, rfl⟩
  refine ⟨exchange, ?_, place, calls⟩
  rw [exchangeCreateRoute_created rfl created]

theorem acme_key_signs : ∃ system header body,
    (∃ creation, Machine.run (clientStep issuingRuntime acmeConfig) SharedStore.start
      [.create creation] = some system ∧ creation.authorization = some header) ∧
    SignedFor issuingRuntime plainLibrary acmeEnvironment acmeAnswers header
      (signingInstance acmeConfig "acme") body := by
  rcases acme_saved with ⟨exchange, saved, place, asked, body, calls⟩
  let creation : ClientCreation issuingRuntime acmeConfig :=
    .single "claim" (some "Basic acme:s3cret") (some acmeBody) acmeAnswers exchange saved
  have runs : ∃ system : ExchangeSystem,
      Machine.run (clientStep issuingRuntime acmeConfig) SharedStore.start
        [.create creation] = some system ∧ system.stored "exchange-1" = some exchange := by
    refine ⟨_, rfl, ?_⟩
    change Function.update _ exchange.exchangeId _ _ = _
    rw [place, Function.update_self]
    rfl
  rcases runs with ⟨system, runs, isStored⟩
  have made : Call.callService (signingInstance acmeConfig "acme") body ∈
      callsOf issuingRuntime acmeConfig acmeCollection exchange := by
    rw [calls]
    exact List.mem_cons_of_mem _ List.mem_cons_self
  rcases keys_stay_with_tenant ⟨fun _ => rfl, rfl⟩ acme_enabled runs isStored made with
    ⟨configured, -⟩ | ⟨other, header, member, -, sent, signs⟩
  · exact absurd rfl configured
  · cases List.mem_singleton.mp member
    exact ⟨system, header, body, ⟨creation, runs, sent⟩, signs⟩

end TransactionService.SigningCustody
