import TransactionService.Auth.Soundness
import TransactionService.Routes.Access
import TransactionService.World.Finality

namespace TransactionService.Gateway

open World

/-! # Who may read an exchange

The service together with the tokens it has handed out so far. -/

/-- Why a token was handed out: to a client that asked for it as a tenant, or with
the page of an exchange. -/
inductive Grant
  | access (now : Timestamp) (request : OAuthTokenRequest) (tenant : Tenant)
  | participate (exchange : Exchange)

def Grant.exp : Grant → Int
  | .access now _ _ => numericDate now + defaultExpiresInSec
  | .participate exchange => numericDate exchange.expires

def Grant.payload (grant : Grant) : Json :=
  match grant with
  | .access _ _ tenant => accessTokenPayload tenant.tenantName grant.exp
  | .participate exchange =>
      exchangeTokenPayload exchange.exchangeId exchange.workflowId.text grant.exp

def Grant.secret (config : Config) (secret : String) : Grant → String
  | .access _ _ _ => config.accessJwtSecret
  | .participate _ => secret

structure Issued where
  token : String
  grant : Grant

structure State where
  world : World
  issued : List Issued

inductive Label
  | serve (event : Event)
  | token (now : Timestamp) (request : OAuthTokenRequest)
  | interaction (accept : Option String) (exchangeId : String) (answers : Answers)
  | read (now : Timestamp) (cookie authorization : Option String)
      (exchangeId workflowId : String) (answers : Answers)

/-- The two routes that have labels of their own. -/
def isGuarded : Event → Bool
  | .request _ _ (.exchangeDetail _ _) _ => true
  | .request _ _ .interaction _ => true
  | _ => false

def start : State where
  world := World.start
  issued := []

section

variable (jwt : JwtLibrary) (secret : String) (runtime : Runtime) (config : Config)

def grantedAccess (now : Timestamp) (request : OAuthTokenRequest)
    (handled : Except Thrown Response) : List Issued :=
  match handled, requestedTenant runtime config request with
  | .ok response, some tenant =>
      ((issuedToken response).map fun token =>
        { token, grant := .access now request tenant }).toList
  | _, _ => []

def grantedParticipation (stored : Option Exchange)
    (resolved : Except Thrown InteractionResult) : List Issued :=
  match resolved, stored with
  | .ok (.html token _), some exchange => [{ token, grant := .participate exchange }]
  | _, _ => []

def step (state : State) : Label → Option State
  | .serve event =>
      if isGuarded event then none
      else (World.step runtime config state.world event).map fun world =>
        { state with world }
  | .token now request =>
      some { state with
        issued := grantedAccess runtime config now request
          (handleOAuthTokenPost jwt runtime config now request) ++ state.issued }
  | .interaction accept exchangeId answers =>
      let stored := (state.world.slots exchangeId).record
      let action := resolveInteraction jwt secret runtime config answers accept stored
      some {
        world := state.world.after action
        issued := grantedParticipation stored action.result ++ state.issued }
  | .read now cookie authorization exchangeId workflowId answers =>
      some { state with
        world := state.world.after (getExchangeState jwt secret runtime config answers now
          cookie authorization exchangeId workflowId
          (state.world.slots exchangeId).record) }

end

/-! ## What a token stands for -/

section

variable {jwt : JwtLibrary} {secret : String} {runtime : Runtime} {config : Config}

def Continues (exchange : Exchange) : Slot → Prop
  | .vacant => False
  | .stored current => identityOf current = identityOf exchange
  | .evicted => True

/-- What a grant rests on: the client knew the tenant's secret, or the exchange is
the one that was shown. -/
def Rests (runtime : Runtime) (config : Config) (world : World) : Grant → Prop
  | .access _ request tenant =>
      ClientOf runtime config request tenant ∧ config.accessJwtSecret ≠ ""
  | .participate exchange => Continues exchange (world.slots exchange.exchangeId)

structure Backed (jwt : JwtLibrary) (secret : String) (runtime : Runtime) (config : Config)
    (world : World) (issued : Issued) : Prop where
  signed : issued.token =
    jwt.sign issued.grant.payload (issued.grant.secret config secret)
  rests : Rests runtime config world issued.grant

/-- Records are stored under their ids, and every token was signed for what it
was granted for. -/
structure Accounted (jwt : JwtLibrary) (secret : String) (runtime : Runtime)
    (config : Config) (state : State) : Prop where
  keyed : Keyed state.world
  backed : ∀ issued ∈ state.issued, Backed jwt secret runtime config state.world issued

private theorem continues_slotStep {event : Event} {exchange : Exchange} {exchangeId : String}
    {before after : Slot} {running : Runtime}
    (slotStep : SlotStep running config event exchangeId before after)
    (continues : Continues exchange before) : Continues exchange after := by
  cases slotStep with
  | unchanged => exact continues
  | created isOwn => exact continues.elim
  | evicted => trivial
  | changed isRequest addressed change => exact change.identity.trans continues
  | worked isWork hasTask unsettled stores => exact stores.identity.trans continues

theorem Backed.mono {world next : World} {issued : Issued}
    (continues : ∀ exchange, Continues exchange (world.slots exchange.exchangeId) →
      Continues exchange (next.slots exchange.exchangeId))
    (backed : Backed jwt secret runtime config world issued) :
    Backed jwt secret runtime config next issued := by
  refine ⟨backed.signed, ?_⟩
  have rests := backed.rests
  cases grant : issued.grant with
  | access now request tenant =>
      rw [grant] at rests
      exact rests
  | participate exchange =>
      rw [grant] at rests
      exact continues exchange rests

theorem accounted_of_step {state : State} {world : World} {event : Event}
    {running : Runtime} (accounted : Accounted jwt secret runtime config state)
    (stepped : World.step running config state.world event = some world) :
    Accounted jwt secret runtime config { state with world } := by
  refine ⟨step_keyed accounted.keyed stepped, fun issued member => ?_⟩
  apply (accounted.backed issued member).mono
  intro exchange
  exact continues_slotStep (step_slot accounted.keyed stepped _)

theorem after_unsaved {α : Type} (world : World) {action : Handler α}
    (nothing : action.saved = none) : (world.after action).slots = world.slots := by
  simp only [World.after, nothing, World.write]

theorem accounted_of_slots {state : State} {world : World}
    (accounted : Accounted jwt secret runtime config state)
    (same : world.slots = state.world.slots) :
    Accounted jwt secret runtime config { state with world } := by
  constructor
  · intro exchangeId exchange found
    rw [same] at found
    exact accounted.keyed exchangeId exchange found
  · intro issued member
    apply (accounted.backed issued member).mono
    intro exchange continues
    rw [same]
    exact continues

theorem accounted_granted {state : State} {granted : List Issued}
    (accounted : Accounted jwt secret runtime config state)
    (backed : ∀ issued ∈ granted, Backed jwt secret runtime config state.world issued) :
    Accounted jwt secret runtime config { state with issued := granted ++ state.issued } := by
  refine ⟨accounted.keyed, fun issued member => ?_⟩
  rcases List.mem_append.mp member with fresh | earlier
  · exact backed issued fresh
  · exact accounted.backed issued earlier

private theorem grantedAccess_backed (world : World) (now : Timestamp)
    (request : OAuthTokenRequest) :
    ∀ issued ∈ grantedAccess runtime config now request
        (handleOAuthTokenPost jwt runtime config now request),
      Backed jwt secret runtime config world issued := by
  intro issued member
  unfold grantedAccess at member
  split at member
  · rename_i response tenant handled requested
    rcases Option.map_eq_some_iff.mp (Option.mem_toList.mp member) with ⟨token, issues, rfl⟩
    rcases handleOAuthTokenPost_issues handled issues with
      ⟨named, client, configured, rfl⟩
    cases client.names.symm.trans requested
    exact ⟨rfl, client, configured⟩
  · cases member

private theorem grantedParticipation_backed {world : World} (keyed : Keyed world)
    (accept : Option String) (exchangeId : String) (answers : Answers) :
    ∀ issued ∈ grantedParticipation (world.slots exchangeId).record
        (resolveInteraction jwt secret runtime config answers accept
          (world.slots exchangeId).record).result,
      Backed jwt secret runtime config world issued := by
  intro issued member
  unfold grantedParticipation at member
  split at member
  · rename_i token maxAge exchange resolved found
    cases List.mem_singleton.mp member
    rw [found, resolveInteraction] at resolved
    split at resolved
    · cases resolved
      have slot := slot_of_record found
      refine ⟨rfl, ?_⟩
      change Continues exchange (world.slots exchange.exchangeId)
      rw [keyed exchangeId exchange slot, slot]
      rfl
    · rcases Action.result_map resolved with ⟨response, -, impossible⟩
      cases impossible
  · cases member

private theorem after_resolveInteraction (world : World) (accept : Option String)
    (exchangeId : String) (answers : Answers) :
    (world.after (resolveInteraction jwt secret runtime config answers accept
      (world.slots exchangeId).record)).slots = world.slots ∨
    World.step runtime config world (.request exchangeId "" .interaction answers) =
      some (world.after (resolveInteraction jwt secret runtime config answers accept
        (world.slots exchangeId).record)) := by
  unfold resolveInteraction
  split
  · left
    apply after_unsaved
    apply Action.saved_bind_eq_none rfl
    intro exchange
    rfl
  · right
    simp only [World.step, World.after, Action.saved_map, Action.calls_map]
    rfl

theorem step_accounted {state next : State} {label : Label}
    (accounted : Accounted jwt secret runtime config state)
    (stepped : step jwt secret runtime config state label = some next) :
    Accounted jwt secret runtime config next := by
  cases label with
  | serve event =>
      simp only [step] at stepped
      split at stepped
      · cases stepped
      · rcases Option.map_eq_some_iff.mp stepped with ⟨world, served, rfl⟩
        exact accounted_of_step accounted served
  | token now request =>
      cases stepped
      exact accounted_granted accounted (grantedAccess_backed state.world now request)
  | interaction accept exchangeId answers =>
      cases stepped
      have granted := accounted_granted accounted
        (grantedParticipation_backed accounted.keyed accept exchangeId answers)
      rcases after_resolveInteraction state.world accept exchangeId answers with
        same | served
      · exact accounted_of_slots granted same
      · exact accounted_of_step granted served
  | read now cookie authorization exchangeId workflowId answers =>
      cases stepped
      rcases getExchangeState_eq now cookie authorization exchangeId workflowId
          (state.world.slots exchangeId).record with
        ⟨thrown, failed⟩ | ⟨exchangeToken, routed⟩
      · rw [failed]
        exact accounted_of_slots accounted (after_unsaved state.world rfl)
      · rw [routed]
        have served : World.step (runtime.withJwt jwt now) config state.world
            (.request exchangeId workflowId (.exchangeDetail authorization exchangeToken)
              answers) =
            some (state.world.after (exchangeDetailRoute (runtime.withJwt jwt now) config
              answers authorization exchangeToken workflowId
              (state.world.slots exchangeId).record)) := rfl
        exact accounted_of_step accounted served

theorem start_accounted : Accounted jwt secret runtime config start := by
  constructor
  · intro exchangeId exchange found
    cases found
  · intro issued member
    cases member

theorem accounted_of_run {labels : List Label} {final : State}
    (runs : Machine.run (step jwt secret runtime config) start labels = some final) :
    Accounted jwt secret runtime config final := by
  have along : Machine.Along (step jwt secret runtime config) (fun _ _ => True) start
      labels := Machine.along_of_forall_mem (fun _ _ _ => trivial) start
  exact Machine.invariant_of_run (Accounted jwt secret runtime config)
    (fun _ _ _ accounted _ stepped => step_accounted accounted stepped)
    start_accounted along runs

/-! ## Who is entitled -/

/-- A credential that verifies was handed out by this service, with the payload
found in it: nobody else knows the two secrets. -/
structure Unforged (jwt : JwtLibrary) (secret : String) (config : Config) (state : State)
    (now : Timestamp) (cookie authorization : Option String) : Prop where
  cookie : ∀ token payload, cookie = some token →
    jwt.verify now token secret = some payload →
      ∃ grant, ⟨token, grant⟩ ∈ state.issued ∧ payload = grant.payload
  bearer : ∀ text token payload, authorization = some text → Auth.BearerHeader text token →
    jwt.verify now token config.accessJwtSecret = some payload →
      ∃ grant, ⟨token, grant⟩ ∈ state.issued ∧ payload = grant.payload

/-- The ways in which a request comes to be shown an exchange. A tenant named
with an empty Basic password is let in without proof. -/
inductive Entitled (runtime : Runtime) (config : Config) (state : State) (now : Timestamp)
    (cookie authorization : Option String) (exchange : Exchange) : Prop
  | unguarded (disabled : config.tenantAuthenticationEnabled = false)
  | participant (token : String) (shown : Exchange) (presents : cookie = some token)
      (issued : ⟨token, .participate shown⟩ ∈ state.issued)
      (same : identityOf exchange = identityOf shown) (inTime : now < exchange.expires)
  | basic (text user password : String) (tenant : Tenant) (sends : authorization = some text)
      (header : Auth.BasicHeader runtime text user password)
      (names : config.tenants.lookup (tenantKey runtime user) = some tenant)
      (secret : password = "" ∨ password = tenant.tenantToken)
      (own : tenant.tenantName = exchange.tenantName)
  | bearer (text name : String) (tenant : Tenant) (sends : authorization = some text)
      (listed : (name, tenant) ∈ config.tenants)
      (header : Auth.BearerHeader text tenant.tenantToken)
      (own : tenant.tenantName = exchange.tenantName)
  | client (text token : String) (issuedAt : Timestamp) (request : OAuthTokenRequest)
      (tenant : Tenant) (sends : authorization = some text)
      (header : Auth.BearerHeader text token)
      (issued : ⟨token, .access issuedAt request tenant⟩ ∈ state.issued)
      (client : ClientOf runtime config request tenant)
      (own : tenant.tenantName = exchange.tenantName)
      (inTime : now < issuedAt + 3600 * 1000)

/-! ## Tokens of one kind are no use as the other -/

variable {now : Timestamp}

theorem verifyExchangeToken_accepts {token : String} {payload : Json}
    (verified : verifyExchangeToken jwt secret now token = some payload) :
    jwt.verify now token secret = some payload ∧
      payload.field "scope" ≠ some (.str scopeExchangeManage) := by
  unfold verifyExchangeToken at verified
  split at verified
  · cases verified
  · rename_i found accepted
    split at verified
    · rename_i absent
      cases verified
      exact ⟨accepted, by simp [absent]⟩
    · rename_i absent
      cases verified
      exact ⟨accepted, by simp [absent]⟩
    · rename_i scope present
      have refused : tokenHasScope (some (.str scopeExchangeManage))
          scopeExchangeParticipate = .ok false := rfl
      split at verified
      · rename_i empty
        cases verified
        refine ⟨accepted, fun manages => ?_⟩
        rw [present] at manages
        cases manages
        cases empty
      · split at verified
        · rename_i participates
          cases verified
          refine ⟨accepted, fun manages => ?_⟩
          rw [present] at manages
          cases manages
          rw [refused] at participates
          cases participates
        · cases verified

theorem verifyAccessToken_accepts {token : String} {payload : Json}
    (verified : verifyAccessToken (runtime.withJwt jwt now) config token = some payload) :
    jwt.verify now token config.accessJwtSecret = some payload ∧
      Json.truthy (payload.field "sub") = true := by
  unfold verifyAccessToken at verified
  split at verified
  · cases verified
  · split at verified
    · cases verified
    · rename_i found accepted
      split at verified
      · cases verified
      · rename_i wellFormed
        split at verified
        · cases verified
          refine ⟨accepted, ?_⟩
          simp only [Bool.or_eq_true, not_or, Bool.not_eq_true', Bool.not_eq_false] at wellFormed
          exact wellFormed.1
        · cases verified

private theorem participates_of_cookie {token : String} {grant : Grant}
    (verified : verifyExchangeToken jwt secret now token = some grant.payload) :
    ∃ shown, grant = .participate shown := by
  cases grant with
  | access issuedAt request tenant =>
      exact absurd rfl (verifyExchangeToken_accepts verified).2
  | participate shown => exact ⟨shown, rfl⟩

private theorem manages_of_accessToken {token : String} {grant : Grant}
    (verified : verifyAccessToken (runtime.withJwt jwt now) config token =
      some grant.payload) :
    ∃ issuedAt request tenant, grant = .access issuedAt request tenant := by
  cases grant with
  | access issuedAt request tenant => exact ⟨issuedAt, request, tenant, rfl⟩
  | participate shown => cases (verifyAccessToken_accepts verified).2

/-! ## Every reader is entitled -/

private theorem lt_of_numericDate {earlier later : Int}
    (less : numericDate earlier < numericDate later) : earlier < later := by
  unfold numericDate at less
  omega

private theorem lt_of_numericDate_add {now issuedAt : Int}
    (less : numericDate now < numericDate issuedAt + defaultExpiresInSec) :
    now < issuedAt + 3600 * 1000 := by
  unfold numericDate defaultExpiresInSec at less
  omega

theorem Grant.field_exp (grant : Grant) :
    grant.payload.field "exp" = some (.num (toString grant.exp)) := by
  cases grant <;> rfl

private theorem entitled_of_cookie (expiring : jwt.Expiring) {state : State}
    (accounted : Accounted jwt secret runtime config state)
    {cookie authorization : Option String} {exchangeId workflowId token : String}
    {context : ReadContext} {loaded exchange : Exchange}
    (unforged : Unforged jwt secret config state now cookie authorization)
    (passes : authenticateExchangeOrTenantMiddleware jwt runtime config secret now cookie
      authorization exchangeId workflowId = .ok context)
    (carries : Text.given cookie = some token)
    (found : (state.world.slots exchangeId).record = some loaded)
    (same : identityOf exchange = identityOf loaded) :
    Entitled runtime config state now cookie authorization exchange := by
  have presents : cookie = some token := (Option.filter_eq_some_iff.mp carries).1
  rcases middleware_cookie passes carries with ⟨-, payload, verified, names, -⟩
  have accepted := (verifyExchangeToken_accepts verified).1
  rcases unforged.cookie token payload presents accepted with ⟨grant, issued, rfl⟩
  rcases participates_of_cookie verified with ⟨shown, rfl⟩
  have own : shown.exchangeId = exchangeId := by
    simpa [Grant.payload, exchangeTokenPayload, Json.field, Json.isText] using names
  have continues : Continues shown (state.world.slots shown.exchangeId) :=
    (accounted.backed _ issued).rests
  rw [own, slot_of_record found] at continues
  have isShown : identityOf exchange = identityOf shown := same.trans continues
  apply Entitled.participant token shown presents issued isShown
  have expires : exchange.expires = shown.expires := congrArg Identity.expires isShown
  rw [expires]
  exact lt_of_numericDate (expiring now token secret _ _ accepted (Grant.field_exp _))

private theorem configured_of_own {entry : TenantEntry} {tenantName : String}
    (own : entry.tenantName = some tenantName) :
    ∃ tenant, entry = .configured tenant ∧ tenant.tenantName = tenantName := by
  cases entry with
  | configured tenant => exact ⟨tenant, rfl, Option.some.inj own⟩
  | inherited reference => cases own

private theorem entitled_of_header (expiring : jwt.Expiring) (keyed : KeyedByName runtime config)
    {state : State} (accounted : Accounted jwt secret runtime config state)
    {cookie : Option String} {text : String} {entry : TenantEntry} {exchange : Exchange}
    (enabled : config.tenantAuthenticationEnabled = true)
    (unforged : Unforged jwt secret config state now cookie (some text))
    (accepted : tenantFromAuthorizationHeader (runtime.withJwt jwt now) config (some text) =
      .ok (some entry))
    (shown : entry.tenantName = some exchange.tenantName) :
    Entitled runtime config state now cookie (some text) exchange := by
  rcases configured_of_own shown with ⟨tenant, rfl, own⟩
  rcases Auth.accepted_cases enabled accepted with ⟨user, -, header, names⟩ | proof
  · exact .basic text user "" tenant rfl header (Config.tenantAt_eq_configured.mp names)
      (.inl rfl) own
  cases proof with
  | basic user password header names secret =>
      exact .basic text user password tenant rfl header
        (Config.tenantAt_eq_configured.mp names) (.inr (Option.some.inj secret).symm) own
  | bearer token header listed secret =>
      rcases listed with ⟨name, holder, member, same⟩
      cases same
      cases secret
      exact .bearer text name tenant rfl member header own
  | accessToken token sub payload header verified subject names =>
      have genuine := (verifyAccessToken_accepts verified).1
      rcases unforged.bearer text token payload rfl header genuine with ⟨grant, issued, rfl⟩
      rcases manages_of_accessToken verified with ⟨issuedAt, request, named, rfl⟩
      have client : ClientOf runtime config request named :=
        (accounted.backed _ issued).rests.1
      -- the subject is the tenant's own name, and leads back to the tenant
      cases subject
      have back := keyed _ named client.names
      have isNamed : named = tenant := by
        have found : config.tenants.lookup (runtime.toLowerCase named.tenantName) =
            some tenant := Config.tenantAt_eq_configured.mp names
        rw [back] at found
        exact Option.some.inj (client.names.symm.trans found)
      subst isNamed
      apply Entitled.client text token issuedAt request named rfl header issued client own
      exact lt_of_numericDate_add (expiring now token config.accessJwtSecret _ _ genuine
        (Grant.field_exp _))

/-- In every run, an exchange is shown only to the holder of a token that came with
its own page and before it expires, and to those who prove that they know the
secret of its tenant or were given, for that secret, an access token in the last
hour; an empty Basic password counts as proof. -/
theorem every_reader_entitled (expiring : jwt.Expiring) (keyed : KeyedByName runtime config)
    {labels : List Label} {state : State}
    (runs : Machine.run (step jwt secret runtime config) start labels = some state)
    {cookie authorization : Option String} {exchangeId workflowId : String}
    {answers : Answers} {exchange : Exchange} {status : Nat}
    (unforged : Unforged jwt secret config state now cookie authorization)
    (answered : (getExchangeState jwt secret runtime config answers now cookie authorization
      exchangeId workflowId (state.world.slots exchangeId).record).result =
        .ok { status, body := .exchange exchange }) :
    Entitled runtime config state now cookie authorization exchange := by
  have accounted := accounted_of_run runs
  rcases getExchangeState_ok answered with
    ⟨context, loaded, passes, found, addressed, allowed, same⟩
  cases carries : Text.given cookie with
  | some token =>
      exact entitled_of_cookie expiring accounted unforged passes carries found same
  | none =>
      cases enabled : config.tenantAuthenticationEnabled with
      | false => exact .unguarded enabled
      | true =>
          rcases middleware_tenant passes carries with ⟨bare, authenticated⟩
          rcases Auth.authenticated_as enabled authenticated with
            ⟨text, tenant, rfl, isTenant, accepted⟩
          have own : tenant.tenantName = some exchange.tenantName := by
            have sameTenant : exchange.tenantName = loaded.tenantName :=
              congrArg Identity.tenantName same
            rw [sameTenant]
            simpa [authorizeRead, bare, enabled, isTenant] using allowed
          exact entitled_of_header expiring keyed accounted enabled unforged accepted own

/-! ## What a token opens -/

/-- The library accepts the token as long as it is valid; a compact token has no
blanks. -/
structure Honoured (jwt : JwtLibrary) (secret : String) (config : Config)
    (issued : Issued) : Prop where
  verifies : ∀ now, numericDate now < issued.grant.exp →
    jwt.verify now issued.token (issued.grant.secret config secret) =
      some issued.grant.payload
  nonempty : issued.token ≠ ""
  compact : ' ' ∉ issued.token.toList

def sweptAnswer (config : Config) (answers : Answers) (current : Exchange) :
    Handler Response := do
  let exchange ← sweepIfTimedOut config answers current (some current)
  return { status := 200, body := .exchange exchange }

theorem getExchangeData_found {stored : Option Exchange} {exchange : Exchange}
    {workflowId : String} (found : stored = some exchange)
    (addressed : exchange.workflowId.text = workflowId) :
    getExchangeData stored workflowId = .ok exchange := by
  simp [found, getExchangeData, addressed]

theorem addWorkflowByParam_text (workflowId : WorkflowId) :
    addWorkflowByParam workflowId.text = .ok () := by
  simp [addWorkflowByParam, WorkflowId.ofText?_text]

private theorem verifyExchangeToken_participates {shown : Exchange} {token : String}
    (honoured : Honoured jwt secret config ⟨token, .participate shown⟩)
    (inTime : numericDate now < numericDate shown.expires) :
    verifyExchangeToken jwt secret now token = some (Grant.participate shown).payload := by
  have verified : jwt.verify now token secret = some (Grant.participate shown).payload :=
    honoured.verifies now inTime
  simp only [verifyExchangeToken, verified]
  rfl

theorem Grant.field_exchangeId (shown : Exchange) :
    (Grant.participate shown).payload.field "exchangeId" = some (.str shown.exchangeId) :=
  rfl

theorem Grant.field_workflowId (shown : Exchange) :
    (Grant.participate shown).payload.field "workflowId" =
      some (.str shown.workflowId.text) :=
  rfl

private theorem participant_reads {state : State}
    (accounted : Accounted jwt secret runtime config state) {token : String}
    {shown : Exchange} (issued : ⟨token, .participate shown⟩ ∈ state.issued)
    (honoured : Honoured jwt secret config ⟨token, .participate shown⟩)
    (inTime : numericDate now < numericDate shown.expires)
    (authorization : Option String) (exchangeId workflowId : String) (answers : Answers) :
    getExchangeState jwt secret runtime config answers now (some token) authorization
        exchangeId workflowId (state.world.slots exchangeId).record =
      if exchangeId = shown.exchangeId ∧ workflowId = shown.workflowId.text then
        match (state.world.slots exchangeId).record with
        | some current => sweptAnswer config answers current
        | none => throwHttp 404 "Unknown exchangeId."
      else throwHttp 401 "Invalid or insufficient exchange token" := by
  have verified := verifyExchangeToken_participates honoured inTime
  have carries : Text.given (some token) = some token := Text.given_some honoured.nonempty
  split
  · rename_i named
    rcases named with ⟨rfl, rfl⟩
    have passes : authenticateExchangeOrTenantMiddleware jwt runtime config secret now
        (some token) authorization shown.exchangeId shown.workflowId.text =
        .ok { exchangeTokenAuth := true } := by
      simp [authenticateExchangeOrTenantMiddleware, carries, verified,
        Grant.field_exchangeId, Grant.field_workflowId]
    rw [getExchangeState, passes, Action.ofExcept_ok_bind, addWorkflowByParam_text,
      Action.ofExcept_ok_bind]
    have continues : Continues shown (state.world.slots shown.exchangeId) :=
      (accounted.backed _ issued).rests
    cases slot : state.world.slots shown.exchangeId with
    | vacant =>
        rw [slot] at continues
        exact continues.elim
    | evicted => rfl
    | stored current =>
        rw [slot] at continues
        have addressed : current.workflowId.text = shown.workflowId.text := by
          have same : current.workflowId = shown.workflowId :=
            congrArg Identity.workflowId continues
          rw [same]
        have found : getExchangeData (Slot.stored current).record shown.workflowId.text =
            .ok current := getExchangeData_found rfl addressed
        have allowed : authorizeRead config none true current = .ok () := rfl
        rw [found, Action.ofExcept_ok_bind, allowed, Action.ofExcept_ok_bind]
        rfl
  · rename_i other
    have refused : authenticateExchangeOrTenantMiddleware jwt runtime config secret now
        (some token) authorization exchangeId workflowId = .error (.http {
          status := 401
          message := "Invalid or insufficient exchange token" }) := by
      have differs : shown.exchangeId = exchangeId → ¬ shown.workflowId.text = workflowId :=
        fun exchange workflow => other ⟨exchange.symm, workflow.symm⟩
      simpa [authenticateExchangeOrTenantMiddleware, carries, verified,
        Grant.field_exchangeId, Grant.field_workflowId] using differs
    rw [getExchangeState, refused, Action.ofExcept_error_bind]
    rfl

private theorem tenantFromAuthorizationHeader_bearer {running : Runtime} {token : String}
    (compact : ' ' ∉ token.toList) :
    tenantFromAuthorizationHeader running config (some ("Bearer " ++ token)) =
      authenticateTenant running config token := by
  have pieces : Text.splitOn ' ' ("Bearer " ++ token) = ["Bearer", token] := by
    have characters : ("Bearer " ++ token).toList =
        "Bearer".toList ++ ' ' :: token.toList := by simp
    rw [Text.splitOn, characters, List.splitOn_append_cons_self_of_not_mem (by decide),
      List.splitOn_eq_singleton compact]
    simp
  have nonempty : "Bearer " ++ token ≠ "" := by
    intro empty
    have := congrArg String.toList empty
    simp at this
  simp [tenantFromAuthorizationHeader, Text.given_some nonempty, pieces]

theorem Grant.field_sub (issuedAt : Timestamp) (request : OAuthTokenRequest)
    (tenant : Tenant) :
    (Grant.access issuedAt request tenant).payload.field "sub" =
      some (.str tenant.tenantName) :=
  rfl

private theorem Grant.field_scope (issuedAt : Timestamp) (request : OAuthTokenRequest)
    (tenant : Tenant) :
    (Grant.access issuedAt request tenant).payload.field "scope" =
      some (.str scopeExchangeManage) :=
  rfl

private theorem client_authenticated {state : State} (keyed : KeyedByName runtime config)
    (accounted : Accounted jwt secret runtime config state) {token : String}
    {issuedAt : Timestamp} {request : OAuthTokenRequest} {tenant : Tenant}
    (enabled : config.tenantAuthenticationEnabled = true) (named : tenant.tenantName ≠ "")
    (issued : ⟨token, .access issuedAt request tenant⟩ ∈ state.issued)
    (honoured : Honoured jwt secret config ⟨token, .access issuedAt request tenant⟩)
    (inTime : numericDate now < numericDate issuedAt + defaultExpiresInSec) :
    authenticateTenantMiddleware (runtime.withJwt jwt now) config
      (some ("Bearer " ++ token)) = .ok (some (.configured tenant)) := by
  rcases (accounted.backed _ issued).rests with ⟨client, configured⟩
  have verified : jwt.verify now token config.accessJwtSecret =
      some (Grant.access issuedAt request tenant).payload := honoured.verifies now inTime
  have accepted : verifyAccessToken (runtime.withJwt jwt now) config token =
      some (Grant.access issuedAt request tenant).payload := by
    have manages : tokenHasScope (some (.str scopeExchangeManage)) scopeExchangeManage =
        .ok true := rfl
    have isVerified : (runtime.withJwt jwt now).verifyJwt token config.accessJwtSecret =
      some (Grant.access issuedAt request tenant).payload := verified
    simp [verifyAccessToken, configured, isVerified, Grant.field_sub, Grant.field_exp,
      Grant.field_scope, Json.truthy, Json.isTruthy, Json.isNumber, named, manages]
  have back : config.tenantAt (runtime.toLowerCase tenant.tenantName) =
      some (.configured tenant) := by
    rw [keyed _ tenant client.names]
    exact Config.tenantAt_of_lookup client.names
  have authenticated : authenticateTenant (runtime.withJwt jwt now) config token =
      .ok (some (.configured tenant)) := by
    simp only [authenticateTenant, enabled, accepted, Grant.field_sub]
    exact congrArg Except.ok back
  simp [authenticateTenantMiddleware, enabled,
    tenantFromAuthorizationHeader_bearer honoured.compact, authenticated]

private theorem client_reads {state : State} (keyed : KeyedByName runtime config)
    (accounted : Accounted jwt secret runtime config state) {token : String}
    {issuedAt : Timestamp} {request : OAuthTokenRequest} {tenant : Tenant}
    (enabled : config.tenantAuthenticationEnabled = true) (named : tenant.tenantName ≠ "")
    (issued : ⟨token, .access issuedAt request tenant⟩ ∈ state.issued)
    (honoured : Honoured jwt secret config ⟨token, .access issuedAt request tenant⟩)
    (inTime : numericDate now < numericDate issuedAt + defaultExpiresInSec)
    (exchangeId : String) (answers : Answers) (current : Exchange) :
    getExchangeState jwt secret runtime config answers now none (some ("Bearer " ++ token))
        exchangeId current.workflowId.text (some current) =
      if current.tenantName = tenant.tenantName then sweptAnswer config answers current
      else throwHttp 401 "Unauthorized" := by
  have authenticated := client_authenticated keyed accounted enabled named issued honoured
    inTime
  have passes : authenticateExchangeOrTenantMiddleware jwt runtime config secret now none
      (some ("Bearer " ++ token)) exchangeId current.workflowId.text =
      .ok { authTenant := some (.configured tenant) } := by
    simp only [authenticateExchangeOrTenantMiddleware, Text.given_none, authenticated]
    rfl
  rw [getExchangeState, passes, Action.ofExcept_ok_bind, addWorkflowByParam_text,
    Action.ofExcept_ok_bind, getExchangeData_found rfl rfl, Action.ofExcept_ok_bind]
  split
  · rename_i own
    have allowed : authorizeRead config (some (.configured tenant)) false current = .ok () := by
      simp [authorizeRead, TenantEntry.tenantName, own]
    rw [allowed, Action.ofExcept_ok_bind]
    rfl
  · rename_i foreign
    have refused : authorizeRead config (some (.configured tenant)) false current =
        .error (.http { status := 401, message := "Unauthorized" }) := by
      simp [authorizeRead, TenantEntry.tenantName, enabled, Ne.symm foreign]
    rw [refused, Action.ofExcept_error_bind]
    rfl

/-- What the holder of a token may read while it is valid: a cookie opens the one
exchange it came with, an access token the exchanges of the tenant. -/
def Opens (jwt : JwtLibrary) (secret : String) (runtime : Runtime) (config : Config)
    (state : State) (now : Timestamp) (issued : Issued) : Prop :=
  match issued.grant with
  | .participate shown => ∀ authorization exchangeId workflowId answers,
      getExchangeState jwt secret runtime config answers now (some issued.token) authorization
          exchangeId workflowId (state.world.slots exchangeId).record =
        if exchangeId = shown.exchangeId ∧ workflowId = shown.workflowId.text then
          match (state.world.slots exchangeId).record with
          | some current => sweptAnswer config answers current
          | none => throwHttp 404 "Unknown exchangeId."
        else throwHttp 401 "Invalid or insufficient exchange token"
  | .access _ _ tenant => tenant.tenantName ≠ "" → ∀ exchangeId answers current,
      (state.world.slots exchangeId).record = some current →
      getExchangeState jwt secret runtime config answers now none
          (some ("Bearer " ++ issued.token)) exchangeId current.workflowId.text
          (some current) =
        if current.tenantName = tenant.tenantName then sweptAnswer config answers current
        else throwHttp 401 "Unauthorized"

/-- In every run, each token that was handed out opens what it was handed out for,
and nothing else, until it expires. -/
theorem every_token_opens (keyed : KeyedByName runtime config)
    (enabled : config.tenantAuthenticationEnabled = true) {labels : List Label}
    {state : State}
    (runs : Machine.run (step jwt secret runtime config) start labels = some state)
    {issued : Issued} (member : issued ∈ state.issued)
    (honoured : Honoured jwt secret config issued)
    (inTime : numericDate now < issued.grant.exp) :
    Opens jwt secret runtime config state now issued := by
  have accounted := accounted_of_run runs
  rcases issued with ⟨token, grant⟩
  cases grant with
  | participate shown =>
      intro authorization exchangeId workflowId answers
      exact participant_reads accounted member honoured inTime authorization exchangeId
        workflowId answers
  | access issuedAt request tenant =>
      intro named exchangeId answers current _
      exact client_reads keyed accounted enabled named member honoured inTime exchangeId
        answers current

end

/-! ## A page and its cookie -/

def pageToken : String := "header.payload.signature"

def pageJwt : JwtLibrary where
  sign _ _ := pageToken
  verify now token _ :=
    if token = pageToken ∧ numericDate now < 600 then
      some (exchangeTokenPayload "exchange-1" "verify" 600)
    else none

def pageLabels : List Label :=
  [.serve Finality.createVerify,
    .interaction (some "text/html") "exchange-1" Answers.plain]

private theorem pageJwt_expiring : pageJwt.Expiring := by
  intro now token secret payload exp verified expiry
  simp only [pageJwt] at verified
  split at verified
  · rename_i valid
    cases verified
    have numerals : some (Json.num (toString (600 : Int))) = some (.num (toString exp)) :=
      expiry
    rw [← Text.toString_int_injective (Json.num.inj (Option.some.inj numerals))]
    exact valid.2
  · cases verified

theorem acme_keyedByName : KeyedByName Auth.acmeRuntime Auth.acmeConfig := by
  intro key tenant found
  have member := mem_of_lookup found
  cases List.mem_singleton.mp member
  rfl

theorem page_run : ∃ state shown,
    Machine.run (step pageJwt "secret" Auth.acmeRuntime Auth.acmeConfig) start pageLabels =
      some state ∧
    ⟨pageToken, .participate shown⟩ ∈ state.issued ∧ shown.exchangeId = "exchange-1" ∧
    shown.workflowId = .verify ∧ shown.expires = 600000 ∧
    (state.world.slots "exchange-1").record = some shown :=
  ⟨_, _, rfl, List.mem_cons_self, rfl, rfl, rfl, rfl⟩

theorem page_reader_entitled : ∃ state exchange,
    Machine.run (step pageJwt "secret" Auth.acmeRuntime Auth.acmeConfig) start pageLabels =
      some state ∧
    Entitled Auth.acmeRuntime Auth.acmeConfig state 1000 (some pageToken) none exchange := by
  rcases page_run with ⟨state, shown, runs, issued, named, workflow, expires, found⟩
  have answered : ∃ exchange, (getExchangeState pageJwt "secret" Auth.acmeRuntime
      Auth.acmeConfig Answers.plain 1000 (some pageToken) none "exchange-1" "verify"
      (state.world.slots "exchange-1").record).result =
        .ok { status := 200, body := .exchange exchange } := by
    cases Option.some.inj runs
    exact ⟨_, rfl⟩
  rcases answered with ⟨exchange, answered⟩
  refine ⟨state, exchange, runs, every_reader_entitled pageJwt_expiring acme_keyedByName runs
    ⟨?_, ?_⟩ answered⟩
  · intro token payload presents verified
    cases presents
    cases Option.some.inj verified
    refine ⟨_, issued, ?_⟩
    simp [Grant.payload, Grant.exp, named, workflow, expires]
    rfl
  · intro text token payload impossible
    cases impossible

theorem page_token_opens : ∃ state shown,
    Machine.run (step pageJwt "secret" Auth.acmeRuntime Auth.acmeConfig) start pageLabels =
      some state ∧
    shown.exchangeId = "exchange-1" ∧
    Opens pageJwt "secret" Auth.acmeRuntime Auth.acmeConfig state 1000
      ⟨pageToken, .participate shown⟩ := by
  rcases page_run with ⟨state, shown, runs, issued, named, workflow, expires, -⟩
  have exp : (Grant.participate shown).exp = 600 := by simp [Grant.exp, expires, numericDate]
  have nonempty : pageToken ≠ "" := by decide
  have compact : ' ' ∉ pageToken.toList := by decide
  refine ⟨state, shown, runs, named, every_token_opens acme_keyedByName rfl runs issued
    ⟨?_, nonempty, compact⟩ ?_⟩
  · intro now valid
    change numericDate now < (Grant.participate shown).exp at valid
    rw [exp] at valid
    simp only [pageJwt, valid, and_self, if_true, Grant.payload, exp, named, workflow]
    rfl
  · change numericDate 1000 < (Grant.participate shown).exp
    rw [exp]
    decide

end TransactionService.Gateway
