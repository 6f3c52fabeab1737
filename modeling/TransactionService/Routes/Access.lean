import TransactionService.Auth.Tokens
import TransactionService.Routes.Identity
import TransactionService.VerifyTask.SweepProgress

namespace TransactionService

/-! # Reading an exchange from outside

The interaction URL of `interactions.ts`, which hands out exchange tokens, and
the state route of `hono.ts` behind the middleware that accepts them. -/

section

variable (jwt : JwtLibrary) (secret : String) (runtime : Runtime) (config : Config)
  (answers : Answers)

/-! ## The interaction URL -/

def prefersHtml (accept : Option String) : Bool :=
  match Text.given accept with
  | none => false
  | some accept =>
      Text.includes "text/html" accept ||
        (Text.includes "*/*" accept && !Text.includes "application/json" accept)

/-- A page is answered with a cookie. -/
inductive InteractionResult
  | html (token : String) (maxAge : Int)
  | json (response : Response)

def resolveInteraction (accept : Option String) (stored : Option Exchange) :
    Handler InteractionResult :=
  if prefersHtml accept then do
    let exchangeData ← Action.ofExcept (getExchangeDataById stored)
    let token := signExchangeToken jwt secret exchangeData.exchangeId
      exchangeData.workflowId.text exchangeData.expires
    return .html token ((exchangeData.expires - answers.clock 0) / 1000)
  else .json <$> interactionRoute runtime config answers stored

/-! ## The state route -/

def getExchangeState (now : Timestamp) (cookie authorization : Option String)
    (exchangeId workflowId : String) (stored : Option Exchange) : Handler Response := do
  let context ← Action.ofExcept (authenticateExchangeOrTenantMiddleware jwt runtime config
    secret now cookie authorization exchangeId workflowId)
  Action.ofExcept (addWorkflowByParam workflowId)
  let loaded ← Action.ofExcept (getExchangeData stored workflowId)
  Action.ofExcept (authorizeRead config context.authTenant context.exchangeTokenAuth loaded)
  let exchange ← sweepIfTimedOut config answers loaded stored
  return { status := 200, body := .exchange exchange }

end

variable {jwt : JwtLibrary} {secret : String} {runtime : Runtime} {config : Config}
  {answers : Answers}

/-! ## The middleware -/

theorem middleware_cookie {now : Timestamp} {cookie authorization : Option String}
    {exchangeId workflowId : String} {context : ReadContext}
    (passes : authenticateExchangeOrTenantMiddleware jwt runtime config secret now cookie
      authorization exchangeId workflowId = .ok context) {token : String}
    (carries : Text.given cookie = some token) :
    context = { exchangeTokenAuth := true } ∧
      ∃ payload, verifyExchangeToken jwt secret now token = some payload ∧
        (payload.field "exchangeId").any (·.isText exchangeId) = true ∧
        (payload.field "workflowId").any (·.isText workflowId) = true := by
  simp only [authenticateExchangeOrTenantMiddleware, carries] at passes
  split at passes
  · rename_i payload verified
    split at passes
    · rename_i names
      cases passes
      rcases Bool.and_eq_true_iff.mp names with ⟨exchange, workflow⟩
      exact ⟨rfl, payload, verified, exchange, workflow⟩
    · cases passes
  · cases passes

theorem middleware_tenant {now : Timestamp} {cookie authorization : Option String}
    {exchangeId workflowId : String} {context : ReadContext}
    (passes : authenticateExchangeOrTenantMiddleware jwt runtime config secret now cookie
      authorization exchangeId workflowId = .ok context)
    (bare : Text.given cookie = none) :
    context.exchangeTokenAuth = false ∧
      authenticateTenantMiddleware (runtime.withJwt jwt now) config authorization =
        .ok context.authTenant := by
  simp only [authenticateExchangeOrTenantMiddleware, bare] at passes
  rcases Fallible.bind_eq_ok.mp passes with ⟨authTenant, authenticated, returned⟩
  cases returned
  exact ⟨rfl, authenticated⟩

theorem getExchangeState_eq (now : Timestamp) (cookie authorization : Option String)
    (exchangeId workflowId : String) (stored : Option Exchange) :
    (∃ thrown, getExchangeState jwt secret runtime config answers now cookie authorization
      exchangeId workflowId stored = Action.fail thrown) ∨
    ∃ exchangeToken, getExchangeState jwt secret runtime config answers now cookie
      authorization exchangeId workflowId stored =
        exchangeDetailRoute (runtime.withJwt jwt now) config answers authorization
          exchangeToken workflowId stored := by
  cases middleware : authenticateExchangeOrTenantMiddleware jwt runtime config secret now
      cookie authorization exchangeId workflowId with
  | error thrown =>
      exact .inl ⟨thrown, by rw [getExchangeState, middleware, Action.ofExcept_error_bind]⟩
  | ok context =>
      refine .inr ⟨context.exchangeTokenAuth, ?_⟩
      cases carries : Text.given cookie with
      | none =>
          rcases middleware_tenant middleware carries with ⟨bare, authenticated⟩
          simp [getExchangeState, exchangeDetailRoute, middleware, authenticateRead, bare,
            authenticated]
      | some token =>
          rcases middleware_cookie middleware carries with ⟨rfl, -⟩
          simp [getExchangeState, exchangeDetailRoute, middleware, authenticateRead]

/-! ## What is shown -/

private theorem sweepIfTimedOut_identity {loaded exchange : Exchange}
    (swept : (sweepIfTimedOut config answers loaded (some loaded)).result = .ok exchange) :
    identityOf exchange = identityOf loaded := by
  cases planned : planSweep config answers loaded with
  | none =>
      rw [SweepProgress.sweepIfTimedOut_unplanned planned] at swept
      cases swept
      rfl
  | some plan =>
      rw [SweepProgress.sweepIfTimedOut_planned planned] at swept
      split at swept
      · cases swept
        exact planSweep_identity planned
      · cases swept

theorem getExchangeState_ok {now : Timestamp} {cookie authorization : Option String}
    {exchangeId workflowId : String} {stored : Option Exchange} {exchange : Exchange}
    {status : Nat}
    (answered : (getExchangeState jwt secret runtime config answers now cookie authorization
      exchangeId workflowId stored).result = .ok { status, body := .exchange exchange }) :
    ∃ context loaded,
      authenticateExchangeOrTenantMiddleware jwt runtime config secret now cookie
        authorization exchangeId workflowId = .ok context ∧
      stored = some loaded ∧ loaded.workflowId.text = workflowId ∧
      authorizeRead config context.authTenant context.exchangeTokenAuth loaded = .ok () ∧
      identityOf exchange = identityOf loaded := by
  rcases Action.result_bind answered with ⟨context, passes, rest⟩
  rcases Action.result_bind rest with ⟨-, -, rest⟩
  rcases Action.result_bind rest with ⟨loaded, found, rest⟩
  rcases Action.result_bind rest with ⟨_, allowed, rest⟩
  rcases Action.result_bind rest with ⟨shown, swept, returned⟩
  cases returned
  have isStored : stored = some loaded ∧ loaded.workflowId.text = workflowId := by
    change getExchangeData stored workflowId = .ok loaded at found
    unfold getExchangeData at found
    split at found
    · cases found
    · split at found
      · cases found
      · rename_i same
        cases found
        exact ⟨rfl, Decidable.not_not.mp same⟩
  rcases isStored with ⟨rfl, addressed⟩
  exact ⟨context, loaded, passes, rfl, addressed, allowed, sweepIfTimedOut_identity swept⟩

end TransactionService
