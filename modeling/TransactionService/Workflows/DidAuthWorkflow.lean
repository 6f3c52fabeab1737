import TransactionService.DidAuth
import TransactionService.Store
import TransactionService.Workflows

namespace TransactionService

/-! # The didAuth workflow -/

def verifiableCryptosuites : Json :=
  .arr [
    .obj [("cryptosuite", .str "eddsa-rdfc-2022")],
    .obj [("cryptosuite", .str "ecdsa-rdfc-2019")],
    .obj [("cryptosuite", .str "ed25519-signature-2020")]]

def interactService (type serviceEndpoint : String) : Json :=
  .obj [("type", .str type), ("serviceEndpoint", .str serviceEndpoint)]

def getDIDAuthVPR (exchange : Exchange) : Json :=
  .obj [
    ("query", .obj [("type", .str "DIDAuthentication")]),
    ("interact", .obj [("service", .arr [
      interactService "VerifiableCredentialApiExchangeService" (exchangeUrl exchange),
      interactService "UnmediatedPresentationService2021" (exchangeUrl exchange),
      .obj [("type", .str "CredentialHandlerService")]])]),
    ("challenge", .str exchange.baseVariables.challenge),
    ("domain", .str exchange.baseVariables.exchangeHost),
    ("acceptedCryptosuites", verifiableCryptosuites)]

def didAuthCompleted (exchange : ExchangeDetailDidAuth) (holder : String)
    (compatLog : Option (List CheckResult)) : ExchangeDetailDidAuth :=
  { exchange with
    state := .complete
    vars := { exchange.vars with results := some { holder, compatLog } } }

def redirectTo (redirectUrl : Option String) : Json :=
  .obj [("redirectUrl", .str (redirectUrl.getD ""))]

section

variable (runtime : Runtime) (config : Config) (answers : Answers)

def participateInDidAuthExchange (data : Json) (exchange : ExchangeDetailDidAuth) :
    Handler Json := do
  let debug := exchange.vars.debug.getD config.defaultExchangeDebug
  let didAuthResult ← verifyDIDAuth runtime answers data exchange.vars.challenge debug
  match didAuthResult with
  | .rejected problemDetails _ =>
      throwHttp 401 "Invalid DIDAuth or unsupported options."
        (some (problemDetails.map Problem.detail))
  | .verified none _ =>
      throwHttp 401 "Could not determine holder DID from the DIDAuth proof signer."
  | .verified (some holder) compatLog => do
      saveExchange answers (.didAuth (didAuthCompleted exchange holder compatLog))
      return redirectTo exchange.vars.redirectUrl

theorem participateInDidAuthExchange_saved {data : Json}
    {exchange : ExchangeDetailDidAuth} {record : Exchange}
    (writes : (participateInDidAuthExchange runtime config answers data exchange).saved =
      some record) :
    ∃ holder compatLog, record = .didAuth (didAuthCompleted exchange holder compatLog) := by
  simp only [participateInDidAuthExchange] at writes
  rcases Action.saved_bind_of_none (verifyDIDAuth_saved ..) writes with
    ⟨didAuthResult, -, later⟩
  split at later
  · cases later
  · cases later
  · rename_i holder compatLog
    rcases Action.saved_bind later with written | ⟨_, _, nothing⟩
    · exact ⟨holder, compatLog, saveExchange_saved written⟩
    · cases nothing

theorem participateInDidAuthExchange_response {data body : Json}
    {exchange : ExchangeDetailDidAuth}
    (succeeds : (participateInDidAuthExchange runtime config answers data exchange).result =
      .ok body) : body = redirectTo exchange.vars.redirectUrl := by
  unfold participateInDidAuthExchange at succeeds
  rcases Action.result_bind succeeds with ⟨didAuthResult, -, later⟩
  split at later
  · cases later
  · cases later
  · rcases Action.result_bind later with ⟨_, -, responds⟩
    exact (Except.ok.inj responds).symm

end

end TransactionService
