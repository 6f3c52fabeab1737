import TransactionService.Workflows.VerifyWorkflow

namespace TransactionService

/-! # The verify workflow: submissions

Preparing a posted presentation, having it verified, and storing either the
final results or the synchronous results with a queued task. -/

structure PreparedPresentation where
  presentation : Json
  compatLog : List CheckResult
  debug : Bool

def missingMember (name : String) : HttpException :=
  let message := name ++ " is required for verification"
  { status := 400
    message
    problemDetails := some [.detail (makeProblemDetail malformedValueError
      ("at verifiablePresentation." ++ name ++ ": " ++ message))] }

def credentialProblems (credentials : List Json) : List Problem :=
  credentials.zipIdx.flatMap fun entry =>
    parseCredential entry.1 ("credential[" ++ toString entry.2 ++ "]")

/-- What the verify workflow demands of a presentation beyond its schema. -/
def assertVerifiable (presentation : Json) : Except Thrown Unit :=
  if !Json.truthy (presentation.field "holder") then
    .error (.http (missingMember "holder"))
  else
    match presentation.field "verifiableCredential" with
    | none => .error (.http (missingMember "verifiableCredential"))
    | some credentials =>
        match credentialProblems credentials.arrayOf with
        | [] => .ok ()
        | vcErrors => .error (.http {
            status := 400
            message := "Invalid Verifiable Credential(s)"
            problemDetails := some vcErrors })

section

variable (runtime : Runtime) (config : Config) (answers : Answers)

def preparePresentationForVerify (data : Json) (exchange : ExchangeDetailVerify) :
    Except Thrown PreparedPresentation := do
  let prepared := preparePresentation runtime data
  assertValidVerifiablePresentationStructure prepared.result
  assertVerifiable prepared.result
  return {
    presentation := prepared.result
    compatLog := prepared.log
    debug := exchange.vars.debug.getD config.defaultExchangeDebug }

def registriesFor (exchange : ExchangeDetailVerify) : List EntityIdentityRegistry :=
  let trustedRegistries := exchange.vars.trustedRegistries.getD []
  mapRegistryNamesToRegistries runtime
    (if trustedRegistries.isEmpty then config.defaultTrustedRegistryNames
      else trustedRegistries)
    config.knownRegistries

def verifierOptions (exchange : ExchangeDetailVerify) : VerifierOptions :=
  exchange.vars.options.getD {}

def verifyCallFor (exchange : ExchangeDetailVerify) (presentation : Json) :
    VerifyPresentationCall where
  presentation := presentation
  challenge := exchange.vars.challenge
  registries := some (registriesFor runtime config exchange)
  verbose := (verifierOptions exchange).verbose
  timing := (verifierOptions exchange).timing

def identifyOpenBadgesCredentialIndices
    (credentialResults : List (CredentialVerificationResult CoreCheckResult)) : List Nat :=
  (List.range credentialResults.length).filter fun index =>
    credentialResults[index]?.any fun credentialResult =>
      runtime.isOpenBadgeCredential credentialResult.verifiableCredential

/-- The exchange stored between the synchronous and the Open Badges pass. -/
def withSyncResultsAndQueuedVerifyTask (exchange : ExchangeDetailVerify)
    (result : PresentationVerificationResult) (compatLog : List CheckResult)
    (debug : Bool) (openBadgesCredentialIndices : List Nat) :
    Except Thrown ExchangeDetailVerify := do
  let finalized ← applyVerificationResults exchange result compatLog debug
  return withVerifyTask { finalized with state := .active }
    (newVerifyTask (answers.clock 0) (answers.randomUUID 0) openBadgesCredentialIndices
      config.verifyTaskDeadlineMs config.verifyTaskMaxAttempts)

def buildVerificationResponse (exchange : ExchangeDetailVerify) : Json :=
  match Text.given exchange.vars.redirectUrl with
  | some redirectUrl => .obj [("redirectUrl", .str redirectUrl)]
  | none => .obj []

def participateInVerifyExchange (data : Json) (exchange : ExchangeDetailVerify) :
    Handler Json := do
  let prepared ← Action.ofExcept (preparePresentationForVerify runtime config data exchange)
  let result ← verifyPresentation answers
    (verifyCallFor runtime config exchange prepared.presentation)
  let obIndices := identifyOpenBadgesCredentialIndices runtime result.credentialResults
  if obIndices.isEmpty then
    let finalized ← Action.ofExcept
      (applyVerificationResults exchange result prepared.compatLog prepared.debug)
    saveExchange answers (.verify finalized)
    return buildVerificationResponse finalized
  else
    let intermediate ← Action.ofExcept
      (withSyncResultsAndQueuedVerifyTask config answers exchange result
        prepared.compatLog prepared.debug obIndices)
    saveExchange answers (.verify intermediate)
    Action.perform (.enqueueVerifyTask intermediate.exchangeId) (.ok ())
    return buildVerificationResponse intermediate

/-! ## What a submission stores -/

def submittedResult (data : Json) (exchange : ExchangeDetailVerify) :
    Option PresentationVerificationResult :=
  match preparePresentationForVerify runtime config data exchange with
  | .error _ => none
  | .ok prepared =>
      (answers.verifyPresentation
        (verifyCallFor runtime config exchange prepared.presentation)).toOption

inductive SubmissionStores (data : Json) (exchange : ExchangeDetailVerify) :
    Exchange → Prop
  | finalized {result : PresentationVerificationResult} {log : List CheckResult}
      {debug : Bool} {stored : ExchangeDetailVerify}
      (accepted : answers.accepted 0 = true)
      (answered : submittedResult runtime config answers data exchange = some result)
      (noOpenBadges :
        identifyOpenBadgesCredentialIndices runtime result.credentialResults = [])
      (applied : applyVerificationResults exchange result log debug = .ok stored) :
      SubmissionStores data exchange (.verify stored)
  | queued {result : PresentationVerificationResult} {log : List CheckResult}
      {debug : Bool} {stored : ExchangeDetailVerify}
      (accepted : answers.accepted 0 = true)
      (answered : submittedResult runtime config answers data exchange = some result)
      (openBadges :
        identifyOpenBadgesCredentialIndices runtime result.credentialResults ≠ [])
      (applied : withSyncResultsAndQueuedVerifyTask config answers exchange result log
        debug (identifyOpenBadgesCredentialIndices runtime result.credentialResults) =
          .ok stored) :
      SubmissionStores data exchange (.verify stored)

theorem participateInVerifyExchange_saved {data : Json} {exchange : ExchangeDetailVerify}
    {record : Exchange}
    (writes : (participateInVerifyExchange runtime config answers data exchange).saved =
      some record) :
    SubmissionStores runtime config answers data exchange record := by
  unfold participateInVerifyExchange at writes
  rcases Action.saved_bind_of_none rfl writes with ⟨prepared, ready, afterPrepare⟩
  rcases Action.saved_bind_of_none rfl afterPrepare with ⟨result, verified, afterVerify⟩
  have answered : submittedResult runtime config answers data exchange = some result := by
    have ready' : preparePresentationForVerify runtime config data exchange =
        .ok prepared := ready
    simp [submittedResult, ready', verifyPresentation_ok answers verified, Except.toOption]
  dsimp only at afterVerify
  split at afterVerify
  · rename_i noOpenBadges
    rcases Action.saved_bind_of_none rfl afterVerify with ⟨finalized, applied, afterApply⟩
    rcases Action.saved_bind afterApply with written | ⟨_, _, nothing⟩
    · rw [saveExchange_saved written]
      exact .finalized (saveExchange_accepted written) answered
        (List.isEmpty_iff.mp noOpenBadges) applied
    · cases nothing
  · rename_i openBadges
    rcases Action.saved_bind_of_none rfl afterVerify with ⟨intermediate, applied, afterApply⟩
    rcases Action.saved_bind afterApply with written | ⟨_, _, nothing⟩
    · rw [saveExchange_saved written]
      exact .queued (saveExchange_accepted written) answered
        (fun empty => openBadges (List.isEmpty_iff.mpr empty)) applied
    · cases nothing

theorem participateInVerifyExchange_ok {data body : Json} {exchange : ExchangeDetailVerify}
    (succeeds : (participateInVerifyExchange runtime config answers data exchange).result =
      .ok body) :
    ∃ stored, (participateInVerifyExchange runtime config answers data exchange).saved =
      some (.verify stored) := by
  unfold participateInVerifyExchange at succeeds ⊢
  rcases Action.result_bind succeeds with ⟨prepared, ready, afterPrepare⟩
  rcases Action.result_bind afterPrepare with ⟨result, verified, afterVerify⟩
  rw [Action.bind_ok ready, Action.bind_ok verified]
  dsimp only at afterVerify ⊢
  split at afterVerify
  · rename_i noOpenBadges
    rcases Action.result_bind afterVerify with ⟨finalized, applied, afterApply⟩
    rcases Action.result_bind afterApply with ⟨_, saveOk, _⟩
    rw [if_pos noOpenBadges, Action.bind_ok applied, Action.bind_ok saveOk]
    exact ⟨finalized, by simp [saveExchange_ok saveOk]⟩
  · rename_i openBadges
    rcases Action.result_bind afterVerify with ⟨intermediate, applied, afterApply⟩
    rcases Action.result_bind afterApply with ⟨_, saveOk, _⟩
    rw [if_neg openBadges, Action.bind_ok applied, Action.bind_ok saveOk]
    exact ⟨intermediate, by simp [saveExchange_ok saveOk]⟩

/-! ## What a submission asks the verifier -/

theorem preparePresentationForVerify_eq {data : Json} {exchange : ExchangeDetailVerify}
    {prepared : PreparedPresentation}
    (ready : preparePresentationForVerify runtime config data exchange = .ok prepared) :
    prepared = {
      presentation := (preparePresentation runtime data).result
      compatLog := (preparePresentation runtime data).log
      debug := exchange.vars.debug.getD config.defaultExchangeDebug } := by
  unfold preparePresentationForVerify at ready
  cases valid : assertValidVerifiablePresentationStructure
      (preparePresentation runtime data).result with
  | error thrown => simp [valid, Bind.bind, Except.bind] at ready
  | ok _ =>
      cases verifiable : assertVerifiable (preparePresentation runtime data).result with
      | error thrown => simp [valid, verifiable, Bind.bind, Except.bind] at ready
      | ok _ =>
          simp only [valid, verifiable, Bind.bind, Except.bind, pure, Except.pure,
            Except.ok.injEq] at ready
          rw [← ready]

theorem preparePresentationForVerify_ok {data : Json} {exchange : ExchangeDetailVerify}
    {prepared : PreparedPresentation}
    (ready : preparePresentationForVerify runtime config data exchange = .ok prepared) :
    prepared.presentation = (preparePresentation runtime data).result := by
  rw [preparePresentationForVerify_eq runtime config ready]

theorem mem_calls_participateInVerifyExchange {data : Json}
    {exchange : ExchangeDetailVerify} {call : VerifyPresentationCall} :
    Call.verifyPresentation call ∈
        (participateInVerifyExchange runtime config answers data exchange).calls ↔
      ∃ prepared, preparePresentationForVerify runtime config data exchange = .ok prepared ∧
        call = verifyCallFor runtime config exchange prepared.presentation := by
  unfold participateInVerifyExchange
  cases ready : preparePresentationForVerify runtime config data exchange with
  | error thrown => simp [Action.fail]
  | ok prepared =>
      rw [Action.ofExcept_ok_bind, Action.mem_calls_bind]
      constructor
      · intro made
        rcases made with asked | ⟨result, -, later⟩
        · exact ⟨prepared, rfl, by simpa [verifyPresentation, Action.perform] using asked⟩
        · dsimp only at later
          split at later
          · rw [Action.mem_calls_bind] at later
            rcases later with none | ⟨finalized, -, later⟩
            · cases none
            · rw [Action.mem_calls_bind] at later
              rcases later with none | ⟨_, -, none⟩
              · simp at none
              · cases none
          · rw [Action.mem_calls_bind] at later
            rcases later with none | ⟨intermediate, -, later⟩
            · cases none
            · rw [Action.mem_calls_bind] at later
              rcases later with none | ⟨_, -, later⟩
              · simp at none
              · simp [Action.mem_calls_bind, Action.perform] at later
      · rintro ⟨same, isReady, rfl⟩
        cases isReady
        exact .inl (by simp [verifyPresentation, Action.perform])

theorem participateInVerifyExchange_ready {data body : Json}
    {exchange : ExchangeDetailVerify}
    (succeeds : (participateInVerifyExchange runtime config answers data exchange).result =
      .ok body) :
    ∃ prepared, preparePresentationForVerify runtime config data exchange =
      .ok prepared := by
  unfold participateInVerifyExchange at succeeds
  rcases Action.result_bind succeeds with ⟨prepared, ready, -⟩
  exact ⟨prepared, ready⟩

/-! ## What applying results keeps -/

theorem applyVerificationResults_ok {exchange stored : ExchangeDetailVerify}
    {result : PresentationVerificationResult} {log : List CheckResult} {debug : Bool}
    (applied : applyVerificationResults exchange result log debug = .ok stored) :
    ∃ results : VerificationResult,
      results.verified = result.verified ∧
      results.presentationResults = result.presentationResults.map ensureCheckResultId ∧
      results.credentialResults = storedCredentialResults result ∧
      validateClaims exchange.vars.vprClaims (storedCredentialResults result) =
        .ok (results.matchedCredentials, results.claimsValidation) ∧
      results.issuerValidation = validateIssuers exchange (storedCredentialResults result) ∧
      stored = { exchange with
        state := determineExchangeOutcome result.verified
          (storedCredentialResults result) exchange
        vars := { exchange.vars with results := some results } } := by
  unfold applyVerificationResults at applied
  cases validated : validateClaims exchange.vars.vprClaims
      (storedCredentialResults result) with
  | error thrown => simp [validated, Bind.bind, Except.bind] at applied
  | ok validation =>
      simp only [validated, Bind.bind, Except.bind, pure, Except.pure,
        Except.ok.injEq] at applied
      exact ⟨_, rfl, rfl, rfl, rfl, rfl, applied.symm⟩

theorem withSyncResults_ok {exchange stored : ExchangeDetailVerify}
    {result : PresentationVerificationResult} {log : List CheckResult} {debug : Bool}
    {indices : List Nat}
    (applied : withSyncResultsAndQueuedVerifyTask config answers exchange result log debug
      indices = .ok stored) :
    ∃ finalized, applyVerificationResults exchange result log debug = .ok finalized ∧
      stored = withVerifyTask { finalized with state := .active }
        (newVerifyTask (answers.clock 0) (answers.randomUUID 0) indices
          config.verifyTaskDeadlineMs config.verifyTaskMaxAttempts) := by
  unfold withSyncResultsAndQueuedVerifyTask at applied
  cases final : applyVerificationResults exchange result log debug with
  | error thrown => simp [final, Bind.bind, Except.bind] at applied
  | ok finalized =>
      simp only [final, Bind.bind, Except.bind, pure, Except.pure, Except.ok.injEq] at applied
      exact ⟨finalized, rfl, applied.symm⟩

theorem participateInVerifyExchange_response {data body : Json}
    {exchange : ExchangeDetailVerify}
    (succeeds : (participateInVerifyExchange runtime config answers data exchange).result =
      .ok body) : body = buildVerificationResponse exchange := by
  unfold participateInVerifyExchange at succeeds
  rcases Action.result_bind succeeds with ⟨prepared, -, afterPrepare⟩
  rcases Action.result_bind afterPrepare with ⟨result, -, later⟩
  dsimp only at later
  split at later
  · rcases Action.result_bind later with ⟨finalized, applied, afterApply⟩
    rcases Action.result_bind afterApply with ⟨_, -, responds⟩
    rcases applyVerificationResults_ok applied with ⟨_, -, -, -, -, -, rfl⟩
    exact (Except.ok.inj responds).symm
  · rcases Action.result_bind later with ⟨intermediate, applied, afterApply⟩
    rcases Action.result_bind afterApply with ⟨_, -, afterSave⟩
    rcases Action.result_bind afterSave with ⟨_, -, responds⟩
    rcases withSyncResults_ok config answers applied with ⟨_, finalized, rfl⟩
    rcases applyVerificationResults_ok finalized with ⟨_, -, -, -, -, -, rfl⟩
    exact (Except.ok.inj responds).symm

theorem SubmissionStores.overwrites {data : Json} {exchange : ExchangeDetailVerify}
    {stored : Exchange}
    (stores : SubmissionStores runtime config answers data exchange stored) :
    ∃ state results verifyTask, stored = .verify { exchange with
      state
      vars := { exchange.vars with results, verifyTask } } := by
  cases stores with
  | finalized accepted answered noOpenBadges applied =>
      rcases applyVerificationResults_ok applied with ⟨results, -, -, -, -, -, rfl⟩
      exact ⟨_, some results, exchange.vars.verifyTask, rfl⟩
  | queued accepted answered openBadges applied =>
      rcases withSyncResults_ok config answers applied with ⟨_, finalized, rfl⟩
      rcases applyVerificationResults_ok finalized with ⟨results, -, -, -, -, -, rfl⟩
      exact ⟨.active, some results, _, rfl⟩

end

/-! ## A sample presentation -/

def sampleCredential : Json :=
  .obj [
    ("@context", .arr [.str "https://www.w3.org/2018/credentials/v1"]),
    ("type", .arr [.str "VerifiableCredential"]),
    ("issuer", .str "did:example:issuer"),
    ("credentialSubject", .obj [])]

def presentationWith (credential : Json) : Json :=
  .obj [
    ("@context", .arr [.str "https://www.w3.org/2018/credentials/v1"]),
    ("type", .arr [.str "VerifiablePresentation"]),
    ("holder", .str "did:example:holder"),
    ("verifiableCredential", .arr [credential]),
    ("proof", .obj [
      ("type", .str "DataIntegrityProof"),
      ("created", .str "2026-01-01T00:00:00Z"),
      ("verificationMethod", .str "did:example:holder#key-1"),
      ("proofPurpose", .str "authentication"),
      ("challenge", .str "challenge-1"),
      ("proofValue", .str "z1")])]

def samplePresentation : Json :=
  presentationWith sampleCredential

end TransactionService
