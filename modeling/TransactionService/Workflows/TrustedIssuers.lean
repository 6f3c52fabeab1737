import TransactionService.Workflows.Outcome

namespace TransactionService.TrustedIssuers

open Outcome

/-! # What trusting an issuer rests on

Registries speak through the passing checks of a verification, which a verifier
lists only when it is asked to. -/

/-! ## Results without their passing checks -/

/-- `outcome.status === 'success'`. -/
def isPass : CheckOutcome → Bool
  | .success _ _ _ => true
  | _ => false

def dropPasses {Check : Type} (outcomeOf : Check → CheckOutcome)
    (credentialResult : CredentialVerificationResult Check) :
    CredentialVerificationResult Check :=
  { credentialResult with
    results := credentialResult.results.filter fun check => !isPass (outcomeOf check) }

/-- What the verifier answers about the same presentation when it is not asked to
be verbose. -/
def withoutPasses (result : PresentationVerificationResult) :
    PresentationVerificationResult :=
  { result with
    presentationResults := result.presentationResults.filter fun check =>
      !isPass check.outcome
    credentialResults := result.credentialResults.map (dropPasses CoreCheckResult.outcome) }

/-- The part of the outcome that others decide by. -/
structure SameDecision (left right : ExchangeDetailVerify) : Prop where
  state : left.state = right.state
  issuerValidation : left.vars.results.map (·.issuerValidation) =
    right.vars.results.map (·.issuerValidation)
  claimsValidation : left.vars.results.map (·.claimsValidation) =
    right.vars.results.map (·.claimsValidation)
  matchedCredentials : left.vars.results.map (·.matchedCredentials) =
    right.vars.results.map (·.matchedCredentials)

section

variable (exchange : ExchangeDetailVerify)

def issuerListed (credential : Json) : Bool :=
  ((issuerOf credential).bind Json.asString?).any exchange.vars.trustedIssuers.contains

def registryVouches (credentialResult : CredentialVerificationResult CheckResult) : Bool :=
  (credentialResult.results.filter isTrustRegistryCheck).any
    (registryCheckMatches (exchange.vars.trustedRegistries.getD []))

def ForPresent (result : PresentationVerificationResult)
    (holds : Json → CredentialVerificationResult CheckResult → Prop) : Prop :=
  ∀ stored ∈ storedCredentialResults result, ∀ credential,
    presentCredential stored = some credential → holds credential stored

/-- The passing checks make no difference to whom the exchange trusts. -/
def PassesIdle (result : PresentationVerificationResult) : Prop :=
  ¬ DemandsIssuers exchange ∨
    ForPresent result (fun credential _ => issuerListed exchange credential = true) ∨
    ¬ ForPresent result (fun credential stored =>
      issuerListed exchange credential = true ∨ registryVouches exchange stored = true)

end

/-! ## What does not depend on the passing checks -/

section

variable {exchange : ExchangeDetailVerify} {result : PresentationVerificationResult}
  {credentialResults : List (CredentialVerificationResult CheckResult)}

theorem storedCredentialResults_withoutPasses (result : PresentationVerificationResult) :
    storedCredentialResults (withoutPasses result) =
      (storedCredentialResults result).map (dropPasses CheckResult.outcome) := by
  simp only [storedCredentialResults, withoutPasses, List.map_map]
  apply List.map_congr_left
  intro credentialResult _
  simp only [Function.comp_apply, dropPasses, ensureCredentialResultIds, List.filter_map]
  rfl

private theorem collectMatches_dropPasses (claims : List DcqlClaim)
    (credentialResults : List (CredentialVerificationResult CheckResult))
    (initial : ExtractedClaims) :
    collectMatches claims (credentialResults.map (dropPasses CheckResult.outcome)) initial =
      collectMatches claims credentialResults initial := by
  induction credentialResults generalizing initial with
  | nil => rfl
  | cons credentialResult rest induction =>
      have same : presentCredential (dropPasses CheckResult.outcome credentialResult) =
          presentCredential credentialResult := rfl
      simp only [List.map_cons, collectMatches, same, induction]

theorem validateClaims_dropPasses (claims : List DcqlClaim)
    (credentialResults : List (CredentialVerificationResult CheckResult)) :
    validateClaims claims (credentialResults.map (dropPasses CheckResult.outcome)) =
      validateClaims claims credentialResults := by
  have present : (credentialResults.map (dropPasses CheckResult.outcome)).filterMap
      presentCredential = credentialResults.filterMap presentCredential := by
    rw [List.filterMap_map]
    rfl
  unfold validateClaims
  rw [present, collectMatches_dropPasses]

private theorem hasFatalRegistryFailure_dropPasses
    (credentialResult : CredentialVerificationResult CheckResult) :
    hasFatalRegistryFailure (dropPasses CheckResult.outcome credentialResult) =
      hasFatalRegistryFailure credentialResult := by
  unfold hasFatalRegistryFailure dropPasses
  rw [List.any_filter, List.any_filter, List.any_filter]
  refine List.any_congr rfl fun check => ?_
  cases check.outcome <;> simp [isPass, CheckOutcome.isFailure]

private theorem determineExchangeOutcome_dropPasses (exchange : ExchangeDetailVerify)
    (credentialResults : List (CredentialVerificationResult CheckResult)) (verified : Bool) :
    determineExchangeOutcome verified
        (credentialResults.map (dropPasses CheckResult.outcome)) exchange =
      determineExchangeOutcome verified credentialResults exchange := by
  unfold determineExchangeOutcome
  simp only [List.any_map, Function.comp_def, hasFatalRegistryFailure_dropPasses]
  rfl

private theorem registryVouches_dropPasses (exchange : ExchangeDetailVerify)
    (credentialResult : CredentialVerificationResult CheckResult) :
    registryVouches exchange (dropPasses CheckResult.outcome credentialResult) = false := by
  unfold registryVouches
  rw [List.any_eq_false]
  intro check member
  have kept := (List.mem_filter.mp (List.mem_filter.mp member).1).2
  unfold registryCheckMatches
  cases isOutcome : check.outcome with
  | success message payload foundInRegistries => simp [isOutcome, isPass] at kept
  | failure problems => simp
  | skipped reason => simp

/-! ## Who is trusted -/

theorem isTrusted_iff (exchange : ExchangeDetailVerify)
    (result : PresentationVerificationResult) :
    allIssuersValid exchange (storedCredentialResults result) = true ↔
      ForPresent result fun credential stored =>
        issuerListed exchange credential = true ∨ registryVouches exchange stored = true :=
  allIssuersValid_iff

theorem isTrusted_withoutPasses_iff (exchange : ExchangeDetailVerify)
    (result : PresentationVerificationResult) :
    allIssuersValid exchange (storedCredentialResults (withoutPasses result)) = true ↔
      ForPresent result fun credential _ => issuerListed exchange credential = true := by
  rw [isTrusted_iff, ForPresent, storedCredentialResults_withoutPasses, List.forall_mem_map]
  simp only [registryVouches_dropPasses, Bool.false_eq_true, or_false]
  rfl

theorem listed_trusted (listed : ForPresent result fun credential _ =>
      issuerListed exchange credential = true) :
    ForPresent result fun credential stored =>
      issuerListed exchange credential = true ∨ registryVouches exchange stored = true :=
  fun stored member credential present => .inl (listed stored member credential present)

theorem validateIssuers_undemanded (undemanded : ¬ DemandsIssuers exchange) :
    validateIssuers exchange credentialResults = none := by
  rcases not_or.mp undemanded with ⟨noIssuers, noRegistries⟩
  simp [validateIssuers, not_not.mp noIssuers, not_not.mp noRegistries]

theorem validateIssuers_demanded (demands : DemandsIssuers exchange)
    (credentialResults : List (CredentialVerificationResult CheckResult)) :
    validateIssuers exchange credentialResults = some {
      trustedIssuers := exchange.vars.trustedIssuers
      trustedRegistries := exchange.vars.trustedRegistries.getD []
      issuerFound := allIssuersValid exchange credentialResults
      registryMatch := allIssuersValid exchange credentialResults } := by
  have some : (exchange.vars.trustedIssuers.isEmpty &&
      (exchange.vars.trustedRegistries.getD []).isEmpty) = false := by
    rcases demands with issuers | registries
    · simp [issuers]
    · simp [registries]
  simp [validateIssuers, some]

theorem validateIssuers_withoutPasses_iff (exchange : ExchangeDetailVerify)
    (result : PresentationVerificationResult) :
    validateIssuers exchange (storedCredentialResults result) =
        validateIssuers exchange (storedCredentialResults (withoutPasses result)) ↔
      PassesIdle exchange result := by
  by_cases demands : DemandsIssuers exchange
  · rw [validateIssuers_demanded demands, validateIssuers_demanded demands]
    have same : PassesIdle exchange result ↔
        (allIssuersValid exchange (storedCredentialResults result) = true ↔
          allIssuersValid exchange (storedCredentialResults (withoutPasses result)) = true) := by
      rw [isTrusted_iff, isTrusted_withoutPasses_iff]
      constructor
      · rintro (undemanded | listed | distrusted)
        · exact absurd demands undemanded
        · exact iff_of_true (listed_trusted listed) listed
        · exact iff_of_false distrusted fun listed => distrusted (listed_trusted listed)
      · intro agree
        by_cases listed : ForPresent result fun credential _ =>
          issuerListed exchange credential = true
        · exact .inr (.inl listed)
        · exact .inr (.inr fun trusted => listed (agree.mp trusted))
    rw [same, ← Bool.eq_iff_iff]
    constructor
    · intro equal
      exact congrArg IssuerValidation.issuerFound (Option.some.inj equal)
    · intro equal
      rw [equal]
  · rw [validateIssuers_undemanded demands, validateIssuers_undemanded demands]
    exact iff_of_true rfl (.inl demands)

/-! ## The decision with and without passes -/

theorem applyVerificationResults_error {thrown : Thrown} (log : List CheckResult)
    (debug : Bool)
    (fails : validateClaims exchange.vars.vprClaims (storedCredentialResults result) =
      .error thrown) :
    applyVerificationResults exchange result log debug = .error thrown := by
  simp [applyVerificationResults, fails, Bind.bind, Except.bind]

theorem applyVerificationResults_of_ok {valid : List Json × Option ClaimsValidation}
    (log : List CheckResult) (debug : Bool)
    (validated : validateClaims exchange.vars.vprClaims (storedCredentialResults result) =
      .ok valid) :
    ∃ stored, applyVerificationResults exchange result log debug = .ok stored := by
  simp [applyVerificationResults, validated, Bind.bind, Except.bind, pure, Except.pure]

theorem sameDecision_iff {terse : PresentationVerificationResult}
    {left right : ExchangeDetailVerify} {log : List CheckResult} {debug : Bool}
    (isTerse : terse = withoutPasses result)
    (leftApplied : applyVerificationResults exchange result log debug = .ok left)
    (rightApplied : applyVerificationResults exchange terse log debug = .ok right) :
    SameDecision left right ↔ PassesIdle exchange result := by
  subst isTerse
  rcases applyVerificationResults_ok leftApplied with
    ⟨leftResults, -, -, -, leftClaims, leftIssuers, rfl⟩
  rcases applyVerificationResults_ok rightApplied with
    ⟨rightResults, -, -, -, rightClaims, rightIssuers, rfl⟩
  rw [storedCredentialResults_withoutPasses, validateClaims_dropPasses, leftClaims]
    at rightClaims
  have sameClaims := Prod.ext_iff.mp (Except.ok.inj rightClaims)
  rw [← validateIssuers_withoutPasses_iff, ← leftIssuers, ← rightIssuers]
  constructor
  · exact fun same => Option.some.inj same.issuerValidation
  · intro sameIssuers
    exact {
      state := by
        rw [storedCredentialResults_withoutPasses, determineExchangeOutcome_dropPasses]
        rfl
      issuerValidation := congrArg some sameIssuers
      claimsValidation := congrArg some sameClaims.2
      matchedCredentials := congrArg some sameClaims.1 }

private theorem claimsThrow_withoutPasses (exchange : ExchangeDetailVerify)
    (result : PresentationVerificationResult) (log : List CheckResult) (debug : Bool) :
    (∃ thrown, ClaimsThrow exchange result ∧
      applyVerificationResults exchange result log debug = .error thrown ∧
      applyVerificationResults exchange (withoutPasses result) log debug = .error thrown) ∨
    ∃ left right, ¬ ClaimsThrow exchange result ∧
      applyVerificationResults exchange result log debug = .ok left ∧
      applyVerificationResults exchange (withoutPasses result) log debug = .ok right := by
  have same := validateClaims_dropPasses exchange.vars.vprClaims
    (storedCredentialResults result)
  rw [← storedCredentialResults_withoutPasses] at same
  cases validated : validateClaims exchange.vars.vprClaims
      (storedCredentialResults result) with
  | error thrown =>
      have fails := applyVerificationResults_error log debug validated
      refine .inl ⟨thrown, ?_, fails,
        applyVerificationResults_error log debug (same.trans validated)⟩
      rcases applyVerificationResults_spec exchange result log debug with
        ⟨-, throws⟩ | ⟨⟨stored, applied⟩, -⟩
      · exact throws
      · cases fails.symm.trans applied
  | ok validation =>
      have left := applyVerificationResults_of_ok log debug validated
      have right := applyVerificationResults_of_ok log debug (same.trans validated)
      rcases left with ⟨left, leftApplied⟩
      rcases right with ⟨right, rightApplied⟩
      exact .inr ⟨left, right, not_claimsThrow leftApplied, leftApplied, rightApplied⟩

/-- Being verbose leaves the decision alone exactly when a claim comparison throws
or the passing checks make no difference to who is trusted. -/
theorem verbose_same_decision_iff (exchange : ExchangeDetailVerify)
    (result : PresentationVerificationResult) (log : List CheckResult) (debug : Bool) :
    Action.ResultsRelated SameDecision
        (applyVerificationResults exchange result log debug)
        (applyVerificationResults exchange (withoutPasses result) log debug) ↔
      ClaimsThrow exchange result ∨ PassesIdle exchange result := by
  rcases claimsThrow_withoutPasses exchange result log debug with
    ⟨thrown, throws, verbose, terse⟩ | ⟨left, right, quiet, verbose, terse⟩
  · rw [verbose, terse]
    exact iff_of_true (.error thrown) (.inl throws)
  · have same := sameDecision_iff rfl verbose terse
    rw [verbose, terse]
    constructor
    · intro related
      cases related with
      | ok decided => exact .inr (same.mp decided)
    · rintro (throws | idle)
      · exact absurd throws quiet
      · exact .ok (same.mpr idle)

/-! ## A registered issuer that is not the one trusted -/

def registeredIn (registryNames : List String) : CheckOutcome :=
  .success "Issuer found"
    (some (.obj [("foundInRegistries", .arr (registryNames.map Json.str))])) none

def registeredResult (registryNames : List String) : PresentationVerificationResult where
  verified := true
  presentationResults := []
  credentialResults := [{
    verified := true
    verifiableCredential := some sampleCredential
    results := [{
      id := some "trust.registry.issuer-registered"
      outcome := registeredIn registryNames }] }]

def trustingExchange (trustedIssuers trustedRegistries : List String) :
    ExchangeDetailVerify where
  tenantName := "default"
  exchangeId := "exchange-1"
  expires := 600000
  state := .active
  vars := {
    exchangeHost := "http://localhost:4004"
    challenge := "challenge-1"
    vprContext := []
    vprCredentialType := ["VerifiableCredential"]
    trustedIssuers
    trustedRegistries := some trustedRegistries
    vprClaims := [] }

/-- An issuer that is not listed counts as trusted because the answer mentions a
passing registry check, whichever registry that is of. -/
theorem mentioned_issuer_trusted :
    ¬ Action.ResultsRelated SameDecision
      (applyVerificationResults (trustingExchange ["did:example:other"] [])
        (registeredResult ["DCC Sandbox Registry"]) [] false)
      (applyVerificationResults (trustingExchange ["did:example:other"] [])
        (withoutPasses (registeredResult ["DCC Sandbox Registry"])) [] false) := by
  intro related
  have verbose : applyVerificationResults (trustingExchange ["did:example:other"] [])
      (registeredResult ["DCC Sandbox Registry"]) [] false = .ok _ := rfl
  have terse : applyVerificationResults (trustingExchange ["did:example:other"] [])
      (withoutPasses (registeredResult ["DCC Sandbox Registry"])) [] false = .ok _ := rfl
  rw [verbose, terse] at related
  cases related with
  | ok same => cases same.issuerValidation

/-! ## Registries by the names they go by -/

section

variable (runtime : Runtime) (config : Config) (exchange : ExchangeDetailVerify)

/-- The `name` of a registry entry. -/
def registryName : EntityIdentityRegistry → Option String
  | .json (.obj members) => (members.lookup "name").bind Json.asString?
  | .function name => some name
  | _ => none

def issuerId (credential : Json) : Option String :=
  match credential.field "issuer" with
  | some (.str id) => some id
  | some (.obj members) => (members.lookup "id").bind Json.asString?
  | _ => none

/-- `outcome.payload.foundInRegistries` of a passing check. -/
def matchedRegistries : CheckOutcome → List String
  | .success _ payload _ =>
      match payload.bind (Json.field · "foundInRegistries") with
      | some (.arr names) => names.filterMap Json.asString?
      | _ => []
  | _ => []

/-- The check passes and names the registry that some entry of the trusted
registries stands for. -/
def namesTrusted (check : CheckResult) : Bool :=
  isTrustRegistryCheck check &&
    (mapRegistryNamesToRegistries runtime (exchange.vars.trustedRegistries.getD [])
      config.knownRegistries).any fun registry =>
        (registryName registry).any (matchedRegistries check.outcome).contains

def FromTrustedIssuer (credential : Json)
    (stored : CredentialVerificationResult CheckResult) : Prop :=
  (∃ id, issuerId credential = some id ∧ id ∈ exchange.vars.trustedIssuers) ∨
    ∃ check ∈ stored.results, namesTrusted runtime config exchange check = true

/-- Passing registry checks name the registries in their payload, and nowhere
else. -/
def NamedInPayload (result : PresentationVerificationResult) : Prop :=
  ∀ stored ∈ storedCredentialResults result, ∀ check ∈ stored.results,
    isTrustRegistryCheck check = true → ∀ message payload foundInRegistries,
      check.outcome = .success message payload foundInRegistries →
        foundInRegistries = none ∧
          ∃ names : List String, payload.bind (Json.field · "foundInRegistries") =
            some (.arr (names.map Json.str))

def IssuerFoundMeansTrusted (result : PresentationVerificationResult)
    (log : List CheckResult) (debug : Bool) : Prop :=
  ∃ stored results validation,
    applyVerificationResults exchange result log debug = .ok stored ∧
    stored.vars.results = some results ∧ results.issuerValidation = some validation ∧
    (validation.issuerFound = true ↔
      ForPresent result (FromTrustedIssuer runtime config exchange))

def IssuerListed (credential : Json) : Prop :=
  ∃ id, issuerId credential = some id ∧ id ∈ exchange.vars.trustedIssuers

/-- No registry speaks for the credential: with trusted registries, no passing
check names one of them; without any, no registry check has passed. -/
def NobodyVouches (stored : CredentialVerificationResult CheckResult) : Prop :=
  if exchange.vars.trustedRegistries.getD [] = [] then
    ∀ check ∈ stored.results, isTrustRegistryCheck check = true →
      isPass check.outcome = false
  else ∀ check ∈ stored.results, namesTrusted runtime config exchange check = false

/-- No registry is needed, or none helps some credential that needs one. -/
def RegistriesIdle (result : PresentationVerificationResult) : Prop :=
  ForPresent result (fun credential _ => IssuerListed exchange credential) ∨
    ∃ stored ∈ storedCredentialResults result, ∃ credential,
      presentCredential stored = some credential ∧ ¬ IssuerListed exchange credential ∧
        NobodyVouches runtime config exchange stored

variable {runtime config exchange} {result : PresentationVerificationResult}
  {stored : CredentialVerificationResult CheckResult}

theorem issuerListed_iff (exchange : ExchangeDetailVerify) (credential : Json) :
    issuerListed exchange credential = true ↔ IssuerListed exchange credential := by
  have same : (issuerOf credential).bind Json.asString? = issuerId credential := by
    unfold issuerOf issuerId
    cases credential.field "issuer" with
    | none => rfl
    | some issuer =>
        cases issuer with
        | obj members =>
            cases isId : members.lookup "id" with
            | none => simp [isId, Json.asString?]
            | some id => simp [isId]
        | _ => rfl
  simp [issuerListed, IssuerListed, same, Option.any_eq_true]

theorem registryCheckMatches_iff {check : CheckResult} (trustedRegistries : List String)
    (shape : ∀ message payload foundInRegistries,
      check.outcome = .success message payload foundInRegistries →
        foundInRegistries = none) :
    registryCheckMatches trustedRegistries check = true ↔
      trustedRegistries = [] ∧ isPass check.outcome = true := by
  unfold registryCheckMatches
  cases isOutcome : check.outcome with
  | success message payload foundInRegistries =>
      rw [shape message payload foundInRegistries isOutcome]
      simp [isPass]
  | failure problems => simp [isPass]
  | skipped reason => simp [isPass]

theorem registryVouches_iff (shape : NamedInPayload result)
    (member : stored ∈ storedCredentialResults result) :
    registryVouches exchange stored = true ↔
      exchange.vars.trustedRegistries.getD [] = [] ∧
        ∃ check ∈ stored.results, isTrustRegistryCheck check = true ∧
          isPass check.outcome = true := by
  unfold registryVouches
  rw [List.any_eq_true]
  constructor
  · rintro ⟨check, kept, matched⟩
    rcases List.mem_filter.mp kept with ⟨found, isRegistry⟩
    have counts := (registryCheckMatches_iff _ fun message payload registries isOutcome =>
      (shape stored member check found isRegistry message payload registries isOutcome).1).mp
        matched
    exact ⟨counts.1, check, found, isRegistry, counts.2⟩
  · rintro ⟨noRegistries, check, found, isRegistry, passed⟩
    refine ⟨check, List.mem_filter.mpr ⟨found, isRegistry⟩, ?_⟩
    exact (registryCheckMatches_iff _ fun message payload registries isOutcome =>
      (shape stored member check found isRegistry message payload registries isOutcome).1).mpr
        ⟨noRegistries, passed⟩

theorem namesTrusted_without (noRegistries : exchange.vars.trustedRegistries.getD [] = [])
    (check : CheckResult) : namesTrusted runtime config exchange check = false := by
  simp [namesTrusted, noRegistries, mapRegistryNamesToRegistries]

theorem nobodyVouches_iff (shape : NamedInPayload result)
    (member : stored ∈ storedCredentialResults result) :
    NobodyVouches runtime config exchange stored ↔
      registryVouches exchange stored = false ∧
        ¬ ∃ check ∈ stored.results, namesTrusted runtime config exchange check = true := by
  rw [← Bool.not_eq_true, registryVouches_iff shape member]
  unfold NobodyVouches
  by_cases noRegistries : exchange.vars.trustedRegistries.getD [] = []
  · simp [noRegistries, namesTrusted_without noRegistries]
  · simp [noRegistries]

theorem not_forPresent {holds : Json → CredentialVerificationResult CheckResult → Prop} :
    ¬ ForPresent result holds ↔ ∃ stored ∈ storedCredentialResults result, ∃ credential,
      presentCredential stored = some credential ∧ ¬ holds credential stored := by
  simp [ForPresent]

theorem trusted_agree_iff (shape : NamedInPayload result) :
    (ForPresent result (fun credential stored =>
        issuerListed exchange credential = true ∨ registryVouches exchange stored = true) ↔
      ForPresent result (FromTrustedIssuer runtime config exchange)) ↔
      RegistriesIdle runtime config exchange result := by
  simp only [issuerListed_iff]
  constructor
  · intro agree
    by_cases listed : ForPresent result fun credential _ => IssuerListed exchange credential
    · exact .inl listed
    · right
      by_cases noRegistries : exchange.vars.trustedRegistries.getD [] = []
      · -- the names in the payload stand for nothing, so the code must fail too
        have distrusted : ¬ ForPresent result (FromTrustedIssuer runtime config exchange) := by
          intro trusted
          apply listed
          intro stored member credential present
          rcases trusted stored member credential present with isListed | ⟨check, -, named⟩
          · exact isListed
          · rw [namesTrusted_without noRegistries] at named
            cases named
        rcases not_forPresent.mp (distrusted ∘ agree.mp) with
          ⟨stored, member, credential, present, untrusted⟩
        rcases not_or.mp untrusted with ⟨unlisted, unvouched⟩
        refine ⟨stored, member, credential, present, unlisted, ?_⟩
        refine (nobodyVouches_iff shape member).mpr ⟨eq_false_of_ne_true unvouched, ?_⟩
        rintro ⟨check, -, named⟩
        rw [namesTrusted_without noRegistries] at named
        cases named
      · -- the code trusts no registry, so the names in the payload must fail too
        have unvouched : ∀ stored ∈ storedCredentialResults result,
            registryVouches exchange stored = false := fun stored member =>
          eq_false_of_ne_true fun vouches =>
            noRegistries ((registryVouches_iff shape member).mp vouches).1
        have distrusted : ¬ ForPresent result (fun credential stored =>
            IssuerListed exchange credential ∨ registryVouches exchange stored = true) := by
          intro trusted
          apply listed
          intro stored member credential present
          rcases trusted stored member credential present with isListed | vouches
          · exact isListed
          · rw [unvouched stored member] at vouches
            cases vouches
        rcases not_forPresent.mp (distrusted ∘ agree.mpr) with
          ⟨stored, member, credential, present, untrusted⟩
        rcases not_or.mp untrusted with ⟨unlisted, unnamed⟩
        exact ⟨stored, member, credential, present, unlisted,
          (nobodyVouches_iff shape member).mpr ⟨unvouched stored member, unnamed⟩⟩
  · rintro (listed | ⟨stored, member, credential, present, unlisted, nobody⟩)
    · exact iff_of_true
        (fun stored member credential present =>
          .inl (listed stored member credential present))
        (fun stored member credential present =>
          .inl (listed stored member credential present))
    · rcases (nobodyVouches_iff shape member).mp nobody with ⟨unvouched, unnamed⟩
      refine iff_of_false (fun trusted => ?_) fun trusted => ?_
      · rcases trusted stored member credential present with isListed | vouches
        · exact unlisted isListed
        · exact absurd (vouches.symm.trans unvouched) (by decide)
      · rcases trusted stored member credential present with isListed | named
        · exact unlisted isListed
        · exact unnamed named

/-- The flag says whom the exchange trusts exactly when comparing the claims does
not throw and the registries are idle. -/
theorem issuerFound_means_trusted_iff (runtime : Runtime) (config : Config)
    (demands : DemandsIssuers exchange) (shape : NamedInPayload result)
    (log : List CheckResult) (debug : Bool) :
    IssuerFoundMeansTrusted runtime config exchange result log debug ↔
      ¬ ClaimsThrow exchange result ∧ RegistriesIdle runtime config exchange result := by
  have agree : (allIssuersValid exchange (storedCredentialResults result) = true ↔
      ForPresent result (FromTrustedIssuer runtime config exchange)) ↔
      RegistriesIdle runtime config exchange result := by
    rw [isTrusted_iff]
    exact trusted_agree_iff shape
  have flag := validateIssuers_demanded demands (storedCredentialResults result)
  rw [← agree]
  constructor
  · rintro ⟨stored, results, validation, applied, isResults, isValidation, means⟩
    refine ⟨not_claimsThrow applied, ?_⟩
    rcases applyVerificationResults_ok applied with ⟨same, -, -, -, -, issuers, rfl⟩
    cases isResults
    rw [isValidation, flag] at issuers
    rw [Option.some.inj issuers] at means
    exact means
  · rintro ⟨quiet, means⟩
    rcases applyVerificationResults_spec exchange result log debug with
      ⟨-, throws⟩ | ⟨⟨stored, applied⟩, -⟩
    · exact absurd throws quiet
    · rcases applyVerificationResults_ok applied with ⟨results, -, -, -, -, issuers, same⟩
      refine ⟨stored, results, _, applied, ?_, issuers.trans flag, means⟩
      rw [same]

end

def sandboxConfig : Config where
  knownRegistries := [("DCC Sandbox Registry", .obj [
    ("name", .str "DCC Sandbox Registry"), ("type", .str "dcc-legacy"),
    ("url", .str "https://credentials-sandbox.dcconsortium.org/registry.json")])]

theorem registeredResult_shape (registryNames : List String) :
    NamedInPayload (registeredResult registryNames) := by
  intro stored member check found _ message payload foundInRegistries isOutcome
  rw [List.mem_singleton.mp member] at found
  rw [List.mem_singleton.mp found] at isOutcome
  cases isOutcome
  exact ⟨rfl, registryNames, rfl⟩

/-- The answer names the trusted registry in its payload, and the issuer counts
as unknown. -/
theorem registered_issuer_unknown :
    DemandsIssuers (trustingExchange [] ["DCC Sandbox Registry"]) ∧
      NamedInPayload (registeredResult ["DCC Sandbox Registry"]) ∧
      ¬ IssuerFoundMeansTrusted Runtime.plain sandboxConfig
        (trustingExchange [] ["DCC Sandbox Registry"])
        (registeredResult ["DCC Sandbox Registry"]) [] false := by
  refine ⟨.inr (by simp [trustingExchange]), registeredResult_shape _, ?_⟩
  rintro ⟨stored, results, validation, applied, isResults, isValidation, means⟩
  have trusted : ForPresent (registeredResult ["DCC Sandbox Registry"])
      (FromTrustedIssuer Runtime.plain sandboxConfig
        (trustingExchange [] ["DCC Sandbox Registry"])) := by
    intro stored member credential _
    rw [List.mem_singleton.mp member]
    exact .inr ⟨_, List.mem_singleton.mpr rfl, by decide⟩
  have found := means.mpr trusted
  cases applied
  cases isResults
  cases isValidation
  exact absurd found (by decide)

theorem listed_issuer_trusted :
    IssuerFoundMeansTrusted Runtime.plain {} (trustingExchange ["did:example:issuer"] [])
      (registeredResult []) [] false := by
  apply (issuerFound_means_trusted_iff _ _ (.inl (by simp [trustingExchange]))
    (registeredResult_shape []) [] false).mpr
  refine ⟨fun throws => throws.1 rfl, .inl ?_⟩
  intro stored member credential present
  rw [List.mem_singleton.mp member] at present
  cases present
  exact ⟨"did:example:issuer", rfl, by simp [trustingExchange]⟩

end

end TransactionService.TrustedIssuers
