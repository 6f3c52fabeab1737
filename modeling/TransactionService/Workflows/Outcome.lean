import TransactionService.Workflows.VerifySubmission

namespace TransactionService.Outcome

/-! # What the outcome of a verification enforces -/

section

variable {claims : List DcqlClaim} {exchange : ExchangeDetailVerify}
  {result : PresentationVerificationResult}
  {credentialResults : List (CredentialVerificationResult CheckResult)}

/-! ## The decision -/

structure Acceptable (exchange : ExchangeDetailVerify)
    (result : PresentationVerificationResult) : Prop where
  verified : result.verified = true
  credentials : ∀ credentialResult ∈ result.credentialResults,
    credentialResult.verified = true
  registries : exchange.vars.trustedIssuers ≠ [] →
    ∀ credentialResult ∈ storedCredentialResults result,
      hasFatalRegistryFailure credentialResult = false

private theorem mem_storedCredentialResults {stored : CredentialVerificationResult CheckResult} :
    stored ∈ storedCredentialResults result ↔
      ∃ credentialResult ∈ result.credentialResults,
        ensureCredentialResultIds credentialResult = stored :=
  List.mem_map

theorem determineExchangeOutcome_cases (exchange : ExchangeDetailVerify)
    (credentialResults : List (CredentialVerificationResult CheckResult))
    (verified : Bool) :
    determineExchangeOutcome verified credentialResults exchange = .complete ∨
      determineExchangeOutcome verified credentialResults exchange = .invalid := by
  unfold determineExchangeOutcome
  split
  · exact .inr rfl
  · split
    · exact .inr rfl
    · exact .inl rfl

theorem determineExchangeOutcome_eq_complete :
    determineExchangeOutcome result.verified (storedCredentialResults result) exchange =
      .complete ↔ Acceptable exchange result := by
  unfold determineExchangeOutcome
  constructor
  · intro complete
    split at complete
    · cases complete
    · rename_i verified
      split at complete
      · cases complete
      · rename_i objection
        rw [List.any_eq_true, not_exists] at objection
        refine ⟨by simpa using verified, ?_, ?_⟩
        · intro credentialResult member
          have quiet := objection (ensureCredentialResultIds credentialResult)
          have stored : ensureCredentialResultIds credentialResult ∈
              storedCredentialResults result := List.mem_map_of_mem member
          cases flag : credentialResult.verified with
          | true => rfl
          | false => exact absurd ⟨stored, by simp [flag]⟩ quiet
        · intro trusted stored member
          cases fatal : hasFatalRegistryFailure stored with
          | false => rfl
          | true => exact absurd ⟨member, by simp [fatal, trusted]⟩ (objection stored)
  · intro acceptable
    rw [if_neg (by simp [acceptable.verified]), if_neg]
    intro objection
    rcases List.any_eq_true.mp objection with ⟨stored, member, objects⟩
    rcases mem_storedCredentialResults.mp member with ⟨credentialResult, original, rfl⟩
    have verified := acceptable.credentials credentialResult original
    simp only [ensureCredentialResultIds_verified, verified, Bool.not_true, Bool.false_or,
      Bool.and_eq_true, Bool.not_eq_true', List.isEmpty_eq_false_iff] at objects
    have quiet := acceptable.registries objects.1 _ member
    rw [quiet] at objects
    cases objects.2

/-! ## Claims -/

def SomeMatch (claims : List DcqlClaim)
    (credentialResults : List (CredentialVerificationResult CheckResult)) : Prop :=
  ∃ credentialResult ∈ credentialResults, ∃ credential,
    presentCredential credentialResult = some credential ∧
      claimsMatch claims credential = .ok true

def ComparisonThrows (claims : List DcqlClaim)
    (credentialResults : List (CredentialVerificationResult CheckResult)) : Prop :=
  ∃ credentialResult ∈ credentialResults, ∃ credential thrown,
    presentCredential credentialResult = some credential ∧
      claimsMatch claims credential = .error thrown

private theorem someMatch_cons {credentialResult : CredentialVerificationResult CheckResult} :
    SomeMatch claims (credentialResult :: credentialResults) ↔
      (∃ credential, presentCredential credentialResult = some credential ∧
        claimsMatch claims credential = .ok true) ∨ SomeMatch claims credentialResults := by
  simp [SomeMatch]

private theorem comparisonThrows_cons
    {credentialResult : CredentialVerificationResult CheckResult} :
    ComparisonThrows claims (credentialResult :: credentialResults) ↔
      (∃ credential thrown, presentCredential credentialResult = some credential ∧
        claimsMatch claims credential = .error thrown) ∨
      ComparisonThrows claims credentialResults := by
  simp [ComparisonThrows]

theorem collectMatches_spec (claims : List DcqlClaim)
    (credentialResults : List (CredentialVerificationResult CheckResult))
    (initial : ExtractedClaims) :
    (∃ thrown, collectMatches claims credentialResults initial = .error thrown ∧
      ComparisonThrows claims credentialResults) ∨
    (∃ valid extracted, collectMatches claims credentialResults initial =
        .ok (valid, extracted) ∧
      ¬ ComparisonThrows claims credentialResults ∧
      (valid ≠ [] ↔ SomeMatch claims credentialResults)) := by
  induction credentialResults generalizing initial with
  | nil => exact .inr ⟨[], initial, rfl, by simp [ComparisonThrows], by simp [SomeMatch]⟩
  | cons credentialResult rest induction =>
      rw [comparisonThrows_cons, someMatch_cons]
      cases present : presentCredential credentialResult with
      | none => simpa [collectMatches, present] using induction initial
      | some credential =>
          cases compared : claimsMatch claims credential with
          | error thrown =>
              refine .inl ⟨thrown, ?_, .inl ⟨credential, thrown, rfl, compared⟩⟩
              simp [collectMatches, present, compared, Bind.bind, Except.bind]
          | ok matched =>
              cases matched with
              | false =>
                  simpa [collectMatches, present, compared, Bind.bind, Except.bind]
                    using induction initial
              | true =>
                  rcases induction (initial.assignAll
                      (extractCredentialClaims credential claims)) with
                    ⟨thrown, fails, throws⟩ | ⟨valid, extracted, collected, quiet, -⟩
                  · refine .inl ⟨thrown, ?_, .inr throws⟩
                    simp [collectMatches, present, compared, Bind.bind, Except.bind, fails]
                  · refine .inr ⟨credential :: valid, extracted, ?_, ?_, ?_⟩
                    · simp [collectMatches, present, compared, Bind.bind, Except.bind,
                        collected, pure, Except.pure]
                    · simp [compared, quiet]
                    · simp [compared]

theorem validateClaims_spec (claims : List DcqlClaim)
    (credentialResults : List (CredentialVerificationResult CheckResult)) :
    (∃ thrown, validateClaims claims credentialResults = .error thrown ∧
      claims ≠ [] ∧ ComparisonThrows claims credentialResults) ∨
    (∃ matched validation, validateClaims claims credentialResults =
        .ok (matched, validation) ∧
      (claims ≠ [] → ¬ ComparisonThrows claims credentialResults ∧
        ∃ details, validation = some details ∧
          (details.matched = true ↔ SomeMatch claims credentialResults))) := by
  unfold validateClaims
  by_cases none : claims = []
  · rw [if_pos (by simpa using none)]
    exact .inr ⟨_, _, rfl, fun demanded => absurd none demanded⟩
  · rw [if_neg (by simpa using none)]
    rcases collectMatches_spec claims credentialResults {} with
      ⟨thrown, fails, throws⟩ | ⟨valid, extracted, collected, quiet, found⟩
    · exact .inl ⟨thrown, by simp [fails, Bind.bind, Except.bind], none, throws⟩
    · refine .inr ⟨valid, _, by
        simp only [collected, Bind.bind, Except.bind, pure, Except.pure]; rfl, ?_⟩
      intro _
      refine ⟨quiet, _, rfl, ?_⟩
      rw [← found]
      simp

/-- Comparing a required claim with some credential throws, so nothing is set. -/
def ClaimsThrow (exchange : ExchangeDetailVerify) (result : PresentationVerificationResult) :
    Prop :=
  exchange.vars.vprClaims ≠ [] ∧
    ComparisonThrows exchange.vars.vprClaims (storedCredentialResults result)

theorem applyVerificationResults_spec (exchange : ExchangeDetailVerify)
    (result : PresentationVerificationResult) (log : List CheckResult) (debug : Bool) :
    ((∃ thrown, applyVerificationResults exchange result log debug = .error thrown) ∧
      ClaimsThrow exchange result) ∨
    ((∃ stored, applyVerificationResults exchange result log debug = .ok stored) ∧
      ¬ ClaimsThrow exchange result) := by
  rcases validateClaims_spec exchange.vars.vprClaims (storedCredentialResults result) with
    ⟨thrown, fails, demanded, throws⟩ | ⟨matched, validation, validated, found⟩
  · exact .inl ⟨⟨thrown, by
      simp [applyVerificationResults, fails, Bind.bind, Except.bind]⟩, demanded, throws⟩
  · refine .inr ⟨⟨_, by
      simp only [applyVerificationResults, validated, Bind.bind, Except.bind, pure,
        Except.pure]
      rfl⟩, ?_⟩
    intro throws
    exact (found throws.1).1 throws.2

theorem not_claimsThrow {stored : ExchangeDetailVerify} {log : List CheckResult}
    {debug : Bool}
    (applied : applyVerificationResults exchange result log debug = .ok stored) :
    ¬ ClaimsThrow exchange result := by
  rcases applyVerificationResults_spec exchange result log debug with
    ⟨⟨thrown, fails⟩, -⟩ | ⟨-, quiet⟩
  · rw [applied] at fails
    cases fails
  · exact quiet

/-- A state that was set is `complete` or `invalid`. -/
theorem applyVerificationResults_state {stored : ExchangeDetailVerify}
    {log : List CheckResult} {debug : Bool}
    (applied : applyVerificationResults exchange result log debug = .ok stored) :
    (stored.state = .complete ∧ Acceptable exchange result) ∨
      (stored.state = .invalid ∧ ¬ Acceptable exchange result) := by
  rcases applyVerificationResults_ok applied with ⟨results, -, -, -, -, -, same⟩
  have decided : stored.state = determineExchangeOutcome result.verified
      (storedCredentialResults result) exchange := by rw [same]
  rw [decided]
  rcases determineExchangeOutcome_cases exchange (storedCredentialResults result)
      result.verified with complete | invalid
  · exact .inl ⟨complete, determineExchangeOutcome_eq_complete.mp complete⟩
  · refine .inr ⟨invalid, fun acceptable => ?_⟩
    rw [determineExchangeOutcome_eq_complete.mpr acceptable] at invalid
    cases invalid

/-! ## What the verifier asked for -/

def DemandsIssuers (exchange : ExchangeDetailVerify) : Prop :=
  exchange.vars.trustedIssuers ≠ [] ∨ exchange.vars.trustedRegistries.getD [] ≠ []

structure Enforced (exchange : ExchangeDetailVerify)
    (result : PresentationVerificationResult) (results : VerificationResult) : Prop where
  verified : result.verified = true
  credentials : ∀ credentialResult ∈ result.credentialResults,
    credentialResult.verified = true
  claims : exchange.vars.vprClaims ≠ [] →
    ∃ validation, results.claimsValidation = some validation ∧ validation.matched = true
  issuers : DemandsIssuers exchange →
    ∃ validation, results.issuerValidation = some validation ∧
      validation.issuerFound = true

/-- State `complete` is only set on results that meet every demand. -/
def Enforces (exchange : ExchangeDetailVerify) (result : PresentationVerificationResult)
    (log : List CheckResult) (debug : Bool) : Prop :=
  ∀ stored, applyVerificationResults exchange result log debug = .ok stored →
    stored.state = .complete →
    ∃ results, stored.vars.results = some results ∧ Enforced exchange result results

def IssuersTrusted (exchange : ExchangeDetailVerify)
    (result : PresentationVerificationResult) : Prop :=
  ∀ stored ∈ storedCredentialResults result, ∀ credential,
    presentCredential stored = some credential →
    (validateTrustedIssuers credential exchange.vars.trustedIssuers
      (exchange.vars.trustedRegistries.getD []) stored).issuerFound = true ∨
    (validateTrustedIssuers credential exchange.vars.trustedIssuers
      (exchange.vars.trustedRegistries.getD []) stored).registryMatch = true

theorem allIssuersValid_iff :
    allIssuersValid exchange (storedCredentialResults result) = true ↔
      IssuersTrusted exchange result := by
  unfold allIssuersValid IssuersTrusted
  rw [List.all_eq_true]
  apply forall₂_congr
  intro stored _
  cases presentCredential stored with
  | none => simp
  | some credential => simp

theorem validateIssuers_of_demands
    (credentialResults : List (CredentialVerificationResult CheckResult))
    (demands : DemandsIssuers exchange) :
    ∃ validation, validateIssuers exchange credentialResults = some validation ∧
      validation.issuerFound = allIssuersValid exchange credentialResults := by
  unfold validateIssuers
  dsimp only
  rw [if_neg]
  · exact ⟨_, rfl, rfl⟩
  · intro both
    simp only [Bool.and_eq_true, List.isEmpty_iff] at both
    rcases demands with trusted | registries
    · exact trusted both.1
    · exact registries both.2

/-- The claims and issuer demands of the exchange, on the credentials as they
were reported. -/
structure MeetsDemands (exchange : ExchangeDetailVerify)
    (result : PresentationVerificationResult) : Prop where
  claims : exchange.vars.vprClaims ≠ [] →
    SomeMatch exchange.vars.vprClaims (storedCredentialResults result)
  issuers : DemandsIssuers exchange → IssuersTrusted exchange result

theorem claimsValidation_spec {results : VerificationResult}
    (valid : validateClaims exchange.vars.vprClaims (storedCredentialResults result) =
      .ok (results.matchedCredentials, results.claimsValidation))
    (demanded : exchange.vars.vprClaims ≠ []) :
    ∃ details, results.claimsValidation = some details ∧
      (details.matched = true ↔
        SomeMatch exchange.vars.vprClaims (storedCredentialResults result)) := by
  rcases validateClaims_spec exchange.vars.vprClaims (storedCredentialResults result) with
    ⟨thrown, fails, -, -⟩ | ⟨matched, validation, validated, found⟩
  · rw [fails] at valid
    cases valid
  · rw [validated] at valid
    cases valid
    exact (found demanded).2

theorem enforced_iff {stored : ExchangeDetailVerify} {log : List CheckResult}
    {debug : Bool}
    (applied : applyVerificationResults exchange result log debug = .ok stored)
    (acceptable : Acceptable exchange result) :
    (∃ results, stored.vars.results = some results ∧ Enforced exchange result results) ↔
      MeetsDemands exchange result := by
  rcases applyVerificationResults_ok applied with
    ⟨results, -, -, -, valid, issuers, rfl⟩
  constructor
  · intro isEnforced
    rcases isEnforced with ⟨kept, isKept, enforced⟩
    cases isKept
    constructor
    · intro demanded
      rcases claimsValidation_spec valid demanded with ⟨details, isDetails, match_iff⟩
      rcases enforced.claims demanded with ⟨recorded, isRecorded, positive⟩
      rw [isDetails] at isRecorded
      cases isRecorded
      exact match_iff.mp positive
    · intro demands
      rcases enforced.issuers demands with ⟨recorded, isRecorded, positive⟩
      rcases validateIssuers_of_demands _ demands with ⟨details, isDetails, flag⟩
      rw [issuers, isDetails] at isRecorded
      cases isRecorded
      exact allIssuersValid_iff.mp (flag ▸ positive)
  · intro meets
    refine ⟨results, rfl, acceptable.verified, acceptable.credentials, ?_, ?_⟩
    · intro demanded
      rcases claimsValidation_spec valid demanded with ⟨details, isDetails, match_iff⟩
      exact ⟨details, isDetails, match_iff.mpr (meets.claims demanded)⟩
    · intro demands
      rcases validateIssuers_of_demands (storedCredentialResults result) demands with
        ⟨details, isDetails, flag⟩
      refine ⟨details, issuers.trans isDetails, ?_⟩
      rw [flag]
      exact allIssuersValid_iff.mpr (meets.issuers demands)

/-- The outcome enforces the demands exactly when the flags already reject the
presentation, comparing a claim throws, or the demands happen to be met. -/
theorem enforces_iff (exchange : ExchangeDetailVerify)
    (result : PresentationVerificationResult) (log : List CheckResult) (debug : Bool) :
    Enforces exchange result log debug ↔
      (Acceptable exchange result →
        ClaimsThrow exchange result ∨ MeetsDemands exchange result) := by
  constructor
  · intro enforces acceptable
    rcases applyVerificationResults_spec exchange result log debug with
      ⟨-, throws⟩ | ⟨⟨stored, applied⟩, -⟩
    · exact .inl throws
    · right
      apply (enforced_iff applied acceptable).mp
      apply enforces stored applied
      rcases applyVerificationResults_state applied with ⟨complete, -⟩ | ⟨-, objection⟩
      · exact complete
      · exact absurd acceptable objection
  · intro condition stored applied complete
    rcases applyVerificationResults_state applied with ⟨-, acceptable⟩ | ⟨invalid, -⟩
    · apply (enforced_iff applied acceptable).mpr
      rcases condition acceptable with throws | meets
      · exact absurd throws (not_claimsThrow applied)
      · exact meets
    · cases complete.symm.trans invalid

end

/-! ## A guest where an administrator is asked for -/

def roleExchange : ExchangeDetailVerify where
  tenantName := "default"
  exchangeId := "exchange-1"
  expires := 600000
  state := .active
  vars := {
    exchangeHost := "http://localhost:4004"
    challenge := "challenge-1"
    vprContext := []
    vprCredentialType := ["VerifiableCredential"]
    trustedIssuers := []
    trustedRegistries := some []
    vprClaims := [{ path := ["credentialSubject", "role"], values := some ["admin"] }] }

def guestCredential : Json :=
  .obj [
    ("issuer", .str "did:example:issuer"),
    ("credentialSubject", .obj [("role", .str "guest")])]

def guestResult : PresentationVerificationResult where
  verified := true
  presentationResults := []
  credentialResults := [{
    verified := true
    verifiableCredential := some guestCredential
    results := [] }]

theorem guest_accepted : ¬ Enforces roleExchange guestResult [] false := by
  intro enforces
  rcases enforces _ rfl rfl with ⟨results, isResults, enforced⟩
  cases isResults
  rcases enforced.claims (by simp [roleExchange]) with ⟨validation, isValidation, matched⟩
  cases isValidation
  cases matched

end TransactionService.Outcome
