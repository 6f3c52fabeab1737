import TransactionService.Compatibility
import TransactionService.Validation

namespace TransactionService

/-! # DID authentication

`didAuth.ts`: verifying a presentation, and the DID that signed it. -/

def verifyPresentation (answers : Answers) (call : VerifyPresentationCall) :
    Handler PresentationVerificationResult :=
  Action.perform (.verifyPresentation call)
    (match answers.verifyPresentation call with
      | .ok result => .ok result
      | .error message => .error (.error message))

/-- `Array.isArray(proof) ? proof : proof ? [proof] : []`. -/
def proofList : Option Json → List Json
  | some (.arr proofs) => proofs
  | some proof => if proof.isTruthy then [proof] else []
  | none => []

def didOfVerificationMethod (verificationMethod : String) : String :=
  match Text.indexOf '#' verificationMethod with
  | none => verificationMethod
  | some hashIndex => Text.sliceTo hashIndex verificationMethod

/-- The proof that authenticates: an authentication proof if there is one, else
one with the challenge, else the first. -/
def authenticationProof (presentation : Json) (challenge : String) : Option Json :=
  let proofs := proofList (presentation.field "proof")
  (proofs.find? fun proof => (proof.field "proofPurpose").any (·.isText "authentication"))
    <|> (proofs.find? fun proof => (proof.field "challenge").any (·.isText challenge))
    <|> proofs.head?

def deriveHolderFromProof (presentation : Json) (challenge : String) : Option String :=
  match authenticationProof presentation challenge with
  | none => none
  | some auth =>
      match auth.field "verificationMethod" with
      | some (.str verificationMethod) =>
          if verificationMethod = "" then none
          else some (didOfVerificationMethod verificationMethod)
      | _ => none

def problemDetailsFromChecks (results : List CoreCheckResult) : List ProblemDetail :=
  results.flatMap fun check =>
    match check.outcome with
    | .failure problems => problems.map fun problem =>
        cryptographicVerificationProblemDetail (problem.title ++ ": " ++ problem.detail)
    | _ => []

inductive DidAuthVerificationResult
  | verified (holder : Option String) (compatLog : Option (List CheckResult))
  | rejected (problemDetails : List ProblemDetail)
      (compatLog : Option (List CheckResult))

section

variable (runtime : Runtime) (answers : Answers)

def didAuthVerdict (presentation : Json) (challenge : String)
    (exposed : Option (List CheckResult)) (result : PresentationVerificationResult) :
    DidAuthVerificationResult :=
  if result.verified then
    .verified (Text.given (deriveHolderFromProof presentation challenge)) exposed
  else
    match problemDetailsFromChecks result.presentationResults with
    | [] => .rejected [cryptographicVerificationProblemDetail
        "DID Authentication presentation could not be verified."] exposed
    | problemDetails => .rejected problemDetails exposed

def verifyDIDAuth (presentation : Json) (challenge : String) (debug : Bool) :
    Handler DidAuthVerificationResult := do
  let refined := preparePresentation runtime presentation
  Action.ofExcept (assertValidVerifiablePresentationStructure refined.result)
  let result ← verifyPresentation answers { presentation := refined.result, challenge }
  return didAuthVerdict refined.result challenge
    (if debug then some refined.log else none) result

/-! ## What the verification does -/

theorem verifyPresentation_ok {call : VerifyPresentationCall}
    {result : PresentationVerificationResult}
    (answered : (verifyPresentation answers call).result = .ok result) :
    answers.verifyPresentation call = .ok result := by
  simp only [verifyPresentation, Action.perform] at answered
  split at answered
  · rename_i answer
    rw [answer, Except.ok.inj answered]
  · cases answered

@[simp] theorem verifyDIDAuth_saved (presentation : Json) (challenge : String)
    (debug : Bool) :
    (verifyDIDAuth runtime answers presentation challenge debug).saved = none := by
  simp only [verifyDIDAuth]
  cases assertValidVerifiablePresentationStructure
      (preparePresentation runtime presentation).result with
  | error thrown => rfl
  | ok valid =>
      simp only [Action.ofExcept_ok_bind, verifyPresentation]
      split <;> simp

theorem mem_calls_verifyDIDAuth {presentation : Json} {challenge : String}
    {debug : Bool} {call : Call} :
    call ∈ (verifyDIDAuth runtime answers presentation challenge debug).calls ↔
      Schema.verifiablePresentation
          (preparePresentation runtime presentation).result = true ∧
        call = .verifyPresentation {
          presentation := (preparePresentation runtime presentation).result
          challenge } := by
  simp only [verifyDIDAuth, assertValidVerifiablePresentationStructure]
  split
  · rename_i valid
    simp only [Action.ofExcept_ok_bind, verifyPresentation]
    split <;> simp [valid]
  · rename_i invalid
    simp [invalid, Action.fail]

theorem verifyDIDAuth_verified_iff {presentation : Json} {challenge : String}
    {debug : Bool} {holder : Option String} :
    (∃ compatLog, (verifyDIDAuth runtime answers presentation challenge debug).result =
      .ok (.verified holder compatLog)) ↔
    Schema.verifiablePresentation (preparePresentation runtime presentation).result = true ∧
      (∃ result, answers.verifyPresentation {
          presentation := (preparePresentation runtime presentation).result
          challenge } = .ok result ∧ result.verified = true) ∧
      holder = Text.given
        (deriveHolderFromProof (preparePresentation runtime presentation).result
          challenge) := by
  constructor
  · rintro ⟨compatLog, verified⟩
    simp only [verifyDIDAuth] at verified
    rcases Action.result_bind verified with ⟨valid, accepted, rest⟩
    rcases Action.result_bind rest with ⟨result, answered, verdict⟩
    simp only [Action.pure_eq, Except.ok.injEq, didAuthVerdict] at verdict
    split at verdict
    · rename_i positive
      cases verdict
      exact ⟨assertValid_eq_ok.mp accepted,
        ⟨result, verifyPresentation_ok answers answered, positive⟩, rfl⟩
    · split at verdict <;> cases verdict
  · rintro ⟨valid, ⟨result, answered, positive⟩, rfl⟩
    refine ⟨if debug then some (preparePresentation runtime presentation).log else none, ?_⟩
    have accepted : assertValidVerifiablePresentationStructure
        (preparePresentation runtime presentation).result = .ok () :=
      assertValid_eq_ok.mpr valid
    simp only [verifyDIDAuth, verifyPresentation, accepted, answered]
    simp only [Action.ofExcept_ok_bind, Action.perform_ok_bind, Action.pure_eq,
      didAuthVerdict, positive, if_true]

end

end TransactionService
