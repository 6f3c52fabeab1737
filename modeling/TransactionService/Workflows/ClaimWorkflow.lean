import TransactionService.IssuerSelection
import TransactionService.Workflows.DidAuthWorkflow

namespace TransactionService

/-! # The claim workflow -/

/-- The refinement of `vc` in `exchangeCreateSchemaClaim`: JSON text of something
whose type includes `VerifiableCredential`. -/
def isCredentialTemplate (runtime : Runtime) (vc : String) : Bool :=
  match runtime.parseJson vc with
  | none => false
  | some data =>
      (data.field "type").any fun type =>
        Json.includesText type.arrayOf "VerifiableCredential"

/-- `credential.credentialSubject.id = holderDid`. A property given to an array
is lost when the credential is serialized, and one given to a primitive value
throws. -/
def withSubjectId (credential : Json) (holderDid : String) : Option Json :=
  match credential.field "credentialSubject" with
  | some (.obj members) =>
      some (credential.withField "credentialSubject"
        (.obj (setMember "id" (.str holderDid) members)))
  | some (.arr _) => some credential
  | _ => none

def claimCompleted (exchange : ExchangeDetailClaim) (signedCredential : Json)
    (compatLog : Option (List CheckResult)) : ExchangeDetailClaim :=
  { exchange with
    state := .complete
    vars := { exchange.vars with
      results := some { verifiableCredential := [signedCredential], compatLog } } }

section

variable (runtime : Runtime) (config : Config) (answers : Answers)

def buildCredential (credentialTemplate : String) (exchange : ExchangeDetailClaim)
    (holderDid : String) : Option Json := do
  let builtCredential ← runtime.renderTemplate credentialTemplate exchange.vars
  let credential ← runtime.parseJson builtCredential
  withSubjectId credential holderDid

def issuerInstanceFor (exchange : ExchangeDetailClaim) (walletCryptosuites : List String) :
    Option IssuerInstance :=
  (config.tenants.lookup (runtime.toLowerCase exchange.tenantName)).bind fun tenant =>
    selectIssuerInstance tenant walletCryptosuites

def withIssuer (issuerInstance : Option IssuerInstance) (credential : Json) : Json :=
  match issuerInstance with
  | some selected =>
      if selected.id = "" then credential
      else credential.withField "issuer" (.str selected.id)
  | none => credential

def allocateStatus (credential : Json) : Handler Json :=
  if config.statusService = "" then return credential
  else callService answers (config.statusService ++ "/credentials/status/allocate") credential

def signEndpoint (exchange : ExchangeDetailClaim)
    (issuerInstance : Option IssuerInstance) : String :=
  config.signingService ++ "/instance/" ++
    (match issuerInstance with
      | some selected => selected.signingServiceTenant
      | none => exchange.tenantName) ++
    "/credentials/sign"

/-- Allocate a status for and sign a built credential, and save the exchange as
complete. -/
def issueCredential (exchange : ExchangeDetailClaim) (walletCryptosuites : List String)
    (compatLog : Option (List CheckResult)) (credential : Json) : Handler Json := do
  let issuerInstance := issuerInstanceFor runtime config exchange walletCryptosuites
  let credential ← allocateStatus config answers (withIssuer issuerInstance credential)
  let signedCredential ← callService answers
    (signEndpoint config exchange issuerInstance) credential
  saveExchange answers (.claim (claimCompleted exchange signedCredential compatLog))
  return signedCredential

/-- Issue a credential bound to the holder; `none` when there is no template. -/
def signClaimCredentialFromHolderDid (holderDid : Option String)
    (exchange : ExchangeDetailClaim) (workflow : Workflow)
    (walletCryptosuites : List String) (compatLog : Option (List CheckResult)) :
    Handler (Option Json) :=
  match Text.given holderDid with
  | none => throwHttp 401
      "Could not determine holder DID from the DIDAuth presentation."
  | some holderDid =>
      match workflow.credentialTemplates.bind List.head? with
      | none => return none
      | some credentialTemplate =>
          match buildCredential runtime credentialTemplate exchange holderDid with
          | none => throwHttp 400 "Failed to build credential from template"
          | some credential => some <$>
              issueCredential runtime config answers exchange walletCryptosuites
                compatLog credential

def participateInClaimExchange (data : Json) (exchange : ExchangeDetailClaim)
    (workflow : Workflow) : Handler Json := do
  let debug := exchange.vars.debug.getD config.defaultExchangeDebug
  let didAuthResult ← verifyDIDAuth runtime answers data exchange.vars.challenge debug
  match didAuthResult with
  | .rejected problemDetails _ =>
      throwHttp 401 "Invalid DIDAuth or unsupported options."
        (some (problemDetails.map Problem.detail))
  | .verified holderDid compatLog =>
      match Text.given (extractHolderDid (presentationOf data)), Text.given holderDid with
      | some assertedHolder, some signer =>
          if assertedHolder ≠ signer then
            throwHttp 401 "Presentation holder does not match the proof signer."
          else
            finish holderDid compatLog
      | _, _ => finish holderDid compatLog
where
  finish (holderDid : Option String) (compatLog : Option (List CheckResult)) :
      Handler Json := do
    let signedCredential ← signClaimCredentialFromHolderDid runtime config answers
      holderDid exchange workflow (extractWalletCryptosuitesFromPresentation data) compatLog
    if !Json.truthy signedCredential then return redirectTo exchange.vars.redirectUrl
    else
      let verifiablePresentation := runtime.createPresentation.withField
        "verifiableCredential" (.arr signedCredential.toList)
      return verifiablePresentation.withField "verifiablePresentation"
        verifiablePresentation

/-! ## What a claim writes and calls -/

@[simp] theorem allocateStatus_saved (credential : Json) :
    (allocateStatus config answers credential).saved = none := by
  unfold allocateStatus
  split <;> rfl

@[simp] theorem callService_saved (endpoint : String) (body : Json) :
    (callService answers endpoint body).saved = none :=
  rfl

theorem issueCredential_saved {exchange : ExchangeDetailClaim}
    {walletCryptosuites : List String} {compatLog : Option (List CheckResult)}
    {credential : Json} {record : Exchange}
    (writes : (issueCredential runtime config answers exchange walletCryptosuites
      compatLog credential).saved = some record) :
    ∃ signedCredential,
      record = .claim (claimCompleted exchange signedCredential compatLog) := by
  unfold issueCredential at writes
  rcases Action.saved_bind_of_none (allocateStatus_saved ..) writes with
    ⟨allocated, -, later⟩
  rcases Action.saved_bind_of_none (callService_saved ..) later with
    ⟨signedCredential, -, last⟩
  rcases Action.saved_bind last with written | ⟨_, _, nothing⟩
  · exact ⟨signedCredential, saveExchange_saved written⟩
  · cases nothing

private theorem issueCredential_ok {exchange : ExchangeDetailClaim}
    {walletCryptosuites : List String} {compatLog : Option (List CheckResult)}
    {credential signedCredential : Json}
    (succeeds : (issueCredential runtime config answers exchange walletCryptosuites
      compatLog credential).result = .ok signedCredential) :
    (issueCredential runtime config answers exchange walletCryptosuites compatLog
      credential).saved =
        some (.claim (claimCompleted exchange signedCredential compatLog)) := by
  unfold issueCredential at succeeds ⊢
  rcases Action.result_bind succeeds with ⟨allocated, statusOk, afterStatus⟩
  rcases Action.result_bind afterStatus with ⟨signed, signOk, afterSign⟩
  rcases Action.result_bind afterSign with ⟨saved, saveOk, returned⟩
  cases returned
  dsimp only
  rw [Action.bind_ok statusOk, Action.bind_ok signOk, Action.bind_ok saveOk]
  simp [saveExchange_ok saveOk]

section

variable {holderDid : Option String} {exchange : ExchangeDetailClaim}
  {workflow : Workflow} {walletCryptosuites : List String}
  {compatLog : Option (List CheckResult)}

theorem signClaimCredentialFromHolderDid_saved {record : Exchange} :
    (signClaimCredentialFromHolderDid runtime config answers holderDid exchange
      workflow walletCryptosuites compatLog).saved = some record →
    ∃ signedCredential,
      record = .claim (claimCompleted exchange signedCredential compatLog) := by
  unfold signClaimCredentialFromHolderDid
  split
  · exact fun writes => (nomatch writes)
  · split
    · exact fun writes => (nomatch writes)
    · split
      · exact fun writes => (nomatch writes)
      · rw [Action.saved_map]
        exact issueCredential_saved runtime config answers

theorem signClaimCredentialFromHolderDid_ok {signedCredential : Json} :
    (signClaimCredentialFromHolderDid runtime config answers holderDid exchange
      workflow walletCryptosuites compatLog).result = .ok (some signedCredential) →
    (signClaimCredentialFromHolderDid runtime config answers holderDid exchange
      workflow walletCryptosuites compatLog).saved =
        some (.claim (claimCompleted exchange signedCredential compatLog)) := by
  unfold signClaimCredentialFromHolderDid
  split
  · exact fun succeeds => (nomatch succeeds)
  · split
    · exact fun succeeds => (nomatch succeeds)
    · split
      · exact fun succeeds => (nomatch succeeds)
      · rw [Action.saved_map]
        intro succeeds
        rcases Action.result_map succeeds with ⟨signed, issued, same⟩
        exact issueCredential_ok runtime config answers (Option.some.inj same ▸ issued)

end

theorem participateInClaimExchange_saved {data : Json} {exchange : ExchangeDetailClaim}
    {workflow : Workflow} {record : Exchange}
    (writes : (participateInClaimExchange runtime config answers data exchange
      workflow).saved = some record) :
    ∃ signedCredential compatLog,
      record = .claim (claimCompleted exchange signedCredential compatLog) := by
  have finishes : ∀ holderDid compatLog,
      (participateInClaimExchange.finish runtime config answers data exchange workflow
        holderDid compatLog).saved = some record →
      ∃ signedCredential compatLog,
        record = .claim (claimCompleted exchange signedCredential compatLog) := by
    intro holderDid compatLog finished
    unfold participateInClaimExchange.finish at finished
    rcases Action.saved_bind finished with signs | ⟨signed, -, returns⟩
    · rcases signClaimCredentialFromHolderDid_saved runtime config answers signs with
        ⟨signedCredential, same⟩
      exact ⟨signedCredential, compatLog, same⟩
    · split at returns <;> cases returns
  unfold participateInClaimExchange at writes
  rcases Action.saved_bind_of_none (verifyDIDAuth_saved ..) writes with
    ⟨didAuthResult, -, later⟩
  split at later
  · cases later
  · split at later
    · split at later
      · cases later
      · exact finishes _ _ later
    · exact finishes _ _ later

end

end TransactionService
