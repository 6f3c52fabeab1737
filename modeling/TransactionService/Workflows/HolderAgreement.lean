import TransactionService.Oid4vci.Handlers

namespace TransactionService.HolderAgreement

/-! # Holder agreement on both issuance paths -/

/-! ## Holders, signers and subjects -/

def AssertsHolder (presentation : Json) (holder : String) : Prop :=
  ∃ owner, presentation.field "holder" = some owner ∧
    (owner = .str holder ∨ owner.field "id" = some (.str holder))

def DidPart (verificationMethod did : String) : Prop :=
  '#' ∉ did.toList ∧
    (verificationMethod = did ∨ ∃ fragment, verificationMethod = did ++ "#" ++ fragment)

def SignedBy (presentation : Json) (challenge did : String) : Prop :=
  ∃ proof verificationMethod, authenticationProof presentation challenge = some proof ∧
    proof.field "verificationMethod" = some (.str verificationMethod) ∧
    DidPart verificationMethod did

def BoundTo (credential : Json) (did : String) : Prop :=
  ∃ subject, credential.field "credentialSubject" = some subject ∧
    subject.field "id" = some (.str did)

theorem assertsHolder_iff {presentation : Json} {holder : String} :
    AssertsHolder presentation holder ↔ extractHolderDid presentation = some holder := by
  unfold AssertsHolder extractHolderDid
  cases presentation.field "holder" with
  | none => simp
  | some owner => cases owner <;> simp [Json.field, Option.bind_eq_some_iff]

private theorem assertsHolder_congr {left right : Json} {holder : String}
    (same : left.field "holder" = right.field "holder") :
    AssertsHolder left holder ↔ AssertsHolder right holder := by
  simp only [AssertsHolder, same]

theorem didPart_iff {verificationMethod did : String} :
    DidPart verificationMethod did ↔ didOfVerificationMethod verificationMethod = did := by
  unfold DidPart didOfVerificationMethod
  constructor
  · rintro ⟨absent, rfl | ⟨fragment, rfl⟩⟩
    · have none : Text.indexOf '#' verificationMethod = none := by
        rw [Text.indexOf, List.findIdx?_eq_none_iff]
        intro character member
        exact beq_eq_false_iff_ne.mpr fun equal => absent (equal ▸ member)
      rw [none]
    · have shape : did ++ "#" ++ fragment =
          String.ofList (did.toList ++ '#' :: fragment.toList) := by
        simp [String.append_assoc]
      rw [shape, Text.indexOf_append fragment.toList absent]
      dsimp only
      rw [Text.sliceTo_append, String.ofList_toList]
  · rintro rfl
    split
    · rename_i none
      refine ⟨?_, .inl rfl⟩
      rw [Text.indexOf, List.findIdx?_eq_none_iff] at none
      intro member
      simpa using none '#' member
    · rename_i hashIndex found
      rcases Text.indexOf_eq_some found with ⟨before, after, rfl, absent, rfl⟩
      rw [Text.sliceTo_append]
      refine ⟨by simpa using absent, .inr ⟨String.ofList after, ?_⟩⟩
      simp [String.append_assoc]

theorem signedBy_of_derived {presentation : Json} {challenge did : String}
    (derived : deriveHolderFromProof presentation challenge = some did) :
    SignedBy presentation challenge did := by
  unfold deriveHolderFromProof at derived
  split at derived
  · cases derived
  · rename_i proof authenticates
    split at derived
    · rename_i verificationMethod found
      split at derived
      · cases derived
      · cases derived
        exact ⟨proof, verificationMethod, authenticates, found, didPart_iff.mpr rfl⟩
    · cases derived

theorem SignedBy.eq_derived {presentation : Json} {challenge signer did : String}
    (signed : SignedBy presentation challenge signer)
    (derived : deriveHolderFromProof presentation challenge = some did) : signer = did := by
  rcases signed with ⟨proof, verificationMethod, authenticates, found, part⟩
  simp only [deriveHolderFromProof, authenticates, found] at derived
  split at derived
  · cases derived
  · cases derived
    exact (didPart_iff.mp part).symm

private theorem withSubjectId_some {credential bound : Json} {did : String}
    (built : withSubjectId credential did = some bound) :
    BoundTo bound did ∨
      ∃ subjects, credential.field "credentialSubject" = some (.arr subjects) := by
  unfold withSubjectId at built
  split at built
  · rename_i members found
    cases credential with
    | obj entries =>
        cases built
        exact .inl ⟨_, Json.field_withField_self .., by simp [Json.field]⟩
    | _ => cases found
  · rename_i subjects found
    cases built
    exact .inr ⟨subjects, found⟩
  · cases built

theorem not_boundTo_array {credential : Json} {subjects : List Json} {did : String}
    (array : credential.field "credentialSubject" = some (.arr subjects)) :
    ¬ BoundTo credential did := by
  rintro ⟨subject, found, named⟩
  rw [array] at found
  cases found
  cases named

/-! ## Calls of the signing service -/

def IsSignEndpoint (config : Config) (endpoint : String) : Prop :=
  ∃ tenant, endpoint = config.signingService ++ "/instance/" ++ tenant ++ "/credentials/sign"

def allocateEndpoint (config : Config) : String :=
  config.statusService ++ "/credentials/status/allocate"

private theorem allocateEndpoint_not_sign (config : Config) :
    ¬ IsSignEndpoint config (allocateEndpoint config) := by
  rintro ⟨tenant, same⟩
  have last := congrArg (fun text : String => text.toList.getLast?) same
  simp only [allocateEndpoint, String.toList_append, List.getLast?_append] at last
  simp at last

/-- What the signing service is sent for a built credential. -/
def Allocated (config : Config) (answers : Answers) (credential body : Json) : Prop :=
  if config.statusService = "" then body = credential
  else answers.callService (allocateEndpoint config) credential = some body

theorem allocateStatus_ok {config : Config} {answers : Answers} {credential body : Json} :
    (allocateStatus config answers credential).result = .ok body ↔
      Allocated config answers credential body := by
  unfold allocateStatus Allocated
  split
  · simp [eq_comm]
  · simp only [callService, Action.perform, allocateEndpoint]
    split
    · rename_i data answered
      simp [answered]
    · rename_i failed
      simp [failed]

section

variable {runtime : Runtime} {config : Config} {answers : Answers} {endpoint : String}
  {body : Json} {exchange : ExchangeDetailClaim} {workflow : Workflow}

private theorem sign_mem_issueCredential {walletCryptosuites : List String}
    {compatLog : Option (List CheckResult)} {credential : Json}
    (isSign : IsSignEndpoint config endpoint) :
    .callService endpoint body ∈ (issueCredential runtime config answers exchange
        walletCryptosuites compatLog credential).calls ↔
      Allocated config answers (withIssuer (issuerInstanceFor runtime config exchange
          walletCryptosuites) credential) body ∧
        endpoint = signEndpoint config exchange
          (issuerInstanceFor runtime config exchange walletCryptosuites) := by
  unfold issueCredential
  rw [Action.mem_calls_bind]
  have notAllocating : .callService endpoint body ∉ (allocateStatus config answers
      (withIssuer (issuerInstanceFor runtime config exchange walletCryptosuites)
        credential)).calls := by
    unfold allocateStatus
    split
    · simp
    · intro made
      simp only [callService, Action.perform, List.mem_singleton, Call.callService.injEq]
        at made
      rcases made with ⟨rfl, -⟩
      exact allocateEndpoint_not_sign config isSign
  constructor
  · rintro (made | ⟨allocated, answered, later⟩)
    · exact absurd made notAllocating
    · rw [allocateStatus_ok] at answered
      rw [Action.mem_calls_bind] at later
      rcases later with made | ⟨signed, -, later⟩
      · simp only [callService, Action.perform, List.mem_singleton,
          Call.callService.injEq] at made
        rcases made with ⟨rfl, rfl⟩
        exact ⟨answered, rfl⟩
      · simp [Action.mem_calls_bind] at later
  · rintro ⟨answered, rfl⟩
    refine .inr ⟨body, allocateStatus_ok.mpr answered, ?_⟩
    rw [Action.mem_calls_bind]
    exact .inl (by simp [callService, Action.perform])

theorem sign_mem_signClaim {did : String} {walletCryptosuites : List String}
    {compatLog : Option (List CheckResult)} (nonempty : did ≠ "")
    (isSign : IsSignEndpoint config endpoint) :
    .callService endpoint body ∈ (signClaimCredentialFromHolderDid runtime config answers
        (some did) exchange workflow walletCryptosuites compatLog).calls ↔
      ∃ template credential, workflow.credentialTemplates.bind List.head? = some template ∧
        buildCredential runtime template exchange did = some credential ∧
        Allocated config answers (withIssuer (issuerInstanceFor runtime config exchange
          walletCryptosuites) credential) body ∧
        endpoint = signEndpoint config exchange
          (issuerInstanceFor runtime config exchange walletCryptosuites) := by
  simp only [signClaimCredentialFromHolderDid, Text.given_some nonempty]
  cases workflow.credentialTemplates.bind List.head? with
  | none => simp
  | some template =>
      cases built : buildCredential runtime template exchange did with
      | none => simp [throwHttp, Action.fail, built]
      | some credential =>
          simp [Action.calls_map, sign_mem_issueCredential isSign, built]

theorem verify_not_mem_signClaim {holderDid : Option String}
    {walletCryptosuites : List String} {compatLog : Option (List CheckResult)}
    {call : VerifyPresentationCall} :
    .verifyPresentation call ∉ (signClaimCredentialFromHolderDid runtime config answers
      holderDid exchange workflow walletCryptosuites compatLog).calls := by
  unfold signClaimCredentialFromHolderDid
  split
  · simp [throwHttp, Action.fail]
  · split
    · simp
    · split
      · simp [throwHttp, Action.fail]
      · rw [Action.calls_map, issueCredential, Action.mem_calls_bind]
        rintro (made | ⟨allocated, -, later⟩)
        · unfold allocateStatus at made
          split at made
          · simp at made
          · simp [callService, Action.perform] at made
        · simp [Action.mem_calls_bind, callService, Action.perform] at later

end

/-! ## The two paths -/

inductive IssuanceRequest
  | vcapi (data : Json)
  | oid4vci (accessToken : Option String) (body : Json)

/-- A key proof: what is prepared and verified, under which challenge, where the
holder is read that has to agree, and the exchange to complete. -/
structure KeyProof where
  data : Json
  challenge : String
  checked : Json
  working : ExchangeDetailClaim

def vcapiKeyProof (exchange : ExchangeDetailClaim) (data : Json) : KeyProof where
  data := data
  challenge := exchange.vars.challenge
  checked := presentationOf data
  working := exchange

section

variable (runtime : Runtime) (config : Config) (answers : Answers)
  (exchange : ExchangeDetailClaim) (workflow : Workflow)

def issuanceCalls : IssuanceRequest → List Call
  | .vcapi data =>
      (participateInClaimExchange runtime config answers data exchange workflow).calls
  | .oid4vci accessToken body =>
      (handleCredentialRequest runtime config answers accessToken body exchange
        workflow).calls

def admittedKeyProof (accessToken : Option String) (body : Json) : Option KeyProof := do
  let accessToken ← Text.given accessToken
  let _ ← (validateAccessToken (answers.clock 0) exchange accessToken).toOption
  if exchange.state = .complete then none
  else
    let request ← parseCredentialRequest body
    let expectedConfigId ←
      (deriveCredentialConfigurationId runtime exchange.vars.vc).toOption
    if request.credentialConfigurationId ≠ expectedConfigId then none
    else
      let presented ← (extractVpChallenge request.diVp).toOption
      let challenge ← Text.given presented
      let working ← (validateAndConsumeNonce (answers.clock 1) exchange challenge).toOption
      return { data := request.diVp, challenge, checked := request.diVp, working }

def keyProofOf : IssuanceRequest → Option KeyProof
  | .vcapi data => some (vcapiKeyProof exchange data)
  | .oid4vci accessToken body => admittedKeyProof runtime answers exchange accessToken body

def KeyProof.verified (proof : KeyProof) : Json :=
  (preparePresentation runtime proof.data).result

/-- The key proof is carried through to the signing service, which is sent
`body`, the built credential with its status. -/
structure SigningReached (proof : KeyProof) (did : String) (credential body : Json) :
    Prop where
  wellFormed : Schema.verifiablePresentation (proof.verified runtime) = true
  accepted : ∃ result, answers.verifyPresentation {
      presentation := proof.verified runtime
      challenge := proof.challenge } = .ok result ∧ result.verified = true
  signer : deriveHolderFromProof (proof.verified runtime) proof.challenge = some did
  nonempty : did ≠ ""
  agreed : ∀ holder, AssertsHolder proof.checked holder → holder = "" ∨ holder = did
  built : ∃ template, workflow.credentialTemplates.bind List.head? = some template ∧
    buildCredential runtime template proof.working did = some credential
  allocated : Allocated config answers (withIssuer (issuerInstanceFor runtime config
    proof.working (extractWalletCryptosuitesFromPresentation proof.data)) credential) body

/-- The part of an OID4VCI request after the checks. -/
def verifyThenIssue (proof : KeyProof) : Handler Response := do
  let didAuthResult ← verifyDIDAuth runtime answers proof.data proof.challenge
    (exchange.vars.debug.getD config.defaultExchangeDebug)
  issueToHolder runtime config answers proof.data proof.working workflow didAuthResult

end

section

variable {runtime : Runtime} {config : Config} {answers : Answers}
  {exchange : ExchangeDetailClaim} {workflow : Workflow}

theorem handleCredentialRequest_spec (accessToken : Option String) (body : Json) :
    match admittedKeyProof runtime answers exchange accessToken body with
    | none =>
        (handleCredentialRequest runtime config answers accessToken body exchange
          workflow).calls = [] ∧
        (handleCredentialRequest runtime config answers accessToken body exchange
          workflow).saved = none
    | some proof =>
        handleCredentialRequest runtime config answers accessToken body exchange workflow =
          verifyThenIssue runtime config answers exchange workflow proof := by
  unfold handleCredentialRequest admittedKeyProof handleKeyProof
  cases Text.given accessToken with
  | none => exact ⟨rfl, rfl⟩
  | some token =>
      simp only [Option.bind_eq_bind, Option.bind_some]
      cases validateAccessToken (answers.clock 0) exchange token with
      | error failure => exact ⟨rfl, rfl⟩
      | ok _ =>
          simp only [Except.toOption, Option.bind_some]
          by_cases complete : exchange.state = .complete
          · simp only [if_pos complete]
            exact ⟨rfl, rfl⟩
          · simp only [if_neg complete]
            cases parseCredentialRequest body with
            | none => exact ⟨rfl, rfl⟩
            | some request =>
                simp only [Option.bind_some]
                cases deriveCredentialConfigurationId runtime exchange.vars.vc with
                | error thrown => exact ⟨rfl, rfl⟩
                | ok expectedConfigId =>
                    simp only [Action.ofExcept_ok_bind, Option.bind_some]
                    by_cases other : request.credentialConfigurationId ≠ expectedConfigId
                    · simp only [if_pos other]
                      exact ⟨rfl, rfl⟩
                    · simp only [if_neg other]
                      cases extractVpChallenge request.diVp with
                      | error thrown => exact ⟨rfl, rfl⟩
                      | ok presented =>
                          simp only [Action.ofExcept_ok_bind, Option.bind_some]
                          cases Text.given presented with
                          | none => exact ⟨rfl, rfl⟩
                          | some challenge =>
                              simp only [Option.bind_some]
                              cases validateAndConsumeNonce (answers.clock 1) exchange
                                  challenge with
                              | error failure => exact ⟨rfl, rfl⟩
                              | ok working => rfl

theorem handleCredentialRequest_calls (accessToken : Option String) (body : Json) :
    (handleCredentialRequest runtime config answers accessToken body exchange
        workflow).calls =
      match admittedKeyProof runtime answers exchange accessToken body with
      | none => []
      | some proof => (verifyThenIssue runtime config answers exchange workflow proof).calls := by
  have spec := @handleCredentialRequest_spec runtime config answers exchange workflow
    accessToken body
  cases admitted : admittedKeyProof runtime answers exchange accessToken body with
  | none =>
      rw [admitted] at spec
      exact spec.1
  | some proof =>
      rw [admitted] at spec
      exact congrArg Action.calls spec

theorem agreed_iff {checked : Json} {did : String} :
    (∀ holder, AssertsHolder checked holder → holder = "" ∨ holder = did) ↔
      ∀ holder, Text.given (extractHolderDid checked) = some holder → holder = did := by
  constructor
  · intro agreed holder isGiven
    rcases Option.filter_eq_some_iff.mp isGiven with ⟨asserted, nonempty⟩
    rcases agreed holder (assertsHolder_iff.mpr asserted) with empty | same
    · simp [empty] at nonempty
    · exact same
  · intro agreed holder asserts
    by_cases empty : holder = ""
    · exact .inl empty
    · right
      apply agreed
      rw [assertsHolder_iff.mp asserts, Text.given_some empty]

variable (runtime config answers workflow) in
def SignsFor (proof : KeyProof) (endpoint : String) (body : Json) : Prop :=
  ∃ did credential, SigningReached runtime config answers workflow proof did credential body ∧
    endpoint = signEndpoint config proof.working (issuerInstanceFor runtime config
      proof.working (extractWalletCryptosuitesFromPresentation proof.data))

variable {endpoint : String} {body : Json}

private theorem SigningReached.given_signer {proof : KeyProof} {did : String} {credential : Json}
    (reached : SigningReached runtime config answers workflow proof did credential body) :
    Text.given (deriveHolderFromProof (proof.verified runtime) proof.challenge) =
      some did := by
  rw [reached.signer, Text.given_some reached.nonempty]

theorem SigningReached.compared {proof : KeyProof} {did holder : String}
    {credential : Json}
    (reached : SigningReached runtime config answers workflow proof did credential body)
    (asserted : Text.given (extractHolderDid proof.checked) = some holder) :
    holder = did :=
  agreed_iff.mp reached.agreed holder asserted

theorem SigningReached.verifies {proof : KeyProof} {did : String} {credential : Json}
    (reached : SigningReached runtime config answers workflow proof did credential body)
    (debug : Bool) :
    ∃ compatLog, (verifyDIDAuth runtime answers proof.data proof.challenge debug).result =
      .ok (.verified (some did) compatLog) := by
  apply (verifyDIDAuth_verified_iff runtime answers).mpr
  exact ⟨reached.wellFormed, reached.accepted, reached.given_signer.symm⟩

theorem SigningReached.sign_mem {proof : KeyProof} {did : String} {credential : Json}
    (reached : SigningReached runtime config answers workflow proof did credential body)
    (compatLog : Option (List CheckResult)) (isSign : IsSignEndpoint config endpoint)
    (located : endpoint = signEndpoint config proof.working (issuerInstanceFor runtime
      config proof.working (extractWalletCryptosuitesFromPresentation proof.data))) :
    .callService endpoint body ∈ (signClaimCredentialFromHolderDid runtime config answers
      (some did) proof.working workflow
      (extractWalletCryptosuitesFromPresentation proof.data) compatLog).calls := by
  rw [sign_mem_signClaim reached.nonempty isSign]
  rcases reached.built with ⟨template, hasTemplate, built⟩
  exact ⟨template, credential, hasTemplate, built, reached.allocated, located⟩

theorem signsFor_of_mem (proof : KeyProof) {compatLog : Option (List CheckResult)}
    {holderDid : Option String} (isSign : IsSignEndpoint config endpoint)
    (verified : (verifyDIDAuth runtime answers proof.data proof.challenge debug).result =
      .ok (.verified holderDid compatLog))
    (agreed : ∀ holder did, Text.given (extractHolderDid proof.checked) = some holder →
      holderDid = some did → holder = did)
    (made : .callService endpoint body ∈ (signClaimCredentialFromHolderDid runtime config
      answers holderDid proof.working workflow
      (extractWalletCryptosuitesFromPresentation proof.data) compatLog).calls) :
    SignsFor runtime config answers workflow proof endpoint body := by
  rcases (verifyDIDAuth_verified_iff runtime answers).mp ⟨compatLog, verified⟩ with
    ⟨wellFormed, accepted, isGiven⟩
  cases holderDid with
  | none => simp [signClaimCredentialFromHolderDid, throwHttp, Action.fail] at made
  | some did =>
      rcases Option.filter_eq_some_iff.mp isGiven.symm with ⟨signer, nonempty⟩
      have named : did ≠ "" := by simpa using nonempty
      rw [sign_mem_signClaim named isSign] at made
      rcases made with ⟨template, credential, hasTemplate, built, allocated, located⟩
      exact ⟨did, credential, {
        wellFormed
        accepted
        signer
        nonempty := named
        agreed := agreed_iff.mpr fun holder asserted => agreed holder did asserted rfl
        built := ⟨template, hasTemplate, built⟩
        allocated }, located⟩

theorem callService_not_mem_verifyDIDAuth {presentation : Json} {challenge : String}
    {debug : Bool} :
    .callService endpoint body ∉
      (verifyDIDAuth runtime answers presentation challenge debug).calls := by
  rw [mem_calls_verifyDIDAuth]
  rintro ⟨-, impossible⟩
  cases impossible

private theorem sign_mem_verifyThenIssue {proof : KeyProof} (same : proof.checked = proof.data)
    (isSign : IsSignEndpoint config endpoint) :
    .callService endpoint body ∈
        (verifyThenIssue runtime config answers exchange workflow proof).calls ↔
      SignsFor runtime config answers workflow proof endpoint body := by
  unfold verifyThenIssue
  rw [Action.mem_calls_bind]
  constructor
  · intro made
    rcases made with verifying | ⟨didAuthResult, answered, later⟩
    · exact absurd verifying callService_not_mem_verifyDIDAuth
    · unfold issueToHolder at later
      split at later
      · cases later
      · cases later
      · rename_i holderDid compatLog
        split at later
        · cases later
        · rename_i noObjection
          rcases Action.mem_calls_bind.mp later with made | ⟨signed, -, returns⟩
          · apply signsFor_of_mem proof isSign answered ?_ made
            intro holder did asserted signer
            rw [same] at asserted
            cases signer
            simpa [asserted] using noObjection
          · split at returns <;> cases returns
  · intro signs
    rcases signs with ⟨did, credential, reached, located⟩
    rcases reached.verifies (exchange.vars.debug.getD config.defaultExchangeDebug) with
      ⟨compatLog, verified⟩
    refine .inr ⟨_, verified, ?_⟩
    have noObjection : (Text.given (extractHolderDid proof.data)).any (· ≠ did) ≠ true := by
      intro objects
      rcases (Option.any_eq_true _ _).mp objects with ⟨holder, asserted, differs⟩
      rw [← same] at asserted
      simp [reached.compared asserted] at differs
    simp only [issueToHolder, if_neg noObjection]
    rw [Action.mem_calls_bind]
    exact .inl (reached.sign_mem compatLog isSign located)

theorem sign_mem_finish {data : Json} {holderDid : Option String}
    {compatLog : Option (List CheckResult)} :
    .callService endpoint body ∈ (participateInClaimExchange.finish runtime config answers
        data exchange workflow holderDid compatLog).calls ↔
      .callService endpoint body ∈ (signClaimCredentialFromHolderDid runtime config answers
        holderDid exchange workflow (extractWalletCryptosuitesFromPresentation data)
        compatLog).calls := by
  unfold participateInClaimExchange.finish
  rw [Action.mem_calls_bind]
  constructor
  · rintro (made | ⟨signed, -, returns⟩)
    · exact made
    · split at returns <;> cases returns
  · exact .inl

private theorem sign_mem_participate {data : Json} (isSign : IsSignEndpoint config endpoint) :
    .callService endpoint body ∈ (participateInClaimExchange runtime config answers data
        exchange workflow).calls ↔
      SignsFor runtime config answers workflow (vcapiKeyProof exchange data) endpoint
        body := by
  unfold participateInClaimExchange
  rw [Action.mem_calls_bind]
  constructor
  · intro made
    rcases made with verifying | ⟨didAuthResult, answered, later⟩
    · exact absurd verifying callService_not_mem_verifyDIDAuth
    · split at later
      · cases later
      · rename_i holderDid compatLog
        have signs : ∀ holderAgrees, .callService endpoint body ∈
            (participateInClaimExchange.finish runtime config answers data exchange workflow
              holderDid compatLog).calls →
            SignsFor runtime config answers workflow (vcapiKeyProof exchange data) endpoint
              body := fun holderAgrees finishes =>
          signsFor_of_mem (vcapiKeyProof exchange data) isSign answered holderAgrees
            (sign_mem_finish.mp finishes)
        have isGiven : ∀ did, holderDid = some did → Text.given holderDid = some did := by
          intro did signer
          rcases (verifyDIDAuth_verified_iff runtime answers).mp ⟨compatLog, answered⟩ with
            ⟨-, -, rfl⟩
          rw [Text.given_given, signer]
        split at later
        · rename_i assertedHolder signer asserted derived
          split at later
          · cases later
          · rename_i agree
            apply signs ?_ later
            intro holder did isHolder isDid
            cases isHolder.symm.trans asserted
            cases (isGiven did isDid).symm.trans derived
            exact Decidable.not_not.mp agree
        · rename_i notBoth
          apply signs ?_ later
          intro holder did isHolder isDid
          exact absurd (isGiven did isDid) (notBoth holder did isHolder)
  · intro signs
    rcases signs with ⟨did, credential, reached, located⟩
    rcases reached.verifies (exchange.vars.debug.getD config.defaultExchangeDebug) with
      ⟨compatLog, verified⟩
    refine .inr ⟨_, verified, ?_⟩
    have finishes := sign_mem_finish.mpr (reached.sign_mem compatLog isSign located)
    dsimp only
    split
    · rename_i assertedHolder signer asserted derived
      have isSigner : did = signer := by
        rw [Text.given_some reached.nonempty] at derived
        exact Option.some.inj derived
      rw [if_neg (not_not_intro ((reached.compared asserted).trans isSigner))]
      exact finishes
    · exact finishes

/-! ### What is verified -/

theorem verify_mem_verifyDIDAuth {presentation : Json} {challenge : String}
    {debug : Bool} {call : VerifyPresentationCall} :
    .verifyPresentation call ∈
        (verifyDIDAuth runtime answers presentation challenge debug).calls ↔
      Schema.verifiablePresentation (preparePresentation runtime presentation).result =
          true ∧
        call = {
          presentation := (preparePresentation runtime presentation).result
          challenge } := by
  rw [mem_calls_verifyDIDAuth]
  simp

private theorem verify_mem_verifyThenIssue {proof : KeyProof} {call : VerifyPresentationCall} :
    .verifyPresentation call ∈
        (verifyThenIssue runtime config answers exchange workflow proof).calls ↔
      Schema.verifiablePresentation (proof.verified runtime) = true ∧
        call = { presentation := proof.verified runtime, challenge := proof.challenge } := by
  unfold verifyThenIssue
  rw [Action.mem_calls_bind, verify_mem_verifyDIDAuth]
  constructor
  · rintro (made | ⟨didAuthResult, -, later⟩)
    · exact made
    · unfold issueToHolder at later
      split at later
      · cases later
      · cases later
      · split at later
        · cases later
        · rcases Action.mem_calls_bind.mp later with made | ⟨signed, -, returns⟩
          · exact absurd made verify_not_mem_signClaim
          · split at returns <;> cases returns
  · exact .inl

private theorem verify_mem_participate {data : Json} {call : VerifyPresentationCall} :
    .verifyPresentation call ∈ (participateInClaimExchange runtime config answers data
        exchange workflow).calls ↔
      Schema.verifiablePresentation (preparePresentation runtime data).result = true ∧
        call = {
          presentation := (preparePresentation runtime data).result
          challenge := exchange.vars.challenge } := by
  have finishes : ∀ holderDid compatLog, .verifyPresentation call ∉
      (participateInClaimExchange.finish runtime config answers data exchange workflow
        holderDid compatLog).calls := by
    intro holderDid compatLog made
    unfold participateInClaimExchange.finish at made
    rcases Action.mem_calls_bind.mp made with made | ⟨signed, -, returns⟩
    · exact verify_not_mem_signClaim made
    · split at returns <;> cases returns
  unfold participateInClaimExchange
  rw [Action.mem_calls_bind, verify_mem_verifyDIDAuth]
  constructor
  · rintro (made | ⟨didAuthResult, -, later⟩)
    · exact made
    · split at later
      · cases later
      · split at later
        · split at later
          · cases later
          · exact absurd later (finishes _ _)
        · exact absurd later (finishes _ _)
  · exact .inl

theorem admittedKeyProof_some {accessToken : Option String} {body : Json}
    {proof : KeyProof}
    (admitted : admittedKeyProof runtime answers exchange accessToken body = some proof) :
    exchange.state ≠ .complete ∧ proof.checked = proof.data ∧
      proof.working =
        withOid4vci exchange { oid4vciState exchange with nonceUsed := some true } := by
  unfold admittedKeyProof at admitted
  simp only [Option.bind_eq_bind, Option.bind_eq_some_iff] at admitted
  rcases admitted with ⟨token, -, valid, -, rest⟩
  split at rest
  · cases rest
  · rename_i ongoing
    rcases Option.bind_eq_some_iff.mp rest with ⟨request, -, afterRequest⟩
    rcases Option.bind_eq_some_iff.mp afterRequest with ⟨configId, -, afterConfig⟩
    split at afterConfig
    · cases afterConfig
    · rcases Option.bind_eq_some_iff.mp afterConfig with ⟨presented, -, afterPresented⟩
      rcases Option.bind_eq_some_iff.mp afterPresented with ⟨challenge, -, afterChallenge⟩
      rcases Option.bind_eq_some_iff.mp afterChallenge with ⟨working, consumed, returned⟩
      cases returned
      refine ⟨ongoing, rfl, ?_⟩
      cases accepted : validateAndConsumeNonce (answers.clock 1) exchange challenge with
      | error failure =>
          rw [accepted] at consumed
          cases consumed
      | ok updated =>
          rw [accepted] at consumed
          cases consumed
          exact validateAndConsumeNonce_ok accepted

theorem admittedKeyProof_checked {accessToken : Option String} {body : Json}
    {proof : KeyProof}
    (admitted : admittedKeyProof runtime answers exchange accessToken body = some proof) :
    proof.checked = proof.data :=
  (admittedKeyProof_some admitted).2.1

/-! ## Agreement -/

variable {request : IssuanceRequest}

theorem sign_mem_issuanceCalls (isSign : IsSignEndpoint config endpoint) :
    .callService endpoint body ∈
        issuanceCalls runtime config answers exchange workflow request ↔
      ∃ proof, keyProofOf runtime answers exchange request = some proof ∧
        SignsFor runtime config answers workflow proof endpoint body := by
  cases request with
  | vcapi data => simp [issuanceCalls, keyProofOf, sign_mem_participate isSign]
  | oid4vci accessToken posted =>
      simp only [issuanceCalls, keyProofOf, handleCredentialRequest_calls]
      cases admitted : admittedKeyProof runtime answers exchange accessToken posted with
      | none => simp
      | some proof =>
          simp [sign_mem_verifyThenIssue (admittedKeyProof_checked admitted) isSign]

theorem verify_mem_issuanceCalls {call : VerifyPresentationCall} :
    .verifyPresentation call ∈
        issuanceCalls runtime config answers exchange workflow request ↔
      ∃ proof, keyProofOf runtime answers exchange request = some proof ∧
        Schema.verifiablePresentation (proof.verified runtime) = true ∧
        call = { presentation := proof.verified runtime, challenge := proof.challenge } := by
  cases request with
  | vcapi data =>
      simp [issuanceCalls, keyProofOf, verify_mem_participate, KeyProof.verified,
        vcapiKeyProof]
  | oid4vci accessToken posted =>
      simp only [issuanceCalls, keyProofOf, handleCredentialRequest_calls]
      cases admittedKeyProof runtime answers exchange accessToken posted with
      | none => simp
      | some proof => simp [verify_mem_verifyThenIssue]

/-- The credential is bound to the signer of the verified presentation, and so
is every holder that the presentation asserts. -/
structure Agrees (call : VerifyPresentationCall) (body : Json) (did : String) : Prop where
  signer : SignedBy call.presentation call.challenge did
  holder : ∀ holder, AssertsHolder call.presentation holder → holder = did
  subject : BoundTo body did

/-- Whenever the signing service is called, one presentation was verified and it
agrees with what is signed. -/
def HoldersAgree (config : Config) (calls : List Call) : Prop :=
  ∀ endpoint body, .callService endpoint body ∈ calls → IsSignEndpoint config endpoint →
    ∃ call did, (∀ other, .verifyPresentation other ∈ calls ↔ other = call) ∧
      Agrees call body did

def renderedTemplate (runtime : Runtime) (workflow : Workflow)
    (exchange : ExchangeDetailClaim) : Option Json := do
  let credentialTemplate ← workflow.credentialTemplates.bind List.head?
  let builtCredential ← runtime.renderTemplate credentialTemplate exchange.vars
  runtime.parseJson builtCredential

/-- None of the three kinds of disagreement that pass the checks. -/
structure Undisputed (runtime : Runtime) (workflow : Workflow) (request : IssuanceRequest)
    (proof : KeyProof) (did : String) : Prop where
  named : ¬ AssertsHolder (presentationOf proof.data) ""
  nested : ∀ accessToken body inner holder, request = .oid4vci accessToken body →
    proof.data.field "verifiablePresentation" = some inner → inner ≠ .null →
    AssertsHolder inner holder → holder = did
  subject : ∀ rendered subjects, renderedTemplate runtime workflow proof.working =
    some rendered → rendered.field "credentialSubject" ≠ some (.arr subjects)

/-- The status service adds to a credential and leaves its subject alone. -/
def StatusServiceKeepsSubject (config : Config) (answers : Answers) : Prop :=
  ∀ credential allocated,
    answers.callService (allocateEndpoint config) credential = some allocated →
    allocated.field "credentialSubject" = credential.field "credentialSubject"

theorem withIssuer_subject (issuerInstance : Option IssuerInstance) (credential : Json) :
    (withIssuer issuerInstance credential).field "credentialSubject" =
      credential.field "credentialSubject" := by
  unfold withIssuer
  split
  · split
    · rfl
    · cases credential with
      | obj members => exact Json.field_withField_of_ne (by decide) members _
      | _ => rfl
  · rfl

theorem allocated_subject (keeps : StatusServiceKeepsSubject config answers)
    {issuerInstance : Option IssuerInstance} {credential : Json}
    (allocated : Allocated config answers (withIssuer issuerInstance credential) body) :
    body.field "credentialSubject" = credential.field "credentialSubject" := by
  unfold Allocated at allocated
  split at allocated
  · rw [allocated, withIssuer_subject]
  · rw [keeps _ _ allocated, withIssuer_subject]

theorem verified_holder {proof : KeyProof} {holder : String} :
    AssertsHolder (proof.verified runtime) holder ↔
      AssertsHolder (presentationOf proof.data) holder :=
  assertsHolder_congr (preparePresentation_field runtime (by decide) proof.data)

/-- A credential that was built is the rendered template with the signer as its
subject, or the template as it is when its subject is an array. -/
theorem SigningReached.rendered {proof : KeyProof} {did : String} {credential : Json}
    (reached : SigningReached runtime config answers workflow proof did credential body) :
    ∃ rendered, renderedTemplate runtime workflow proof.working = some rendered ∧
      withSubjectId rendered did = some credential := by
  rcases reached.built with ⟨template, isTemplate, built⟩
  unfold buildCredential at built
  simp only [Option.bind_eq_bind, Option.bind_eq_some_iff] at built
  rcases built with ⟨text, isText, rendered, isRendered, bound⟩
  refine ⟨rendered, ?_, bound⟩
  simp only [renderedTemplate, isTemplate, Option.bind_eq_bind, Option.bind_some, isText,
    isRendered]

/-- A holder that passed the comparison, or was never compared because it is
nested, names the signer. -/
private theorem holder_agrees {proof : KeyProof} {did holder : String} {credential : Json}
    (admitted : keyProofOf runtime answers exchange request = some proof)
    (reached : SigningReached runtime config answers workflow proof did credential body)
    (undisputed : Undisputed runtime workflow request proof did)
    (asserts : AssertsHolder (presentationOf proof.data) holder) : holder = did := by
  have compared : AssertsHolder proof.checked holder → holder = did := by
    intro asserted
    rcases reached.agreed holder asserted with rfl | same
    · exact absurd asserts undisputed.named
    · exact same
  cases request with
  | vcapi data =>
      cases admitted
      exact compared asserts
  | oid4vci accessToken posted =>
      have checked : proof.checked = proof.data := admittedKeyProof_checked admitted
      rw [checked] at compared
      cases found : proof.data.field "verifiablePresentation" with
      | none =>
          rw [presentationOf, found] at asserts
          exact compared asserts
      | some inner =>
          by_cases null : inner = .null
          · rw [presentationOf, found, null] at asserts
            exact compared asserts
          · rw [presentationOf, found, Json.orElse_some null] at asserts
            exact undisputed.nested accessToken posted inner holder rfl found null asserts

private theorem undisputed_of_agreement (keeps : StatusServiceKeepsSubject config answers)
    {proof : KeyProof} {did : String} {credential : Json}
    (agreement : HoldersAgree config
      (issuanceCalls runtime config answers exchange workflow request))
    (admitted : keyProofOf runtime answers exchange request = some proof)
    (reached : SigningReached runtime config answers workflow proof did credential body) :
    Undisputed runtime workflow request proof did := by
  have isSign : IsSignEndpoint config (signEndpoint config proof.working
      (issuerInstanceFor runtime config proof.working
        (extractWalletCryptosuitesFromPresentation proof.data))) := ⟨_, rfl⟩
  have signs := (sign_mem_issuanceCalls isSign).mpr
    ⟨proof, admitted, did, credential, reached, rfl⟩
  rcases agreement _ body signs isSign with ⟨call, signer, only, agrees⟩
  have isCall := (only _).mp
    (verify_mem_issuanceCalls.mpr ⟨proof, admitted, reached.wellFormed, rfl⟩)
  rw [← isCall] at agrees
  have same := agrees.signer.eq_derived reached.signer
  rw [same] at agrees
  constructor
  · intro empty
    exact reached.nonempty (agrees.holder "" (verified_holder.mpr empty)).symm
  · intro accessToken posted inner holder isRequest found present asserts
    apply agrees.holder holder
    rw [verified_holder, presentationOf, found, Json.orElse_some present]
    exact asserts
  · intro rendered subjects isRendered array
    rcases reached.rendered with ⟨other, isOther, bound⟩
    cases isRendered.symm.trans isOther
    have kept : credential.field "credentialSubject" = some (.arr subjects) := by
      rw [withSubjectId, array] at bound
      cases bound
      exact array
    rw [← allocated_subject keeps reached.allocated] at kept
    exact not_boundTo_array kept agrees.subject

private theorem verify_mem_of_admitted {proof : KeyProof} {other : VerifyPresentationCall}
    (admitted : keyProofOf runtime answers exchange request = some proof)
    (wellFormed : Schema.verifiablePresentation (proof.verified runtime) = true) :
    .verifyPresentation other ∈
        issuanceCalls runtime config answers exchange workflow request ↔
      other = { presentation := proof.verified runtime, challenge := proof.challenge } := by
  rw [verify_mem_issuanceCalls]
  constructor
  · intro verifies
    rcases verifies with ⟨same, isProof, -, isCall⟩
    cases admitted.symm.trans isProof
    exact isCall
  · intro isCall
    exact ⟨proof, admitted, wellFormed, isCall⟩

private theorem agrees_of_undisputed (keeps : StatusServiceKeepsSubject config answers)
    {proof : KeyProof} {did : String} {credential : Json}
    (admitted : keyProofOf runtime answers exchange request = some proof)
    (reached : SigningReached runtime config answers workflow proof did credential body)
    (undisputed : Undisputed runtime workflow request proof did) :
    Agrees { presentation := proof.verified runtime, challenge := proof.challenge } body
      did where
  signer := signedBy_of_derived reached.signer
  holder holder asserts :=
    holder_agrees admitted reached undisputed (verified_holder.mp asserts)
  subject := by
    rcases reached.rendered with ⟨rendered, isRendered, built⟩
    rcases withSubjectId_some built with bound | ⟨subjects, array⟩
    · rcases bound with ⟨subject, found, named⟩
      exact ⟨subject, (allocated_subject keeps reached.allocated).trans found, named⟩
    · exact absurd array (undisputed.subject rendered subjects isRendered)

/-- Both paths keep holder, signer and subject together exactly when none of the
disagreements they overlook gets as far as signing. -/
theorem holderAgreement_iff (keeps : StatusServiceKeepsSubject config answers)
    (request : IssuanceRequest) :
    HoldersAgree config
        (issuanceCalls runtime config answers exchange workflow request) ↔
      ∀ proof did credential body, keyProofOf runtime answers exchange request = some proof →
        SigningReached runtime config answers workflow proof did credential body →
        Undisputed runtime workflow request proof did := by
  constructor
  · intro agreement proof did credential body admitted reached
    exact undisputed_of_agreement keeps agreement admitted reached
  · intro condition endpoint body signs isSign
    rcases (sign_mem_issuanceCalls isSign).mp signs with
      ⟨proof, admitted, did, credential, reached, -⟩
    have undisputed := condition proof did credential body admitted reached
    refine ⟨{ presentation := proof.verified runtime, challenge := proof.challenge }, did,
      ?_, agrees_of_undisputed keeps admitted reached undisputed⟩
    intro other
    exact verify_mem_of_admitted admitted reached.wellFormed

end

/-! ## A nested presentation of someone else -/

def issuingExchange : ExchangeDetailClaim where
  tenantName := "default"
  exchangeId := "exchange-1"
  expires := 600000
  state := .active
  vars := {
    exchangeHost := "http://localhost:4004"
    challenge := "challenge-1"
    vc := "the credential"
    oid4vci := some {
      accessToken := some "token-1"
      accessTokenExpiresAt := some 600000
      cNonce := some "nonce-1"
      cNonceExpiresAt := some 600000
      nonceUsed := some false } }

def issuingRuntime : Runtime :=
  { Runtime.plain with
    parseJson := fun _ => some (.obj [
      ("type", .arr [.str "VerifiableCredential"]), ("credentialSubject", .obj [])]) }

def issuingAnswers : Answers where
  clock _ := 0
  randomUUID _ := "attempt-1"
  randomBytes := "random"
  verifyPresentation _ :=
    .ok { verified := true, presentationResults := [], credentialResults := [] }
  verifyCredential _ _ := .error "not asked"
  callService endpoint credential :=
    some (credential.withField
      (if endpoint = "http://status/credentials/status/allocate" then "credentialStatus"
        else "proof") (.obj []))
  accepted _ := true

def issuingConfig : Config where
  statusService := "http://status"

theorem issuingAnswers_keepsSubject :
    StatusServiceKeepsSubject issuingConfig issuingAnswers := by
  intro credential allocated answered
  cases answered
  cases credential with
  | obj members => exact Json.field_withField_of_ne (by decide) members _
  | _ => rfl

/-- Signed by `did:example:signer`, for a holder of its choice. -/
def presentationFor (holder : String) : Json :=
  .obj [
    ("@context", .arr [.str "https://www.w3.org/2018/credentials/v1"]),
    ("type", .arr [.str "VerifiablePresentation"]),
    ("holder", .str holder),
    ("proof", .obj [
      ("type", .str "DataIntegrityProof"),
      ("created", .str "2026-01-01T00:00:00Z"),
      ("verificationMethod", .str "did:example:signer#key-1"),
      ("proofPurpose", .str "authentication"),
      ("challenge", .str "nonce-1"),
      ("proofValue", .str "z1")])]

private theorem signer_presentationFor (holder challenge : String) :
    deriveHolderFromProof (presentationFor holder) challenge = some "did:example:signer" :=
  rfl

/-- The key proof wraps a presentation of someone else. -/
def disputedRequest : Json :=
  .obj [
    ("credential_configuration_id", .str "VerifiableCredential"),
    ("proofs", .obj [("di_vp", .arr [.obj [
      ("challenge", .str "nonce-1"),
      ("verifiablePresentation", presentationFor "did:example:victim")]])])]

def issuanceOf (request : IssuanceRequest) : List Call :=
  issuanceCalls issuingRuntime issuingConfig issuingAnswers issuingExchange claimWorkflow
    request

theorem holderAgreement_presentationFor :
    HoldersAgree issuingConfig
      (issuanceOf (.vcapi (presentationFor "did:example:signer"))) := by
  apply (holderAgreement_iff issuingAnswers_keepsSubject _).mpr
  intro proof did credential body admitted reached
  cases admitted
  constructor
  · rintro ⟨owner, found, named⟩
    cases found
    rcases named with named | named
    · exact absurd (Json.str.inj named) (by decide)
    · cases named
  · intro accessToken posted inner holder isRequest
    cases isRequest
  · intro rendered subjects isRendered array
    cases isRendered
    cases array

theorem nested_holder_disputed :
    ¬ HoldersAgree issuingConfig
      (issuanceOf (.oid4vci (some "token-1") disputedRequest)) := by
  intro agreement
  have reached : ∃ proof body, keyProofOf issuingRuntime issuingAnswers issuingExchange
      (.oid4vci (some "token-1") disputedRequest) = some proof ∧
      proof.verified issuingRuntime = presentationFor "did:example:victim" ∧
      ∃ credential, SigningReached issuingRuntime issuingConfig issuingAnswers claimWorkflow
        proof "did:example:signer" credential body := by
    refine ⟨_, _, rfl, rfl, _, rfl, ⟨_, rfl, rfl⟩, rfl, by decide, ?_, ⟨_, rfl, rfl⟩,
      rfl⟩
    rintro holder ⟨owner, found, -⟩
    cases found
  rcases reached with ⟨proof, body, admitted, isVerified, credential, reached⟩
  have isSign : IsSignEndpoint issuingConfig (signEndpoint issuingConfig proof.working
      (issuerInstanceFor issuingRuntime issuingConfig proof.working
        (extractWalletCryptosuitesFromPresentation proof.data))) := ⟨_, rfl⟩
  have signs := (sign_mem_issuanceCalls isSign).mpr
    ⟨proof, admitted, _, credential, reached, rfl⟩
  rcases agreement _ body signs isSign with ⟨call, did, only, agrees⟩
  have isCall := (only _).mp
    (verify_mem_issuanceCalls.mpr ⟨proof, admitted, reached.wellFormed, rfl⟩)
  rw [← isCall, isVerified] at agrees
  have signer := agrees.signer.eq_derived (signer_presentationFor _ _)
  have holder := agrees.holder "did:example:victim" ⟨_, rfl, .inl rfl⟩
  rw [signer] at holder
  exact absurd holder (by decide)

end TransactionService.HolderAgreement
