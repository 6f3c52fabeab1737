import TransactionService.Routes.SingleUse
import TransactionService.Workflows.HolderAgreement

namespace TransactionService.Completion

open HolderAgreement SingleUse

/-! # What completes an exchange

What a request that completes a didAuth or a claim exchange has been told by the
verifier and by the signing service. -/

/-- The verifier has accepted the presentation for the challenge, and the DID is that
of its signer. -/
structure Proven (runtime : Runtime) (answers : Answers) (data : Json)
    (challenge did : String) : Prop where
  accepted : ∃ result, answers.verifyPresentation {
      presentation := (preparePresentation runtime data).result
      challenge } = .ok result ∧ result.verified = true
  signed : SignedBy (preparePresentation runtime data).result challenge did

/-- The credential is what the signing service has answered to one of the calls. -/
def SignedIn (config : Config) (answers : Answers) (calls : List Call)
    (signedCredential : Json) : Prop :=
  ∃ endpoint body, IsSignEndpoint config endpoint ∧ .callService endpoint body ∈ calls ∧
    answers.callService endpoint body = some signedCredential

def IssuedOn (runtime : Runtime) (config : Config) (answers : Answers) (proof : KeyProof)
    (did : String) (signedCredential : Json) : Prop :=
  ∃ credential body,
    SigningReached runtime config answers (getWorkflow .claim) proof did credential body ∧
    answers.callService (signEndpoint config proof.working (issuerInstanceFor runtime config
      proof.working (extractWalletCryptosuitesFromPresentation proof.data))) body =
        some signedCredential

def issuanceOf : Endpoint → Option IssuanceRequest
  | .participate data => some (.vcapi data)
  | .credential authorization (some body) =>
      let auth := authorization.getD ""
      some (.oid4vci
        (if Text.startsWith "Bearer " auth then some (Text.trim (Text.sliceFrom 7 auth))
          else none) body)
  | _ => none

section

variable {runtime : Runtime} {config : Config} {answers : Answers}

/-! ## Authentication -/

private theorem proven_of_verified {data : Json} {challenge did : String} {debug : Bool}
    {compatLog : Option (List CheckResult)}
    (verified : (verifyDIDAuth runtime answers data challenge debug).result =
      .ok (.verified (some did) compatLog)) :
    Proven runtime answers data challenge did := by
  rcases (verifyDIDAuth_verified_iff runtime answers).mp ⟨compatLog, verified⟩ with
    ⟨-, accepted, isGiven⟩
  have derived := (Option.filter_eq_some_iff.mp isGiven.symm).1
  exact ⟨accepted, signedBy_of_derived derived⟩

private theorem participateInDidAuthExchange_proven {data : Json} {exchange : ExchangeDetailDidAuth}
    {record : Exchange}
    (writes : (participateInDidAuthExchange runtime config answers data exchange).saved =
      some record) :
    ∃ holder compatLog, record = .didAuth (didAuthCompleted exchange holder compatLog) ∧
      Proven runtime answers data exchange.vars.challenge holder := by
  simp only [participateInDidAuthExchange] at writes
  rcases Action.saved_bind_of_none (verifyDIDAuth_saved ..) writes with
    ⟨didAuthResult, verified, later⟩
  split at later
  · cases later
  · cases later
  · rename_i holder compatLog
    rcases Action.saved_bind later with written | ⟨_, _, nothing⟩
    · exact ⟨holder, compatLog, saveExchange_saved written, proven_of_verified verified⟩
    · cases nothing

/-! ## Issuance -/

theorem SignedIn.mono {calls more : List Call} {signedCredential : Json}
    (signedIn : SignedIn config answers calls signedCredential)
    (included : ∀ call ∈ calls, call ∈ more) :
    SignedIn config answers more signedCredential := by
  rcases signedIn with ⟨endpoint, body, isSign, made, answered⟩
  exact ⟨endpoint, body, isSign, included _ made, answered⟩

private theorem callService_ok {endpoint : String} {body data : Json}
    (answered : (callService answers endpoint body).result = .ok data) :
    answers.callService endpoint body = some data := by
  simp only [callService, Action.perform] at answered
  split at answered
  · rename_i answer
    rw [answer, Except.ok.inj answered]
  · cases answered

variable {exchange : ExchangeDetailClaim} {workflow : Workflow} {record : Exchange}

private theorem issueCredential_signed {walletCryptosuites : List String}
    {compatLog : Option (List CheckResult)} {credential : Json}
    (writes : (issueCredential runtime config answers exchange walletCryptosuites compatLog
      credential).saved = some record) :
    ∃ signedCredential,
      record = .claim (claimCompleted exchange signedCredential compatLog) ∧
      SignedIn config answers (issueCredential runtime config answers exchange
        walletCryptosuites compatLog credential).calls signedCredential := by
  unfold issueCredential at writes ⊢
  rcases Action.saved_bind_of_none (allocateStatus_saved ..) writes with
    ⟨allocated, allocates, later⟩
  rcases Action.saved_bind_of_none (callService_saved ..) later with
    ⟨signedCredential, signs, last⟩
  rcases Action.saved_bind last with written | ⟨_, _, nothing⟩
  · refine ⟨signedCredential, saveExchange_saved written, _, allocated, ⟨_, rfl⟩, ?_,
      callService_ok signs⟩
    apply Action.mem_calls_bind.mpr
    exact .inr ⟨allocated, allocates, Action.mem_calls_bind.mpr (.inl List.mem_cons_self)⟩
  · cases nothing

theorem signClaimCredential_signed {holderDid : Option String}
    {walletCryptosuites : List String} {compatLog : Option (List CheckResult)} :
    (signClaimCredentialFromHolderDid runtime config answers holderDid exchange workflow
      walletCryptosuites compatLog).saved = some record →
    ∃ signedCredential,
      record = .claim (claimCompleted exchange signedCredential compatLog) ∧
      SignedIn config answers (signClaimCredentialFromHolderDid runtime config answers
        holderDid exchange workflow walletCryptosuites compatLog).calls
        signedCredential := by
  unfold signClaimCredentialFromHolderDid
  split
  · exact fun writes => (nomatch writes)
  · split
    · exact fun writes => (nomatch writes)
    · split
      · exact fun writes => (nomatch writes)
      · rw [Action.saved_map, Action.calls_map]
        exact issueCredential_signed

theorem afterVerdict_signed {α : Type} {verify : Handler DidAuthVerificationResult}
    {after : DidAuthVerificationResult → Handler α} {working : ExchangeDetailClaim}
    (silent : verify.saved = none)
    (signs : ∀ verdict, (after verdict).saved = some record →
      ∃ signedCredential log,
        record = .claim (claimCompleted working signedCredential log) ∧
        SignedIn config answers (after verdict).calls signedCredential)
    (writes : (verify >>= after).saved = some record) :
    ∃ signedCredential log,
      record = .claim (claimCompleted working signedCredential log) ∧
      SignedIn config answers (verify >>= after).calls signedCredential := by
  rcases Action.saved_bind_of_none silent writes with ⟨verdict, answered, later⟩
  rcases signs verdict later with ⟨signedCredential, compatLog, same, signedIn⟩
  refine ⟨signedCredential, compatLog, same, signedIn.mono ?_⟩
  intro call made
  exact Action.mem_calls_bind.mpr (.inr ⟨verdict, answered, made⟩)

theorem afterSigning_signed {α : Type} {holderDid : Option String}
    {walletCryptosuites : List String} {compatLog : Option (List CheckResult)}
    {after : Option Json → Handler α} (silent : ∀ signed, (after signed).saved = none)
    (writes : (signClaimCredentialFromHolderDid runtime config answers holderDid exchange
      workflow walletCryptosuites compatLog >>= after).saved = some record) :
    ∃ signedCredential log,
      record = .claim (claimCompleted exchange signedCredential log) ∧
      SignedIn config answers (signClaimCredentialFromHolderDid runtime config answers
        holderDid exchange workflow walletCryptosuites compatLog >>= after).calls
        signedCredential := by
  rcases Action.saved_bind writes with signs | ⟨signed, -, nothing⟩
  · rcases signClaimCredential_signed signs with ⟨signedCredential, same, signedIn⟩
    refine ⟨signedCredential, compatLog, same, signedIn.mono ?_⟩
    exact fun call made => Action.mem_calls_bind.mpr (.inl made)
  · rw [silent] at nothing
    cases nothing

private theorem participateInClaimExchange_signed {data : Json}
    (writes : (participateInClaimExchange runtime config answers data exchange
      workflow).saved = some record) :
    ∃ signedCredential log,
      record = .claim (claimCompleted exchange signedCredential log) ∧
      SignedIn config answers (participateInClaimExchange runtime config answers data
        exchange workflow).calls signedCredential := by
  have finishes : ∀ holderDid compatLog,
      (participateInClaimExchange.finish runtime config answers data exchange workflow
        holderDid compatLog).saved = some record →
      ∃ signedCredential log,
        record = .claim (claimCompleted exchange signedCredential log) ∧
        SignedIn config answers (participateInClaimExchange.finish runtime config answers
          data exchange workflow holderDid compatLog).calls signedCredential := by
    intro holderDid compatLog finished
    apply afterSigning_signed ?_ finished
    intro signed
    split <;> rfl
  unfold participateInClaimExchange at writes ⊢
  apply afterVerdict_signed (verifyDIDAuth_saved ..) ?_ writes
  intro verdict later
  split at later
  · cases later
  · rename_i holderDid compatLog
    split at later
    · split at later
      · cases later
      · rename_i agree
        rw [if_neg agree]
        exact finishes _ _ later
    · exact finishes _ _ later

private theorem verifyThenIssue_signed {proof : KeyProof}
    (writes : (verifyThenIssue runtime config answers exchange workflow proof).saved =
      some record) :
    ∃ signedCredential log,
      record = .claim (claimCompleted proof.working signedCredential log) ∧
      SignedIn config answers (verifyThenIssue runtime config answers exchange workflow
        proof).calls signedCredential := by
  unfold verifyThenIssue at writes ⊢
  apply afterVerdict_signed (verifyDIDAuth_saved ..) ?_ writes
  intro verdict later
  cases verdict with
  | rejected problemDetails compatLog => cases later
  | verified holderDid compatLog =>
      cases holderDid with
      | none => cases later
      | some holderDid =>
          simp only [issueToHolder] at later ⊢
          split at later
          · cases later
          · rename_i noObjection
            rw [if_neg noObjection]
            exact afterSigning_signed (fun signed => by split <;> rfl) later

theorem issuance_signed {issuance : IssuanceRequest} {proof : KeyProof}
    {signedCredential : Json}
    (offered : keyProofOf runtime answers exchange issuance = some proof)
    (signedIn : SignedIn config answers
      (issuanceCalls runtime config answers exchange (getWorkflow .claim) issuance)
      signedCredential) :
    ∃ did, IssuedOn runtime config answers proof did signedCredential := by
  rcases signedIn with ⟨endpoint, body, isSign, made, answered⟩
  rcases (sign_mem_issuanceCalls isSign).mp made with
    ⟨other, isProof, did, credential, reached, rfl⟩
  cases offered.symm.trans isProof
  exact ⟨did, credential, body, reached, answered⟩

private theorem participateInClaimExchange_issued {data : Json}
    (writes : (participateInClaimExchange runtime config answers data exchange
      (getWorkflow .claim)).saved = some record) :
    ∃ did signedCredential log,
      record = .claim (claimCompleted exchange signedCredential log) ∧
      IssuedOn runtime config answers (vcapiKeyProof exchange data) did
        signedCredential := by
  rcases participateInClaimExchange_signed writes with
    ⟨signedCredential, log, same, signedIn⟩
  rcases @issuance_signed runtime config answers exchange (.vcapi data) _ _ rfl signedIn with
    ⟨did, issued⟩
  exact ⟨did, signedCredential, log, same, issued⟩

private theorem handleCredentialRequest_issued {accessToken : Option String} {body : Json}
    (writes : (handleCredentialRequest runtime config answers accessToken body exchange
      (getWorkflow .claim)).saved = some record) :
    ∃ proof did signedCredential log,
      admittedKeyProof runtime answers exchange accessToken body = some proof ∧
      record = .claim (claimCompleted proof.working signedCredential log) ∧
      IssuedOn runtime config answers proof did signedCredential := by
  have spec := @handleCredentialRequest_spec runtime config answers exchange
    (getWorkflow .claim) accessToken body
  cases admitted : admittedKeyProof runtime answers exchange accessToken body with
  | none =>
      rw [admitted] at spec
      cases spec.2.symm.trans writes
  | some proof =>
      rw [admitted] at spec
      dsimp only at spec
      have issues := writes
      rw [spec] at issues
      rcases verifyThenIssue_signed issues with ⟨signedCredential, log, same, signedIn⟩
      rw [← spec] at signedIn
      rcases @issuance_signed runtime config answers exchange (.oid4vci accessToken body)
        _ _ admitted signedIn with ⟨did, issued⟩
      exact ⟨proof, did, signedCredential, log, rfl, same, issued⟩

/-! ## Requests -/

/-- What lies behind a request that completes an exchange at once. -/
inductive Completes (runtime : Runtime) (config : Config) (request : StoreRequest) :
    Exchange → Exchange → Prop
  | authenticated {data : Json} {detail : ExchangeDetailDidAuth} {holder : String}
      {compatLog : Option (List CheckResult)}
      (submits : request.endpoint = .participate data)
      (proven : Proven runtime request.answers data detail.vars.challenge holder) :
      Completes runtime config request (.didAuth detail)
        (.didAuth (didAuthCompleted detail holder compatLog))
  | issued {issuance : IssuanceRequest} {detail : ExchangeDetailClaim} {proof : KeyProof}
      {did : String} {signedCredential : Json} {compatLog : Option (List CheckResult)}
      (submits : issuanceOf request.endpoint = some issuance)
      (offered : keyProofOf runtime request.answers detail issuance = some proof)
      (issued : IssuedOn runtime config request.answers proof did signedCredential) :
      Completes runtime config request (.claim detail)
        (.claim (claimCompleted proof.working signedCredential compatLog))

theorem participated {workflowId : String} {data : Json} {loaded : Exchange}
    (saved : written runtime config ⟨workflowId, .participate data, answers⟩ loaded =
      some record) (complete : record.state = .complete) :
    (participateInExchange runtime config answers data loaded).saved = some record ∧
      loaded.state ≠ .complete ∧ isEmptyBody data = false := by
  rcases Action.saved_bind_of_none rfl saved with ⟨_, -, afterWorkflow⟩
  have participates := (loaded_writes afterWorkflow).1
  rw [Action.saved_map] at participates
  refine ⟨participates, ?_⟩
  unfold participateInExchange at participates
  split at participates
  · cases participates
  · rename_i ongoing
    refine ⟨ongoing, ?_⟩
    cases empty : isEmptyBody data with
    | false => rfl
    | true =>
        rw [if_pos empty] at participates
        rcases participateWithEmptyBody_saved participates with ⟨-, rfl⟩
        cases loaded <;> cases complete

theorem didAuth_completes {request : StoreRequest} {detail : ExchangeDetailDidAuth}
    (saved : written runtime config request (.didAuth detail) = some record)
    (complete : record.state = .complete) :
    Completes runtime config request (.didAuth detail) record := by
  rcases request with ⟨workflowId, endpoint, answers⟩
  cases written_change saved with
  | activated pending => cases complete
  | authenticated holder compatLog ongoing =>
      rcases participated saved complete with ⟨participates, ongoing, nonempty⟩
      simp only [participateInExchange, if_neg ongoing, nonempty, Bool.false_eq_true,
        if_false] at participates
      rcases participateInDidAuthExchange_proven participates with
        ⟨signer, log, same, proven⟩
      rw [same]
      exact .authenticated rfl proven
  | swept planned => cases planned

theorem claim_completes {request : StoreRequest} {detail : ExchangeDetailClaim}
    (saved : written runtime config request (.claim detail) = some record)
    (ongoing : detail.state ≠ .complete) (complete : record.state = .complete) :
    Completes runtime config request (.claim detail) record := by
  rcases request with ⟨workflowId, endpoint, answers⟩
  cases written_change saved with
  | activated pending => cases complete
  | claimed signed compatLog ongoing =>
      rename_i data
      rcases participated saved complete with ⟨participates, ongoing, nonempty⟩
      simp only [participateInExchange, if_neg ongoing, nonempty, Bool.false_eq_true,
        if_false] at participates
      rcases participateInClaimExchange_issued participates with
        ⟨did, signedCredential, log, same, issued⟩
      rw [same]
      exact @Completes.issued runtime config ⟨workflowId, .participate data, answers⟩
        (.vcapi data) detail (vcapiKeyProof detail data) _ _ _ rfl rfl issued
  | swept planned => cases planned
  | offered =>
      rcases ensurePreAuthorizedCode_cases answers detail (codeTtlSec answers detail) with
        same | ⟨fresh, same⟩
      · rw [same] at complete
        exact absurd complete ongoing
      · rw [same] at complete
        exact absurd complete ongoing
  | redeemed handled =>
      rcases handleTokenRequest_ok answers handled with ⟨_, _, -, accepted, rfl⟩
      rw [(redeemPreAuthorizedCode_ok accepted).2.2] at complete
      exact absurd complete ongoing
  | minted => exact absurd complete ongoing
  | issued signed compatLog ongoing =>
      rename_i authorization body
      have issues := (loaded_writes saved).1
      cases body with
      | none => cases issues
      | some body =>
          rcases handleCredentialRequest_issued issues with
            ⟨proof, did, signedCredential, log, admitted, same, issued⟩
          rw [same]
          exact .issued rfl admitted issued

end

end TransactionService.Completion
