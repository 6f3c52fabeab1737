import TransactionService.Oid4vci.Provenance
import TransactionService.Oid4vp.ReplayGuard
import TransactionService.Workflows.HolderAgreement

namespace TransactionService.SaveOrder

open TransactionService.Action Fallible HolderAgreement Provenance ReplayGuard

/-! # What follows a save

Most handlers build their response before they save, or without a way to fail.
The others can be answered with an error after the record has been written. -/

/-- The status that `handleErrors` answers with. -/
def statusOf : Except Thrown Response → Nat
  | .ok response => response.status
  | .error (.http exception) => exception.status
  | .error .zodError => 400
  | .error (.error _) => 500

def Succeeded (response : Response) : Prop :=
  response.status = 200

/-! ## Handlers that save last -/

section

variable {runtime : Runtime} {config : Config} {answers : Answers}

theorem saveThen_kept {α : Type} {accepts : α → Prop} {exchange : Exchange}
    {next : Unit → Handler α}
    (succeeds : ∃ value, (next ()).result = .ok value ∧ accepts value)
    (silent : (next ()).saved = none) :
    Kept accepts (saveExchange answers exchange >>= next) :=
  Kept.bind (saveExchange_kept.mono fun _ _ => succeeds) fun _ _ => Kept.of_silent silent

private theorem participateWithEmptyBody_kept {exchange : Exchange} :
    Kept (fun _ => True) (participateWithEmptyBody answers exchange) := by
  unfold participateWithEmptyBody
  dsimp only
  split
  · exact saveThen_kept ⟨_, rfl, trivial⟩ rfl
  · exact Kept.of_silent rfl

private theorem participateInDidAuthExchange_kept {data : Json} {exchange : ExchangeDetailDidAuth} :
    Kept (fun _ => True) (participateInDidAuthExchange runtime config answers data
      exchange) := by
  apply Kept.bind_silent (verifyDIDAuth_saved ..)
  intro didAuthResult _
  match didAuthResult with
  | .rejected _ _ => exact Kept.of_silent rfl
  | .verified none _ => exact Kept.of_silent rfl
  | .verified (some _) _ => exact saveThen_kept ⟨_, rfl, trivial⟩ rfl

/-! ### Signing -/

section

variable {holderDid : Option String} {exchange : ExchangeDetailClaim} {workflow : Workflow}
  {walletCryptosuites : List String} {compatLog : Option (List CheckResult)}

private theorem issueCredential_kept {credential : Json} :
    Kept (fun signed => ∃ sent,
        Allocated config answers (withIssuer (issuerInstanceFor runtime config exchange
          walletCryptosuites) credential) sent ∧
        answers.callService (signEndpoint config exchange (issuerInstanceFor runtime config
          exchange walletCryptosuites)) sent = some signed)
      (issueCredential runtime config answers exchange walletCryptosuites compatLog
        credential) := by
  apply Kept.bind_silent (allocateStatus_saved ..)
  intro sent allocated
  apply Kept.bind_silent (callService_saved ..)
  intro signed answered
  have answer : answers.callService (signEndpoint config exchange (issuerInstanceFor runtime
      config exchange walletCryptosuites)) sent = some signed := by
    simp only [callService, Action.perform] at answered
    split at answered
    · rename_i data found
      cases answered
      exact found
    · cases answered
  exact saveThen_kept ⟨signed, rfl, sent, allocateStatus_ok.mp allocated, answer⟩ rfl

theorem signClaimCredential_kept :
    Kept (fun signed => ∃ did template credential sent signedCredential,
        Text.given holderDid = some did ∧
        workflow.credentialTemplates.bind List.head? = some template ∧
        buildCredential runtime template exchange did = some credential ∧
        Allocated config answers (withIssuer (issuerInstanceFor runtime config exchange
          walletCryptosuites) credential) sent ∧
        answers.callService (signEndpoint config exchange (issuerInstanceFor runtime config
          exchange walletCryptosuites)) sent = some signedCredential ∧
        signed = some signedCredential)
      (signClaimCredentialFromHolderDid runtime config answers holderDid exchange workflow
        walletCryptosuites compatLog) := by
  unfold signClaimCredentialFromHolderDid
  split
  · exact Kept.of_silent rfl
  · rename_i did isGiven
    split
    · exact Kept.of_silent rfl
    · rename_i template hasTemplate
      split
      · exact Kept.of_silent rfl
      · rename_i credential built
        apply Kept.map
        apply issueCredential_kept.mono
        intro signed reached
        rcases reached with ⟨sent, allocated, answered⟩
        exact ⟨did, template, credential, sent, signed, isGiven, hasTemplate, built,
          allocated, answered, rfl⟩

theorem signClaimCredential_signed {did template : String}
    {credential sent signedCredential : Json} (compatLog : Option (List CheckResult))
    (accepts : answers.accepted 0 = true)
    (nonempty : did ≠ "")
    (hasTemplate : workflow.credentialTemplates.bind List.head? = some template)
    (built : buildCredential runtime template exchange did = some credential)
    (allocated : Allocated config answers (withIssuer (issuerInstanceFor runtime config
      exchange walletCryptosuites) credential) sent)
    (answered : answers.callService (signEndpoint config exchange (issuerInstanceFor runtime
      config exchange walletCryptosuites)) sent = some signedCredential) :
    (signClaimCredentialFromHolderDid runtime config answers (some did) exchange workflow
      walletCryptosuites compatLog).result = .ok (some signedCredential) := by
  have signs : (callService answers (signEndpoint config exchange (issuerInstanceFor runtime
      config exchange walletCryptosuites)) sent).result = .ok signedCredential := by
    simp only [callService, Action.perform, answered]
  have issues : (issueCredential runtime config answers exchange walletCryptosuites compatLog
      credential).result = .ok signedCredential := by
    unfold issueCredential
    dsimp only
    rw [Action.bind_ok (allocateStatus_ok.mpr allocated), Action.bind_ok signs,
      saveExchange_eq accepts]
    rfl
  unfold signClaimCredentialFromHolderDid
  simp only [Text.given_some nonempty, hasTemplate, built]
  exact congrArg Action.result (Action.bind_ok issues _)

end

private theorem participateInClaimExchange_kept {data : Json} {exchange : ExchangeDetailClaim}
    {workflow : Workflow} :
    Kept (fun _ => True) (participateInClaimExchange runtime config answers data exchange
      workflow) := by
  have finishes : ∀ holderDid compatLog,
      Kept (fun _ => True) (participateInClaimExchange.finish runtime config answers data
        exchange workflow holderDid compatLog) := by
    intro holderDid compatLog
    apply Kept.bind
    · apply signClaimCredential_kept.mono
      intro signed _
      split <;> exact ⟨_, rfl, trivial⟩
    · intro signed _
      apply Kept.of_silent
      split <;> rfl
  apply Kept.bind_silent (verifyDIDAuth_saved ..)
  intro didAuthResult _
  split
  · exact Kept.of_silent rfl
  · split
    · split
      · exact Kept.of_silent rfl
      · exact finishes _ _
    · exact finishes _ _

theorem participateInVerifyExchange_kept {data : Json} {exchange : ExchangeDetailVerify} :
    Kept (fun _ => True) (participateInVerifyExchange runtime config answers data
      exchange) := by
  apply Kept.bind_silent rfl
  intro prepared _
  apply Kept.bind_silent rfl
  intro result _
  dsimp only
  split
  · apply Kept.bind_silent rfl
    intro finalized _
    exact saveThen_kept ⟨_, rfl, trivial⟩ rfl
  · apply Kept.bind_silent rfl
    intro intermediate _
    exact saveThen_kept ⟨_, rfl, trivial⟩ rfl

theorem participateInExchange_kept {data : Json} {exchange : Exchange} :
    Kept (fun _ => True) (participateInExchange runtime config answers data exchange) := by
  unfold participateInExchange
  split
  · exact Kept.of_silent rfl
  · split
    · exact participateWithEmptyBody_kept
    · cases exchange with
      | didAuth detail => exact participateInDidAuthExchange_kept
      | claim detail => exact participateInClaimExchange_kept
      | verify detail => exact participateInVerifyExchange_kept

theorem tokenRoute_kept {body : Json} {detail : ExchangeDetailClaim} :
    Kept Succeeded (tokenRoute answers body detail) := by
  unfold tokenRoute
  split
  · exact Kept.of_silent rfl
  · exact saveThen_kept ⟨_, rfl, rfl⟩ rfl

theorem nonceRoute_kept {detail : ExchangeDetailClaim} :
    Kept Succeeded (nonceRoute answers detail) :=
  saveThen_kept ⟨_, rfl, rfl⟩ rfl

theorem oid4vpResponseRoute_kept {body : Option Json} {detail : ExchangeDetailVerify} :
    Kept Succeeded (oid4vpResponseRoute runtime config answers body detail) := by
  unfold oid4vpResponseRoute
  split
  · exact Kept.of_silent rfl
  · unfold handleOid4vpResponse
    split
    · exact Kept.of_silent rfl
    · apply Kept.recover
      exact Kept.bind (participateInVerifyExchange_kept.mono fun _ _ => ⟨_, rfl, rfl⟩)
        fun _ _ => Kept.of_silent rfl

/-! ## Handlers that save first

These build their response after the save. -/

def IsAnswered (thrown : Thrown) : Prop :=
  thrown = .zodError ∨ IsUnexpected thrown

private theorem status_of_error {thrown : Thrown} (isAnswered : IsAnswered thrown) :
    400 ≤ statusOf (.error thrown) := by
  rcases isAnswered with rfl | ⟨message, rfl⟩
  · exact Nat.le_refl 400
  · exact (by decide : 400 ≤ 500)

theorem status_of_unsuccessful {α : Type} {built : Except Thrown α} {answer : α → Response}
    (fails : FailsOnly IsAnswered built) (unsuccessful : ¬ Succeeds built) :
    400 ≤ statusOf (answer <$> built) := by
  rcases fails.eq_error unsuccessful with ⟨thrown, rfl, isAnswered⟩
  exact status_of_error isAnswered

theorem kept_of_succeeds {α : Type} {record : Exchange} {built : Except Thrown α}
    {answer : α → Response} (succeeds : Succeeds built)
    (succeeded : ∀ value, Succeeded (answer value)) :
    Kept Succeeded ({ saved := some record, result := answer <$> built } :
      Handler Response) := by
  intro _ _
  rcases succeeds with ⟨value, rfl⟩
  exact ⟨answer value, rfl, succeeded value⟩

section

variable {detail : ExchangeDetailClaim}

theorem buildCredentialOffer_failsOnly : FailsOnly IsAnswered
    (buildCredentialOffer runtime detail) := by
  have derives : FailsOnly IsAnswered
      (deriveCredentialConfigurationId runtime detail.vars.vc) := by
    unfold deriveCredentialConfigurationId
    dsimp only
    split
    · exact .ok _
    · exact .error (.inr ⟨_, rfl⟩)
    · split <;> exact .ok _
  unfold buildCredentialOffer
  split
  · exact .error (.inr ⟨_, rfl⟩)
  · exact derives.bind fun _ => .ok _

theorem buildCredentialOffer_succeeds (text : answers.randomBytes ≠ "") :
    Succeeds (buildCredentialOffer runtime (withDrawnCode answers detail)) ↔
      runtime.parseJson detail.vars.vc ≠ some .null := by
  have isGiven : Text.given (oid4vciState (withDrawnCode answers detail)).preAuthorizedCode =
      some answers.randomBytes := Text.given_some text
  unfold buildCredentialOffer
  rw [isGiven]
  exact (succeeds_map _).trans deriveCredentialConfigurationId_succeeds

theorem credentialOfferRoute_accepted (accepts : answers.accepted 0 = true)
    (none : currentCode (answers.clock 1) detail = none) :
    credentialOfferRoute runtime answers detail = {
      saved := some (.claim (withDrawnCode answers detail))
      result := json <$> buildCredentialOffer runtime (withDrawnCode answers detail) } := by
  rw [credentialOfferRoute_drawn none, saveExchange_eq accepts]
  exact Action.save_then _ _ json

end

section

variable {detail : ExchangeDetailVerify}

theorem buildAuthorizationRequest_failsOnly : FailsOnly IsAnswered
    (buildAuthorizationRequest runtime detail) := by
  have query : FailsOnly IsAnswered (buildDcqlQuery detail.vars.vprClaims) := by
    unfold buildDcqlQuery
    split
    · exact .error (.inl rfl)
    · exact .ok _
  apply query.bind
  intro dcqlQuery
  split
  · exact .error (.inl rfl)
  · split
    · exact .error (.inl rfl)
    · exact .ok _

theorem oid4vpRequestRoute_accepted (accepts : answers.accepted 0 = true)
    (none : Text.given (oid4vpState detail).state = none) :
    oid4vpRequestRoute runtime answers detail = {
      saved := some (.verify (withMintedState answers detail))
      result := json <$>
        buildAuthorizationRequest runtime (withMintedState answers detail) } := by
  rw [oid4vpRequestRoute_minted none, saveExchange_eq accepts]
  exact Action.save_then _ _ json

end

section

variable {detail : ExchangeDetailClaim} {workflow : Workflow} {proof : KeyProof}

theorem verifyThenIssue_kept (same : proof.checked = proof.data)
    (truthy : ∀ service sent signed,
      SignsFor runtime config answers workflow proof service sent →
      answers.callService service sent = some signed → signed.isTruthy = true) :
    Kept Succeeded (verifyThenIssue runtime config answers detail workflow proof) := by
  apply Kept.bind_silent (verifyDIDAuth_saved ..)
  intro didAuthResult verified
  match didAuthResult with
  | .rejected _ _ => exact Kept.of_silent rfl
  | .verified none _ => exact Kept.of_silent rfl
  | .verified (some holderDid) compatLog =>
      rcases (verifyDIDAuth_verified_iff runtime answers).mp ⟨compatLog, verified⟩ with
        ⟨wellFormed, accepted, signer⟩
      unfold issueToHolder
      dsimp only
      split
      · exact Kept.of_silent rfl
      · rename_i agree
        apply Kept.bind
        · apply signClaimCredential_kept.mono
          intro signed reached
          rcases reached with ⟨did, template, credential, sent, signedCredential, isGiven,
            hasTemplate, built, allocated, answered, rfl⟩
          rcases Option.filter_eq_some_iff.mp isGiven with ⟨sameDid, nonempty⟩
          cases sameDid
          have isSigner := (Option.filter_eq_some_iff.mp signer.symm).1
          have agreed : ∀ holder, Text.given (extractHolderDid proof.checked) = some holder →
              holder = holderDid := by
            intro holder asserted
            rw [same] at asserted
            rw [asserted] at agree
            simpa using agree
          have isTruthy := truthy _ _ _ ⟨holderDid, credential, {
            wellFormed
            accepted
            signer := isSigner
            nonempty := by simpa using nonempty
            agreed := agreed_iff.mpr agreed
            built := ⟨template, hasTemplate, built⟩
            allocated }, rfl⟩ answered
          simp only [Json.truthy, isTruthy]
          exact ⟨_, rfl, rfl⟩
        · intro signed _
          apply Kept.of_silent
          split <;> rfl

theorem verifyThenIssue_denied (detail : ExchangeDetailClaim) {did : String}
    {credential sent signedCredential : Json}
    (accepts : answers.accepted 0 = true) (same : proof.checked = proof.data)
    (reached : SigningReached runtime config answers workflow proof did credential sent)
    (answered : answers.callService (signEndpoint config proof.working (issuerInstanceFor
      runtime config proof.working (extractWalletCryptosuitesFromPresentation proof.data)))
      sent = some signedCredential)
    (falsy : signedCredential.isTruthy = false) :
    ∃ compatLog,
      (verifyThenIssue runtime config answers detail workflow proof).saved =
        some (.claim (claimCompleted proof.working signedCredential compatLog)) ∧
      statusOf (verifyThenIssue runtime config answers detail workflow proof).result =
        400 := by
  rcases reached.verifies (detail.vars.debug.getD config.defaultExchangeDebug) with
    ⟨compatLog, verified⟩
  rcases reached.built with ⟨template, hasTemplate, built⟩
  have signs := signClaimCredential_signed compatLog accepts reached.nonempty
    hasTemplate built reached.allocated answered
  have agree : ¬ (Text.given (extractHolderDid proof.data)).any (· ≠ did) = true := by
    intro differs
    cases asserted : Text.given (extractHolderDid proof.data) with
    | none =>
        rw [asserted] at differs
        cases differs
    | some holder =>
        have isSigner : holder = did := reached.compared (by rw [same]; exact asserted)
        rw [asserted] at differs
        simp [isSigner] at differs
  have saves := signClaimCredentialFromHolderDid_ok runtime config answers signs
  refine ⟨compatLog, ?_, ?_⟩
  · unfold verifyThenIssue
    rw [Action.bind_ok verified]
    unfold issueToHolder
    dsimp only
    rw [if_neg agree, Action.bind_ok signs, saves]
    simp [Json.truthy, falsy]
  · unfold verifyThenIssue
    rw [Action.bind_ok verified]
    unfold issueToHolder
    dsimp only
    rw [if_neg agree, Action.bind_ok signs]
    simp [Json.truthy, falsy, statusOf, errorResponse, json]

end

/-! ## Routes of one workflow -/

theorem onClaim_kept {exchange : Exchange} {message : String}
    {route : ExchangeDetailClaim → Handler Response}
    (kept : ∀ detail, exchange = .claim detail → Kept Succeeded (route detail)) :
    Kept Succeeded (onClaim message route exchange) := by
  cases exchange with
  | claim detail => exact kept detail rfl
  | _ => exact Kept.of_silent rfl

theorem onVerify_kept {exchange : Exchange} {message : String}
    {route : ExchangeDetailVerify → Handler Response}
    (kept : ∀ detail, exchange = .verify detail → Kept Succeeded (route detail)) :
    Kept Succeeded (onVerify message route exchange) := by
  cases exchange with
  | verify detail => exact kept detail rfl
  | _ => exact Kept.of_silent rfl

end

end TransactionService.SaveOrder
