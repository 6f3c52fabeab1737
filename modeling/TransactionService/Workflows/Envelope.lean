import TransactionService.Routes

namespace TransactionService.Envelope

/-! # Bare and enveloped presentations

A wallet may post a presentation as it is or inside a `verifiablePresentation`
envelope. Both are served alike; only the log of compatibility fixes can tell. -/

/-! ## Exchanges up to the log -/

def withoutCompatLog : Exchange → Exchange
  | .didAuth detail => .didAuth { detail with vars := { detail.vars with
      results := detail.vars.results.map fun results => { results with compatLog := none } } }
  | .claim detail => .claim { detail with vars := { detail.vars with
      results := detail.vars.results.map fun results => { results with compatLog := none } } }
  | .verify detail => .verify { detail with vars := { detail.vars with
      results := detail.vars.results.map fun results => { results with compatLog := none } } }

/-- The exchanges differ in `compatLog` at most. -/
def SameButLog (left right : Exchange) : Prop :=
  withoutCompatLog left = withoutCompatLog right

/-- The same calls and results, and exchanges that differ in `compatLog` at most. -/
abbrev SameRequest {α : Type} (left right : Handler α) : Prop :=
  Action.Related SameButLog Eq left right

inductive SameVerdict : DidAuthVerificationResult → DidAuthVerificationResult → Prop
  | verified (holder : Option String) (left right : Option (List CheckResult)) :
      SameVerdict (.verified holder left) (.verified holder right)
  | rejected (problemDetails : List ProblemDetail) (left right : Option (List CheckResult)) :
      SameVerdict (.rejected problemDetails left) (.rejected problemDetails right)

theorem SameButLog.exchangeId {left right : ExchangeDetailVerify}
    (same : SameButLog (.verify left) (.verify right)) :
    left.exchangeId = right.exchangeId :=
  congrArg Exchange.exchangeId same

theorem SameButLog.buildVerificationResponse {left right : ExchangeDetailVerify}
    (same : SameButLog (.verify left) (.verify right)) :
    buildVerificationResponse left = buildVerificationResponse right := by
  have redirect : left.vars.redirectUrl = right.vars.redirectUrl :=
    congrArg (fun exchange => exchange.baseVariables.redirectUrl) same
  unfold TransactionService.buildVerificationResponse
  rw [redirect]

theorem saveExchange_related (answers : Answers) {left right : Exchange}
    (same : SameButLog left right) :
    SameRequest (saveExchange answers left) (saveExchange answers right) := by
  unfold saveExchange
  split
  · exact ⟨rfl, .some same, .ok rfl⟩
  · exact .fail _

theorem ofExcept_related {α : Type} {values : α → α → Prop} {left right : Except Thrown α}
    (same : Action.ResultsRelated values left right) :
    Action.Related SameButLog values (Action.ofExcept left : Handler α)
      (Action.ofExcept right) :=
  ⟨rfl, .none, same⟩

/-! ## The two shapes of a body -/

structure IsBare (vp : Json) : Prop where
  isObject : ∃ members, vp = .obj members ∧ members ≠ []
  carriesNone : vp.field "verifiablePresentation" = none ∨
    vp.field "verifiablePresentation" = some .null

def enveloped (vp : Json) : Json :=
  .obj [("verifiablePresentation", vp)]

@[simp] theorem field_enveloped (vp : Json) :
    (enveloped vp).field "verifiablePresentation" = some vp := by
  simp [enveloped, Json.field]

namespace IsBare

variable {vp : Json} (bare : IsBare vp)

include bare

private theorem ne_null : vp ≠ .null := by
  rcases bare.isObject with ⟨members, rfl, -⟩
  intro impossible
  cases impossible

theorem presentationOf_self : presentationOf vp = vp :=
  presentationOf_of_carriesNone bare.carriesNone

theorem presentationOf_enveloped : presentationOf (enveloped vp) = vp := by
  rw [presentationOf, field_enveloped]
  exact Json.orElse_some bare.ne_null _

theorem isEmptyBody_eq : isEmptyBody vp = false ∧ isEmptyBody (enveloped vp) = false := by
  rcases bare.isObject with ⟨members, rfl, nonempty⟩
  exact ⟨by simpa [isEmptyBody] using nonempty, rfl⟩

theorem preparePresentation_eq (runtime : Runtime) :
    (preparePresentation runtime (enveloped vp)).result =
      (preparePresentation runtime vp).result := by
  simp only [preparePresentation, presentationOf_prepareVcalmParticipationMessage,
    bare.presentationOf_self, bare.presentationOf_enveloped]

theorem walletCryptosuites_eq :
    extractWalletCryptosuitesFromPresentation (enveloped vp) =
      extractWalletCryptosuitesFromPresentation vp := by
  have isObjectLike : vp.isObjectLike = true := by
    rcases bare.isObject with ⟨members, rfl, -⟩
    rfl
  unfold extractWalletCryptosuitesFromPresentation
  rcases bare.carriesNone with absent | isNull
  · simp only [field_enveloped, isObjectLike, if_true, absent]
  · have nullIsNot : Json.null.isObjectLike = false := rfl
    simp only [field_enveloped, isObjectLike, if_true, isNull, nullIsNot,
      Bool.false_eq_true, if_false]

end IsBare

section

variable {runtime : Runtime} {config : Config} {answers : Answers} {vp : Json}

/-! ## DID authentication -/

private theorem didAuthVerdict_related (presentation : Json) (challenge : String)
    (left right : Option (List CheckResult)) (result : PresentationVerificationResult) :
    SameVerdict (didAuthVerdict presentation challenge left result)
      (didAuthVerdict presentation challenge right result) := by
  unfold didAuthVerdict
  split
  · exact .verified _ left right
  · split
    · exact .rejected _ left right
    · exact .rejected _ left right

theorem verifyDIDAuth_related (bare : IsBare vp) (challenge : String) (debug : Bool) :
    Action.Related SameButLog SameVerdict
      (verifyDIDAuth runtime answers vp challenge debug)
      (verifyDIDAuth runtime answers (enveloped vp) challenge debug) := by
  simp only [verifyDIDAuth, bare.preparePresentation_eq]
  refine Action.Related.bind (.silent rfl) ?_
  rintro valid _ rfl
  refine Action.Related.bind (.silent rfl) ?_
  rintro result _ rfl
  exact .pure (didAuthVerdict_related ..)

private theorem participateInDidAuthExchange_related (bare : IsBare vp)
    (exchange : ExchangeDetailDidAuth) :
    SameRequest (participateInDidAuthExchange runtime config answers vp exchange)
      (participateInDidAuthExchange runtime config answers (enveloped vp) exchange) := by
  unfold participateInDidAuthExchange
  refine Action.Related.bind (verifyDIDAuth_related bare _ _) ?_
  intro left right same
  cases same with
  | rejected problemDetails => exact .fail _
  | verified holder =>
      cases holder with
      | none => exact .fail _
      | some holder =>
          refine Action.Related.bind (saveExchange_related answers rfl) ?_
          rintro _ _ -
          exact .pure rfl

/-! ## Claims -/

private theorem issueCredential_related (exchange : ExchangeDetailClaim)
    (walletCryptosuites : List String) (left right : Option (List CheckResult))
    (credential : Json) :
    SameRequest
      (issueCredential runtime config answers exchange walletCryptosuites left credential)
      (issueCredential runtime config answers exchange walletCryptosuites right
        credential) := by
  unfold issueCredential
  refine Action.Related.bind (.silent (allocateStatus_saved ..)) ?_
  rintro allocated _ rfl
  refine Action.Related.bind (.silent rfl) ?_
  rintro signedCredential _ rfl
  refine Action.Related.bind (saveExchange_related answers rfl) ?_
  rintro _ _ -
  exact .pure rfl

private theorem signClaimCredentialFromHolderDid_related (holderDid : Option String)
    (exchange : ExchangeDetailClaim) (workflow : Workflow)
    (walletCryptosuites : List String) (left right : Option (List CheckResult)) :
    SameRequest
      (signClaimCredentialFromHolderDid runtime config answers holderDid exchange workflow
        walletCryptosuites left)
      (signClaimCredentialFromHolderDid runtime config answers holderDid exchange workflow
        walletCryptosuites right) := by
  unfold signClaimCredentialFromHolderDid
  split
  · exact .fail _
  · split
    · exact .pure rfl
    · split
      · exact .fail _
      · refine Action.Related.bind (issueCredential_related ..) ?_
        rintro signedCredential _ rfl
        exact .pure rfl

private theorem participateInClaimExchange_related (bare : IsBare vp)
    (exchange : ExchangeDetailClaim) (workflow : Workflow) :
    SameRequest (participateInClaimExchange runtime config answers vp exchange workflow)
      (participateInClaimExchange runtime config answers (enveloped vp) exchange
        workflow) := by
  have finishes : ∀ holderDid left right,
      SameRequest
        (participateInClaimExchange.finish runtime config answers vp exchange workflow
          holderDid left)
        (participateInClaimExchange.finish runtime config answers (enveloped vp) exchange
          workflow holderDid right) := by
    intro holderDid left right
    unfold participateInClaimExchange.finish
    rw [bare.walletCryptosuites_eq]
    refine Action.Related.bind (signClaimCredentialFromHolderDid_related ..) ?_
    rintro signedCredential _ rfl
    split
    · exact .pure rfl
    · exact .pure rfl
  unfold participateInClaimExchange
  refine Action.Related.bind (verifyDIDAuth_related bare _ _) ?_
  intro left right same
  cases same with
  | rejected problemDetails => exact .fail _
  | verified holder =>
      simp only [bare.presentationOf_self, bare.presentationOf_enveloped]
      split
      · split
        · exact .fail _
        · exact finishes ..
      · exact finishes ..

/-! ## Verification -/

private theorem applyVerificationResults_related (exchange : ExchangeDetailVerify)
    (result : PresentationVerificationResult) (left right : List CheckResult)
    (debug : Bool) :
    Action.ResultsRelated (fun first second => SameButLog (.verify first) (.verify second))
      (applyVerificationResults exchange result left debug)
      (applyVerificationResults exchange result right debug) := by
  simp only [applyVerificationResults]
  cases validateClaims exchange.vars.vprClaims (storedCredentialResults result) with
  | error thrown => exact .error thrown
  | ok validation => exact .ok rfl

private theorem withSyncResults_related (exchange : ExchangeDetailVerify)
    (result : PresentationVerificationResult) (left right : List CheckResult)
    (debug : Bool) (indices : List Nat) :
    Action.ResultsRelated (fun first second => SameButLog (.verify first) (.verify second))
      (withSyncResultsAndQueuedVerifyTask config answers exchange result left debug indices)
      (withSyncResultsAndQueuedVerifyTask config answers exchange result right debug
        indices) := by
  simp only [withSyncResultsAndQueuedVerifyTask, applyVerificationResults]
  cases validateClaims exchange.vars.vprClaims (storedCredentialResults result) with
  | error thrown => exact .error thrown
  | ok validation => exact .ok rfl

private theorem preparePresentationForVerify_related (bare : IsBare vp)
    (exchange : ExchangeDetailVerify) :
    Action.ResultsRelated
      (fun left right : PreparedPresentation =>
        left.presentation = right.presentation ∧ left.debug = right.debug)
      (preparePresentationForVerify runtime config vp exchange)
      (preparePresentationForVerify runtime config (enveloped vp) exchange) := by
  simp only [preparePresentationForVerify, bare.preparePresentation_eq]
  cases assertValidVerifiablePresentationStructure
      (preparePresentation runtime vp).result with
  | error thrown => exact .error thrown
  | ok _ =>
      cases assertVerifiable (preparePresentation runtime vp).result with
      | error thrown => exact .error thrown
      | ok _ => exact .ok ⟨rfl, rfl⟩

private theorem participateInVerifyExchange_related (bare : IsBare vp)
    (exchange : ExchangeDetailVerify) :
    SameRequest (participateInVerifyExchange runtime config answers vp exchange)
      (participateInVerifyExchange runtime config answers (enveloped vp) exchange) := by
  unfold participateInVerifyExchange
  refine Action.Related.bind
    (ofExcept_related (preparePresentationForVerify_related bare exchange)) ?_
  rintro left right ⟨samePresentation, sameDebug⟩
  rw [samePresentation, sameDebug]
  refine Action.Related.bind (.silent rfl) ?_
  rintro result _ rfl
  dsimp only
  split
  · refine Action.Related.bind
      (ofExcept_related (applyVerificationResults_related ..)) ?_
    intro first second same
    refine Action.Related.bind (saveExchange_related answers same) ?_
    rintro _ _ -
    exact .pure same.buildVerificationResponse
  · refine Action.Related.bind (ofExcept_related (withSyncResults_related ..)) ?_
    intro first second same
    refine Action.Related.bind (saveExchange_related answers same) ?_
    rintro _ _ -
    rw [same.exchangeId]
    refine Action.Related.bind (.silent rfl) ?_
    rintro _ _ -
    exact .pure same.buildVerificationResponse

/-! ## All workflows -/

/-- Posting a presentation and posting it in an envelope come to the same. -/
theorem envelope_equivalence (runtime : Runtime) (config : Config) (answers : Answers)
    {vp : Json} (bare : IsBare vp) (exchange : Exchange) :
    SameRequest (participateInExchange runtime config answers vp exchange)
        (participateInExchange runtime config answers (enveloped vp) exchange) ∧
      (preparePresentation runtime (enveloped vp)).result =
        (preparePresentation runtime vp).result ∧
      (∀ challenge,
        deriveHolderFromProof (preparePresentation runtime (enveloped vp)).result challenge =
          deriveHolderFromProof (preparePresentation runtime vp).result challenge) ∧
      extractWalletCryptosuitesFromPresentation (enveloped vp) =
        extractWalletCryptosuitesFromPresentation vp := by
  refine ⟨?_, bare.preparePresentation_eq runtime, ?_, bare.walletCryptosuites_eq⟩
  · unfold participateInExchange
    rw [bare.isEmptyBody_eq.1, bare.isEmptyBody_eq.2]
    split
    · exact .fail _
    · cases exchange with
      | didAuth detail => exact participateInDidAuthExchange_related bare detail
      | claim detail => exact participateInClaimExchange_related bare detail _
      | verify detail => exact participateInVerifyExchange_related bare detail
  · intro challenge
    rw [bare.preparePresentation_eq]

end

/-! ### A bare presentation as wallets post it -/

private theorem samplePresentation_isBare : IsBare samplePresentation :=
  ⟨⟨_, rfl, fun impossible => nomatch impossible⟩, .inl (by decide)⟩

def challengedExchange : ExchangeDetailDidAuth where
  tenantName := "default"
  exchangeId := "exchange-1"
  expires := 600000
  state := .active
  vars := { exchangeHost := "http://localhost:4004", challenge := "challenge-1" }

theorem envelope_equivalence_sample :
    SameRequest
      (participateInExchange Runtime.plain {} Answers.plain samplePresentation
        (.didAuth challengedExchange))
      (participateInExchange Runtime.plain {} Answers.plain (enveloped samplePresentation)
        (.didAuth challengedExchange)) :=
  (envelope_equivalence Runtime.plain {} Answers.plain samplePresentation_isBare
    (.didAuth challengedExchange)).1

end TransactionService.Envelope
