import TransactionService.Oid4vci.Provenance

namespace TransactionService.Lifetimes

open History SingleUse RecordHistory

/-! # Lifetimes within the lifetime of the exchange

Each of the three stamps is compared with the expiry of the exchange. Only the
lifetime of a code takes it into account, in whole seconds and at least one. -/

def Within (expires : Timestamp) (stamp : Option Timestamp) : Prop :=
  ∀ time, stamp = some time → time ≤ expires

structure Bounded (detail : ExchangeDetailClaim) : Prop where
  code : Within detail.expires (oid4vciState detail).preAuthorizedCodeExpiresAt
  token : Within detail.expires (oid4vciState detail).accessTokenExpiresAt
  nonce : Within detail.expires (oid4vciState detail).cNonceExpiresAt

def StoredBounded (stored : Option Exchange) : Prop :=
  ∀ detail, stored = some (.claim detail) → Bounded detail

/-- The readings of the clock at which a request at this endpoint stamps nothing
beyond the expiry. -/
def ReadingsInTime (answers : Answers) (expires : Timestamp) : Endpoint → Prop
  | .credentialOffer =>
      let remaining := expires - answers.clock 0
      answers.clock 2 - answers.clock 0 ≤
        max (remaining - 600000) (min (remaining - 1000) (remaining % 1000))
  | .token _ => answers.clock 1 + 600000 ≤ expires
  | .nonce => answers.clock 0 + 300000 ≤ expires
  | _ => True

section

variable (runtime : Runtime) (config : Config)

def InTime (recorded : RecordWithPast) (operation : Operation) : Prop :=
  ∀ request detail, operation = .request request →
    recorded.value = some (.claim detail) →
    (written runtime config request (.claim detail)).isSome = true →
    ReadingsInTime request.answers detail.expires request.endpoint

end

section

variable {runtime : Runtime} {config : Config} {answers : Answers}
  {request : StoreRequest} {detail after : ExchangeDetailClaim} {next : Exchange}

theorem within_some {expires time : Timestamp} :
    Within expires (some time) ↔ time ≤ expires := by
  simp [Within]

private theorem wholeSeconds_fit (now later expires : Int) :
    later + min 600 (max 1 ((expires - now) / 1000)) * 1000 ≤ expires ↔
      later - now ≤ max (expires - now - 600000)
        (min (expires - now - 1000) ((expires - now) % 1000)) := by
  omega

theorem within_code_iff (answers : Answers) (detail : ExchangeDetailClaim) :
    Within detail.expires (some (futureIso (answers.clock 2) (codeTtlSec answers detail))) ↔
      ReadingsInTime answers detail.expires .credentialOffer := by
  rw [within_some]
  unfold futureIso codeTtlSec ReadingsInTime
  dsimp only
  rw [Int.fdiv_eq_ediv_of_nonneg _ (by decide)]
  exact wholeSeconds_fit _ _ _

private theorem change_kept {endpoint : Endpoint}
    (change : Change runtime config answers endpoint (.claim detail) next)
    (noOffer : endpoint ≠ .credentialOffer) (noToken : ∀ body, endpoint ≠ .token body)
    (noNonce : endpoint ≠ .nonce) :
    ∃ after, next = .claim after ∧ after.expires = detail.expires ∧
      (Bounded detail → Bounded after) := by
  cases change with
  | activated pending =>
      exact ⟨_, rfl, rfl, fun bounded => ⟨bounded.code, bounded.token, bounded.nonce⟩⟩
  | claimed signedCredential compatLog ongoing =>
      exact ⟨_, rfl, rfl, fun bounded => ⟨bounded.code, bounded.token, bounded.nonce⟩⟩
  | swept planned => cases planned
  | offered => exact absurd rfl noOffer
  | redeemed handled => exact absurd rfl (noToken _)
  | minted => exact absurd rfl noNonce
  | issued signedCredential compatLog ongoing =>
      exact ⟨_, rfl, rfl, fun bounded => ⟨bounded.code, bounded.token, bounded.nonce⟩⟩

private theorem written_stamps
    (saved : written runtime config request (.claim detail) = some next) :
    ∃ after, next = .claim after ∧ after.expires = detail.expires ∧
      (Bounded detail →
        (Bounded after ↔
          ReadingsInTime request.answers detail.expires request.endpoint)) := by
  have change := written_change saved
  rcases request with ⟨workflowId, endpoint, answers⟩
  cases endpoint with
  | token body =>
      rcases Provenance.returnedToken_spec (Provenance.token_written saved) with
        ⟨-, other, presented, redeemed, stored, same, -, isStored, accepted, rfl⟩
      cases same
      rcases redeemPreAuthorizedCode_ok accepted with ⟨-, -, rfl⟩
      have isNext := Option.some.inj (saved.symm.trans isStored)
      refine ⟨_, isNext, rfl, fun bounded => ?_⟩
      constructor
      · intro after
        exact within_some.mp after.token
      · intro inTime
        exact ⟨bounded.code, within_some.mpr inTime, bounded.nonce⟩
  | nonce =>
      rcases Provenance.nonce_written saved with ⟨rfl, -⟩
      refine ⟨_, rfl, rfl, fun bounded => ?_⟩
      constructor
      · intro after
        exact within_some.mp after.nonce
      · intro inTime
        exact ⟨bounded.code, bounded.token, within_some.mpr inTime⟩
  | credentialOffer =>
      rcases Provenance.offer_written saved with ⟨-, -, rfl, -⟩
      refine ⟨_, rfl, rfl, fun bounded => ?_⟩
      rw [← within_code_iff]
      constructor
      · intro after
        exact after.code
      · intro inTime
        exact ⟨inTime, bounded.token, bounded.nonce⟩
  | _ =>
      rcases change_kept change (fun equal => (nomatch equal)) (fun _ equal => (nomatch equal))
        (fun equal => (nomatch equal)) with ⟨after, isNext, sameExpiry, kept⟩
      exact ⟨after, isNext, sameExpiry,
        fun bounded => ⟨fun _ => trivial, fun _ => kept bounded⟩⟩

/-! ## Runs -/

def IsClaim (recorded : RecordWithPast) : Prop :=
  ∀ snapshot, recorded.value = some snapshot → ∃ detail, snapshot = .claim detail

private theorem isClaim_next {recorded : RecordWithPast} (operation : Operation)
    (isClaim : IsClaim recorded) :
    IsClaim (History.next (applied runtime config) recorded operation) := by
  intro snapshot stores
  have isApplied : applied runtime config operation recorded.value = some snapshot := stores
  cases found : recorded.value with
  | none =>
      rw [found] at isApplied
      exact absurd isApplied (applied_none operation snapshot)
  | some stored =>
      rcases isClaim stored found with ⟨detail, rfl⟩
      rw [found] at isApplied
      cases operation with
      | evict => cases isApplied
      | work answers =>
          cases isApplied
          exact ⟨detail, rfl⟩
      | request request =>
          rcases Provenance.claim_step runtime config request detail with ⟨after, stores, -⟩
          cases stores.symm.trans isApplied
          exact ⟨after, rfl⟩

theorem inTime_of_no_request {recorded : RecordWithPast} {operation : Operation}
    (other : ∀ request, operation ≠ .request request) :
    InTime runtime config recorded operation :=
  fun request _ isRequest => absurd isRequest (other request)

theorem inTime_request_iff {recorded : RecordWithPast}
    (found : recorded.value = some (.claim detail)) :
    InTime runtime config recorded (.request request) ↔
      ((written runtime config request (.claim detail)).isSome = true →
        ReadingsInTime request.answers detail.expires request.endpoint) := by
  constructor
  · intro inTime isWritten
    exact inTime request detail rfl found isWritten
  · intro early other same isRequest isFound isWritten
    cases isRequest
    rw [found] at isFound
    cases isFound
    exact early isWritten

theorem storedBounded_some : StoredBounded (some (.claim detail)) ↔ Bounded detail := by
  constructor
  · intro bounded
    exact bounded detail rfl
  · intro bounded same stores
    cases stores
    exact bounded

private theorem storedBounded_next {recorded : RecordWithPast} (operation : Operation)
    (isClaim : IsClaim recorded) (bounded : StoredBounded recorded.value) :
    StoredBounded (applied runtime config operation recorded.value) ↔
      InTime runtime config recorded operation := by
  cases found : recorded.value with
  | none =>
      constructor
      · intro _ request detail _ impossible
        rw [found] at impossible
        cases impossible
      · intro _ detail stores
        exact absurd stores (applied_none operation _)
  | some stored =>
      rcases isClaim stored found with ⟨detail, rfl⟩
      rw [found, storedBounded_some] at bounded
      cases operation with
      | evict =>
          have inTime : InTime runtime config recorded .evict :=
            inTime_of_no_request fun _ equal => (nomatch equal)
          exact iff_of_true (fun _ stores => (nomatch stores)) inTime
      | work answers =>
          have inTime : InTime runtime config recorded (.work answers) :=
            inTime_of_no_request fun _ equal => (nomatch equal)
          rw [applied_work_claim]
          exact iff_of_true (storedBounded_some.mpr bounded) inTime
      | request request =>
          rw [inTime_request_iff found]
          cases saved : written runtime config request (.claim detail) with
          | none =>
              rw [applied_unwritten saved]
              exact iff_of_true (storedBounded_some.mpr bounded)
                fun isWritten => (nomatch isWritten)
          | some next =>
              rcases written_stamps saved with ⟨after, rfl, -, exactly⟩
              rw [applied_written saved, storedBounded_some, exactly bounded]
              simp

end

variable (runtime : Runtime) (config : Config)

/-- Every stamp stays within the lifetime of the exchange exactly when all the
stamps are made early enough. -/
theorem lifetimes_bounded_iff (creationAnswers : Answers) (data : ClaimCreateData)
    (operations : List Operation) :
    Throughout (applied runtime config) (fun recorded => StoredBounded recorded.value)
        (start (some (.claim (createExchangeClaim config creationAnswers data))))
        operations ↔
      Machine.Along (recordStep runtime config) (InTime runtime config)
        (start (some (.claim (createExchangeClaim config creationAnswers data))))
        operations := by
  apply throughout_iff IsClaim
  · intro recorded operation isClaim
    exact isClaim_next operation isClaim
  · intro recorded operation isClaim bounded
    exact storedBounded_next operation isClaim bounded
  · intro snapshot stores
    cases stores
    exact ⟨_, rfl⟩
  · intro detail stores
    cases stores
    exact ⟨fun _ none => (nomatch none), fun _ none => (nomatch none),
      fun _ none => (nomatch none)⟩

/-! ## A token a second after creation -/

def tokenASecondLater : List Operation := [
  Provenance.claimRequest .credentialOffer "code-1",
  .request ⟨"claim", .token (.obj [("grant_type", .str preAuthorizedGrant),
    ("pre-authorized_code", .str "code-1")]),
    { Answers.plain with clock := fun _ => 1000, randomBytes := "token-1" }⟩]

theorem token_outlives_exchange :
    ¬ Throughout (applied Provenance.claimRuntime {})
      (fun recorded => StoredBounded recorded.value)
      (start (some (.claim (createExchangeClaim {} Answers.plain {
        exchangeHost := "http://localhost:4004", vc := "the credential" }))))
      tokenASecondLater := by
  intro throughout
  have last := throughout.2.2
  have bounded := last _ rfl
  exact absurd (bounded.token 601000 rfl) (by decide)

end TransactionService.Lifetimes
