import TransactionService.Service

namespace TransactionService

/-! # OID4VCI runtime state

`oid4vci/state.ts`: the pre-authorized code, the access token and the nonce of a
claim exchange. -/

structure StateError where
  error : String
  reason : String

def futureIso (now : Timestamp) (ttlSeconds : Int) : Timestamp :=
  now + ttlSeconds * 1000

def isExpired (now : Timestamp) (expiresAt : Option Timestamp) : Bool :=
  match expiresAt with
  | none => true
  | some time => time ≤ now

/-- `variables.oid4vci ?? {}`. -/
def oid4vciState (exchange : ExchangeDetailClaim) : ExchangeOid4vciState :=
  exchange.vars.oid4vci.getD {}

def withOid4vci (exchange : ExchangeDetailClaim) (state : ExchangeOid4vciState) :
    ExchangeDetailClaim :=
  { exchange with vars := { exchange.vars with oid4vci := some state } }

def isUsed (flag : Option Bool) : Bool :=
  flag.getD false

section

variable (answers : Answers)

def currentCode (now : Timestamp) (exchange : ExchangeDetailClaim) : Option String :=
  let cur := oid4vciState exchange
  if isUsed cur.codeUsed || isExpired now cur.preAuthorizedCodeExpiresAt then none
  else Text.given cur.preAuthorizedCode

/-- Mint a code unless there is a current one; the second component tells
whether the exchange is new. -/
def ensurePreAuthorizedCode (exchange : ExchangeDetailClaim) (ttlSeconds : Int) :
    ExchangeDetailClaim × Bool :=
  match currentCode (answers.clock 1) exchange with
  | some _ => (exchange, false)
  | none => (withOid4vci exchange { oid4vciState exchange with
      preAuthorizedCode := some answers.randomBytes
      preAuthorizedCodeExpiresAt := some (futureIso (answers.clock 2) ttlSeconds)
      codeUsed := some false }, true)

def redeemPreAuthorizedCode (now : Timestamp) (exchange : ExchangeDetailClaim)
    (presented : String) : Except StateError ExchangeDetailClaim :=
  let cur := oid4vciState exchange
  match Text.given cur.preAuthorizedCode with
  | none => .error {
      error := "invalid_request"
      reason := "No pre-authorized code has been issued for this exchange." }
  | some preAuthorizedCode =>
      if isUsed cur.codeUsed then .error {
        error := "invalid_grant"
        reason := "Pre-authorized code has already been redeemed." }
      else if isExpired now cur.preAuthorizedCodeExpiresAt then .error {
        error := "invalid_grant"
        reason := "Pre-authorized code has expired." }
      else if preAuthorizedCode ≠ presented then .error {
        error := "invalid_grant"
        reason := "Pre-authorized code is invalid." }
      else .ok (withOid4vci exchange { cur with codeUsed := some true })

def setAccessToken (now : Timestamp) (exchange : ExchangeDetailClaim) (ttlSeconds : Int) :
    ExchangeDetailClaim :=
  withOid4vci exchange { oid4vciState exchange with
    accessToken := some answers.randomBytes
    accessTokenExpiresAt := some (futureIso now ttlSeconds) }

def validateAccessToken (now : Timestamp) (exchange : ExchangeDetailClaim)
    (presented : String) : Except StateError Unit :=
  let cur := oid4vciState exchange
  match Text.given cur.accessToken with
  | none => .error {
      error := "invalid_token"
      reason := "No access token has been issued for this exchange." }
  | some accessToken =>
      if isExpired now cur.accessTokenExpiresAt then .error {
        error := "invalid_token"
        reason := "Access token has expired." }
      else if accessToken ≠ presented then .error {
        error := "invalid_token"
        reason := "Access token does not match." }
      else .ok ()

def mintNonce (now : Timestamp) (exchange : ExchangeDetailClaim) (ttlSeconds : Int) :
    ExchangeDetailClaim :=
  withOid4vci exchange { oid4vciState exchange with
    cNonce := some answers.randomBytes
    cNonceExpiresAt := some (futureIso now ttlSeconds)
    nonceUsed := some false }

def validateAndConsumeNonce (now : Timestamp) (exchange : ExchangeDetailClaim)
    (presented : String) : Except StateError ExchangeDetailClaim :=
  let cur := oid4vciState exchange
  match Text.given cur.cNonce with
  | none => .error {
      error := "invalid_nonce"
      reason := "No nonce has been issued for this exchange." }
  | some cNonce =>
      if isUsed cur.nonceUsed then .error {
        error := "invalid_nonce"
        reason := "Nonce has already been consumed." }
      else if isExpired now cur.cNonceExpiresAt then .error {
        error := "invalid_nonce"
        reason := "Nonce has expired." }
      else if cNonce ≠ presented then .error {
        error := "invalid_nonce"
        reason := "Nonce does not match." }
      else .ok (withOid4vci exchange { cur with nonceUsed := some true })

end

/-! ## What each helper changes -/

theorem redeemPreAuthorizedCode_ok {now : Timestamp}
    {exchange redeemed : ExchangeDetailClaim} {presented : String}
    (accepted : redeemPreAuthorizedCode now exchange presented = .ok redeemed) :
    (oid4vciState exchange).preAuthorizedCode = some presented ∧
      isUsed (oid4vciState exchange).codeUsed = false ∧
      redeemed = withOid4vci exchange
        { oid4vciState exchange with codeUsed := some true } := by
  unfold redeemPreAuthorizedCode at accepted
  dsimp only at accepted
  split at accepted
  · cases accepted
  · rename_i code isGiven
    split at accepted
    · cases accepted
    · rename_i unused
      split at accepted
      · cases accepted
      · split at accepted
        · cases accepted
        · rename_i same
          rw [Decidable.not_not] at same
          unfold Text.given at isGiven
          refine ⟨?_, by simpa using unused, (Except.ok.inj accepted).symm⟩
          rw [← same]
          exact (Option.filter_eq_some_iff.mp isGiven).1

theorem validateAndConsumeNonce_ok {now : Timestamp}
    {exchange consumed : ExchangeDetailClaim} {presented : String}
    (accepted : validateAndConsumeNonce now exchange presented = .ok consumed) :
    consumed = withOid4vci exchange
      { oid4vciState exchange with nonceUsed := some true } := by
  unfold validateAndConsumeNonce at accepted
  dsimp only at accepted
  split at accepted
  · cases accepted
  · split at accepted
    · cases accepted
    · split at accepted
      · cases accepted
      · split at accepted
        · cases accepted
        · exact (Except.ok.inj accepted).symm

theorem isExpired_eq_false {now : Timestamp} {expiresAt : Option Timestamp} :
    isExpired now expiresAt = false ↔ ∃ time, expiresAt = some time ∧ now < time := by
  unfold isExpired
  cases expiresAt with
  | none => simp
  | some time => simp

theorem redeemPreAuthorizedCode_current {now : Timestamp}
    {exchange redeemed : ExchangeDetailClaim} {presented : String}
    (accepted : redeemPreAuthorizedCode now exchange presented = .ok redeemed) :
    presented ≠ "" ∧ ∃ time,
      (oid4vciState exchange).preAuthorizedCodeExpiresAt = some time ∧ now < time := by
  unfold redeemPreAuthorizedCode at accepted
  dsimp only at accepted
  split at accepted
  · cases accepted
  · rename_i code isGiven
    split at accepted
    · cases accepted
    · split at accepted
      · cases accepted
      · rename_i current
        split at accepted
        · cases accepted
        · rename_i same
          rw [Decidable.not_not] at same
          subst same
          unfold Text.given at isGiven
          exact ⟨by simpa using (Option.filter_eq_some_iff.mp isGiven).2,
            isExpired_eq_false.mp (by simpa using current)⟩

theorem validateAccessToken_ok {now : Timestamp} {exchange : ExchangeDetailClaim}
    {presented : String} {valid : Unit}
    (accepted : validateAccessToken now exchange presented = .ok valid) :
    (oid4vciState exchange).accessToken = some presented ∧ ∃ time,
      (oid4vciState exchange).accessTokenExpiresAt = some time ∧ now < time := by
  unfold validateAccessToken at accepted
  dsimp only at accepted
  split at accepted
  · cases accepted
  · rename_i token isGiven
    split at accepted
    · cases accepted
    · rename_i current
      split at accepted
      · cases accepted
      · rename_i same
        rw [Decidable.not_not] at same
        subst same
        unfold Text.given at isGiven
        exact ⟨(Option.filter_eq_some_iff.mp isGiven).1,
          isExpired_eq_false.mp (by simpa using current)⟩

theorem validateAndConsumeNonce_current {now : Timestamp}
    {exchange consumed : ExchangeDetailClaim} {presented : String}
    (accepted : validateAndConsumeNonce now exchange presented = .ok consumed) :
    (oid4vciState exchange).cNonce = some presented ∧ ∃ time,
      (oid4vciState exchange).cNonceExpiresAt = some time ∧ now < time := by
  unfold validateAndConsumeNonce at accepted
  dsimp only at accepted
  split at accepted
  · cases accepted
  · rename_i nonce isGiven
    split at accepted
    · cases accepted
    · split at accepted
      · cases accepted
      · rename_i current
        split at accepted
        · cases accepted
        · rename_i same
          rw [Decidable.not_not] at same
          subst same
          unfold Text.given at isGiven
          exact ⟨(Option.filter_eq_some_iff.mp isGiven).1,
            isExpired_eq_false.mp (by simpa using current)⟩

theorem ensurePreAuthorizedCode_cases (answers : Answers)
    (exchange : ExchangeDetailClaim) (ttlSeconds : Int) :
    ensurePreAuthorizedCode answers exchange ttlSeconds = (exchange, false) ∨
      ∃ state, ensurePreAuthorizedCode answers exchange ttlSeconds =
        (withOid4vci exchange state, true) := by
  unfold ensurePreAuthorizedCode
  split
  · exact .inl rfl
  · exact .inr ⟨_, rfl⟩

end TransactionService
