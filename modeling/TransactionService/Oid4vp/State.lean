import TransactionService.Service

namespace TransactionService

/-! # OID4VP runtime state

`oid4vp/state.ts`: the correlation token of a verify exchange, which answers one
response. -/

/-- `variables.oid4vp ?? {}`. -/
def oid4vpState (exchange : ExchangeDetailVerify) : ExchangeOid4vpState :=
  exchange.vars.oid4vp.getD {}

def withOid4vp (exchange : ExchangeDetailVerify) (state : ExchangeOid4vpState) :
    ExchangeDetailVerify :=
  { exchange with vars := { exchange.vars with oid4vp := some state } }

/-- Mint a state unless there is one; the second component tells whether the
exchange is new. -/
def ensureOid4vpState (answers : Answers) (exchange : ExchangeDetailVerify) :
    ExchangeDetailVerify × Bool :=
  match Text.given (oid4vpState exchange).state with
  | some _ => (exchange, false)
  | none => (withOid4vp exchange { oid4vpState exchange with
      state := some answers.randomBytes
      responseReceived := some false }, true)

def consumeOid4vpResponse (exchange : ExchangeDetailVerify)
    (presentedState : Option String) : Except String ExchangeDetailVerify :=
  let cur := oid4vpState exchange
  match Text.given cur.state with
  | none => .error
      "No OID4VP authorization request has been issued for this exchange."
  | some state =>
      if cur.responseReceived.getD false then .error
        "An OID4VP response has already been accepted for this exchange."
      else if Text.given presentedState ≠ some state then .error
        "The `state` value does not match the issued authorization request."
      else .ok (withOid4vp exchange { cur with responseReceived := some true })

theorem consumeOid4vpResponse_ok {exchange working : ExchangeDetailVerify}
    {presentedState : Option String}
    (accepted : consumeOid4vpResponse exchange presentedState = .ok working) :
    ∃ state, presentedState = some state ∧ (oid4vpState exchange).state = some state ∧
      (oid4vpState exchange).responseReceived.getD false = false ∧
      working = withOid4vp exchange
        { oid4vpState exchange with responseReceived := some true } := by
  unfold consumeOid4vpResponse at accepted
  dsimp only at accepted
  split at accepted
  · cases accepted
  · rename_i state isGiven
    split at accepted
    · cases accepted
    · rename_i unused
      split at accepted
      · cases accepted
      · rename_i same
        rw [Decidable.not_not] at same
        exact ⟨state, (Option.filter_eq_some_iff.mp same).1,
          (Option.filter_eq_some_iff.mp isGiven).1, by simpa using unused,
          (Except.ok.inj accepted).symm⟩

theorem ensureOid4vpState_cases (answers : Answers) (exchange : ExchangeDetailVerify) :
    ensureOid4vpState answers exchange = (exchange, false) ∨
      ∃ state, ensureOid4vpState answers exchange = (withOid4vp exchange state, true) := by
  unfold ensureOid4vpState
  split
  · exact .inl rfl
  · exact .inr ⟨_, rfl⟩

end TransactionService
