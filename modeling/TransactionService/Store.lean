import TransactionService.Service

namespace TransactionService

/-! # The transaction manager

`transactionManager.ts`: plain writes of a record, and writes guarded by the
attempt a caller believes to be current. -/

/-- Write the record; the store may refuse. -/
def saveExchange (answers : Answers) (exchange : Exchange) : Handler Unit :=
  if answers.accepted 0 then Action.save exchange
  else throwHttp 500 "Failed to save exchange."

def storeTtl (now : Timestamp) (exchange : Exchange) : Int :=
  exchange.expires - now + 1000

theorem lt_storeTtl {now : Timestamp} {exchange : Exchange} :
    1000 < storeTtl now exchange ↔ now < exchange.expires := by
  have spare : ∀ expires time : Int, 1000 < expires - time + 1000 ↔ time < expires := by
    intro expires time
    omega
  exact spare exchange.expires now

/-- `variables.verifyTask.attemptId`, if there is one. -/
def readVerifyTaskAttemptId : Exchange → Option String
  | .verify detail => detail.vars.verifyTask.map (·.attemptId)
  | _ => none

inductive SaveExchangeWithCASResult
  | committed (exchange : Exchange)
  | stale (current : Exchange)
  | notFound

/-- The first half of a guarded write: read and compare. -/
def checkAttempt (stored : Option Exchange) (expectedAttemptId : String) :
    Except SaveExchangeWithCASResult Exchange :=
  match stored with
  | none => .error .notFound
  | some current =>
      if readVerifyTaskAttemptId current ≠ some expectedAttemptId then
        .error (.stale current)
      else .ok current

/-- The second half of a guarded write. -/
def writeChecked (accepted : Bool) (next : Exchange) : Handler SaveExchangeWithCASResult :=
  if accepted then do
    Action.save next
    return .committed next
  else throwHttp 500 "Failed to save exchange."

/-- A guarded write whose two halves run without interruption. -/
def saveExchangeWithCAS (accepted : Bool) (stored : Option Exchange)
    (expectedAttemptId : String) (update : Exchange → Exchange) :
    Handler SaveExchangeWithCASResult :=
  match checkAttempt stored expectedAttemptId with
  | .error result => return result
  | .ok current => writeChecked accepted (update current)

/-- `getExchangeData` for a verify exchange. -/
def loadVerifyExchange (stored : Option Exchange) : Except Thrown ExchangeDetailVerify :=
  match stored with
  | some (.verify exchange) => .ok exchange
  | _ => .error (.http { status := 404, message := "Unknown exchangeId." })

@[simp] theorem saveExchange_calls (answers : Answers) (exchange : Exchange) :
    (saveExchange answers exchange).calls = [] := by
  unfold saveExchange
  split <;> rfl

theorem saveExchange_saved {answers : Answers} {exchange record : Exchange}
    (writes : (saveExchange answers exchange).saved = some record) :
    record = exchange := by
  unfold saveExchange at writes
  split at writes
  · exact (Option.some.inj writes).symm
  · cases writes

theorem saveExchange_accepted {answers : Answers} {exchange record : Exchange}
    (writes : (saveExchange answers exchange).saved = some record) :
    answers.accepted 0 = true := by
  unfold saveExchange at writes
  split at writes
  · assumption
  · cases writes

theorem saveExchange_eq {answers : Answers} (accepts : answers.accepted 0 = true)
    (exchange : Exchange) : saveExchange answers exchange = Action.save exchange :=
  if_pos accepts

theorem saveExchange_kept {answers : Answers} {exchange : Exchange} :
    Action.Kept (fun _ => True) (saveExchange answers exchange) := by
  intro record writes
  rw [saveExchange_eq (saveExchange_accepted writes)]
  exact ⟨(), rfl, trivial⟩

theorem saveExchange_bind_result {answers : Answers} {exchange record : Exchange}
    (writes : (saveExchange answers exchange).saved = some record)
    (next : Unit → Handler α) :
    (saveExchange answers exchange >>= next).result = (next ()).result := by
  have succeeds : (saveExchange answers exchange).result = .ok () := by
    unfold saveExchange
    rw [if_pos (saveExchange_accepted writes)]
    rfl
  rw [Action.bind_ok succeeds]

theorem saveExchange_ok {answers : Answers} {exchange : Exchange} {result : Unit}
    (succeeds : (saveExchange answers exchange).result = .ok result) :
    (saveExchange answers exchange).saved = some exchange := by
  unfold saveExchange at succeeds ⊢
  split
  · rfl
  · rename_i refused
    rw [if_neg refused] at succeeds
    cases succeeds

theorem checkAttempt_eq_ok {stored : Option Exchange} {expectedAttemptId : String}
    {current : Exchange} :
    checkAttempt stored expectedAttemptId = .ok current ↔
      stored = some current ∧
        readVerifyTaskAttemptId current = some expectedAttemptId := by
  cases stored with
  | none => simp [checkAttempt]
  | some record =>
      simp only [checkAttempt, Option.some.injEq]
      split
      · rename_i different
        constructor
        · intro impossible
          cases impossible
        · rintro ⟨rfl, same⟩
          exact absurd same different
      · rename_i same
        rw [Decidable.not_not] at same
        constructor
        · intro equal
          cases equal
          exact ⟨rfl, same⟩
        · rintro ⟨rfl, -⟩
          rfl

theorem saveExchangeWithCAS_saved {accepted : Bool} {stored : Option Exchange}
    {expectedAttemptId : String} {update : Exchange → Exchange} {record : Exchange}
    (writes : (saveExchangeWithCAS accepted stored expectedAttemptId update).saved =
      some record) :
    ∃ current, stored = some current ∧
      readVerifyTaskAttemptId current = some expectedAttemptId ∧
      record = update current := by
  unfold saveExchangeWithCAS at writes
  split at writes
  · cases writes
  · rename_i current checked
    rcases checkAttempt_eq_ok.mp checked with ⟨found, same⟩
    refine ⟨current, found, same, ?_⟩
    unfold writeChecked at writes
    split at writes
    · rcases Action.saved_bind writes with saved | ⟨_, _, nothing⟩
      · exact (Option.some.inj saved).symm
      · cases nothing
    · cases writes

theorem saveExchangeWithCAS_current {current : Exchange} {expectedAttemptId : String}
    (same : readVerifyTaskAttemptId current = some expectedAttemptId) (accepted : Bool)
    (update : Exchange → Exchange) :
    saveExchangeWithCAS accepted (some current) expectedAttemptId update =
      if accepted then
        { saved := some (update current), result := .ok (.committed (update current)) }
      else throwHttp 500 "Failed to save exchange." := by
  have checked : checkAttempt (some current) expectedAttemptId = .ok current :=
    checkAttempt_eq_ok.mpr ⟨rfl, same⟩
  simp only [saveExchangeWithCAS, checked, writeChecked]
  cases accepted <;> rfl

end TransactionService
