import TransactionService.Foundation.History
import TransactionService.Routes.SingleUse

namespace TransactionService.RecordHistory

open History SingleUse

/-! # The history of one record

Requests and worker runs that are carried out one after the other on the record
of one exchange, until the store evicts it, and what they answered. -/

inductive Operation
  | request (request : StoreRequest)
  | work (answers : Answers)
  | evict

abbrev RecordEntry := Entry (Option Exchange) Operation
abbrev RecordPast := List RecordEntry
abbrev RecordWithPast := Recorded (Option Exchange) Operation

section

variable (runtime : Runtime) (config : Config)

def applied : Operation → Option Exchange → Option Exchange
  | .request request, stored =>
      (serve runtime config request.answers request.workflowId request.endpoint
        stored).saved.or stored
  | .work answers, stored =>
      (processVerifyTask runtime config answers stored).saved.or stored
  | .evict, _ => none

def recordStep : RecordWithPast → Operation → Option RecordWithPast :=
  step (applied runtime config)

/-! ## What was answered -/

def answeredJson : Except Thrown Response → Option Json
  | .ok ⟨200, .json value⟩ => some value
  | _ => none

theorem answeredJson_eq_some {result : Except Thrown Response} {value : Json} :
    answeredJson result = some value ↔ result = .ok (json value) := by
  constructor
  · intro isAnswered
    unfold answeredJson at isAnswered
    split at isAnswered
    · cases isAnswered
      rfl
    · cases isAnswered
  · rintro rfl
    rfl

def codeOf (offer : Json) : Option String := do
  let grants ← offer.field "grants"
  let grant ← grants.field preAuthorizedGrant
  let code ← grant.field "pre-authorized_code"
  code.asString?

def offeredCode (request : StoreRequest) (snapshot : Exchange) : Option String :=
  match request.endpoint with
  | .credentialOffer =>
      (answeredJson (served runtime config request snapshot).result).bind codeOf
  | _ => none

def returnedToken (request : StoreRequest) (snapshot : Exchange) : Option String :=
  match request.endpoint with
  | .token _ => (answeredJson (served runtime config request snapshot).result).bind
      fun response => (response.field "access_token").bind Json.asString?
  | _ => none

def returnedNonce (request : StoreRequest) (snapshot : Exchange) : Option String :=
  match request.endpoint with
  | .nonce => (answeredJson (served runtime config request snapshot).result).bind
      fun response => (response.field "c_nonce").bind Json.asString?
  | _ => none

def requestedState (request : StoreRequest) (snapshot : Exchange) : Option String :=
  match request.endpoint with
  | .authorizationRequest =>
      (answeredJson (served runtime config request snapshot).result).bind
        fun authorizationRequest =>
          (authorizationRequest.field "state").bind Json.asString?
  | _ => none

end

def happened (wins : StoreRequest → Exchange → Bool) (entry : RecordEntry) : Bool :=
  match entry.operation, entry.found with
  | .request request, some snapshot => wins request snapshot
  | _, _ => false

def answered (answer : StoreRequest → Exchange → Option α) (entry : RecordEntry) :
    Option α :=
  match entry.operation, entry.found with
  | .request request, some snapshot => answer request snapshot
  | _, _ => none

def clockOf (entry : RecordEntry) (reading : Nat) : Timestamp :=
  match entry.operation with
  | .request request => request.answers.clock reading
  | .work answers => answers.clock reading
  | .evict => 0

theorem happened_eq_true {wins : StoreRequest → Exchange → Bool}
    {found : Option Exchange} {operation : Operation}
    (won : happened wins ⟨found, operation⟩ = true) :
    ∃ request snapshot, found = some snapshot ∧ operation = .request request ∧
      wins request snapshot = true := by
  unfold happened at won
  split at won
  · rename_i request snapshot isRequest isFound
    exact ⟨request, snapshot, isFound, isRequest, won⟩
  · cases won

theorem answered_eq_some {answer : StoreRequest → Exchange → Option String}
    {found : Option Exchange} {operation : Operation} {text : String}
    (isAnswered : answered answer ⟨found, operation⟩ = some text) :
    ∃ request snapshot, found = some snapshot ∧ operation = .request request ∧
      answer request snapshot = some text := by
  unfold answered at isAnswered
  split at isAnswered
  · rename_i request snapshot isRequest isFound
    exact ⟨request, snapshot, isFound, isRequest, isAnswered⟩
  · cases isAnswered

section

variable {runtime : Runtime} {config : Config} {request : StoreRequest}
  {snapshot after : Exchange}

theorem applied_written (saved : written runtime config request snapshot = some after) :
    applied runtime config (.request request) (some snapshot) = some after := by
  have isApplied : applied runtime config (.request request) (some snapshot) =
      (written runtime config request snapshot).or (some snapshot) := rfl
  rw [isApplied, saved, Option.some_or]

theorem applied_unwritten (unwritten : written runtime config request snapshot = none) :
    applied runtime config (.request request) (some snapshot) = some snapshot := by
  have isApplied : applied runtime config (.request request) (some snapshot) =
      (written runtime config request snapshot).or (some snapshot) := rfl
  rw [isApplied, unwritten, Option.none_or]

theorem applied_work_claim (answers : Answers) (detail : ExchangeDetailClaim) :
    applied runtime config (.work answers) (some (.claim detail)) = some (.claim detail) :=
  rfl

theorem applied_none (operation : Operation) (snapshot : Exchange) :
    applied runtime config operation none ≠ some snapshot := by
  intro isApplied
  cases operation with
  | evict => cases isApplied
  | work answers => cases isApplied
  | request request =>
      rcases Option.or_eq_some_iff.mp isApplied with saved | ⟨-, nothing⟩
      · rcases serve_saved saved with ⟨exchange, impossible, -⟩
        cases impossible
      · cases nothing

end

end TransactionService.RecordHistory
