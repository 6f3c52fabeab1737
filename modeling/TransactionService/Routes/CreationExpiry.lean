import TransactionService.Routes.Creation

namespace TransactionService.CreationExpiry

open Fallible Schema

/-! # The expiry a creation request asks for

The check of the date is made at one reading of the clock, and accepts a date
that has passed at that reading and no other. -/

def suppliedExpires (runtime : Runtime) (body : Json) : Option Timestamp :=
  (body.field "expires").bind fun text => text.asString?.bind runtime.parseDatetime

inductive CreateRequest
  | single (workflowId : String) (authorization : Option String)
  | batch (authorization : Option String)

def frozen (answers : Answers) (time : Timestamp) : Answers :=
  { answers with clock := fun _ => time }

section

variable (runtime : Runtime) (config : Config) (answers : Answers)

def created (request : CreateRequest) (body : Json) : Except Thrown (List Exchange) :=
  match request with
  | .single workflowId authorization => do
      let exchange ← createdByRequest runtime config answers workflowId authorization
        (some body)
      return [exchange]
  | .batch authorization => createdByBatch runtime config answers authorization (some body)

/-- At this time the check lets future dates pass and no others, and what is
created expires when it was asked to, in the future, and is kept until then. -/
structure ExpiryHonoured (time : Timestamp) (request : CreateRequest) (body : Json) : Prop where
  future : ∀ supplied, suppliedExpires runtime body = some supplied → time < supplied →
    (expiresSchema runtime time body).isSome = true
  past : ∀ supplied, suppliedExpires runtime body = some supplied → supplied ≤ time →
    expiresSchema runtime time body = none
  created : ∀ exchanges,
    created runtime config (frozen answers time) request body = .ok exchanges →
    ∀ exchange ∈ exchanges,
      (∀ supplied, suppliedExpires runtime body = some supplied →
        exchange.expires = supplied) ∧
      time < exchange.expires ∧ 1000 < storeTtl time exchange

/-- The date of the request is this very time, or the request leaves the date to
a lifetime that is positive, or nothing is created. -/
def ExpiryFits (time : Timestamp) (request : CreateRequest) (body : Json) : Prop :=
  match suppliedExpires runtime body with
  | some supplied => supplied = time
  | none => 0 < config.exchangeTtl ∨ ∀ exchanges,
      created runtime config (frozen answers time) request body = .ok exchanges →
        exchanges = []

end

section

variable {runtime : Runtime} {config : Config} {answers : Answers} {body : Json}

/-! ## The check of the date -/

private theorem expiresSchema_supplied {supplied : Timestamp}
    (isSupplied : suppliedExpires runtime body = some supplied) (now : Timestamp) :
    expiresSchema runtime now body =
      if supplied < now then some (some supplied) else none := by
  rcases Option.bind_eq_some_iff.mp isSupplied with ⟨text, isField, isDate⟩
  simp [expiresSchema, optionalMember, isField, isDate, optionalFutureDate]

private theorem expiresSchema_unsupplied (unsupplied : suppliedExpires runtime body = none)
    {now : Timestamp} {expires : Option Timestamp}
    (checked : expiresSchema runtime now body = some expires) : expires = none := by
  unfold suppliedExpires at unsupplied
  unfold expiresSchema optionalMember at checked
  cases isField : body.field "expires" with
  | none =>
      rw [isField] at checked
      simpa [optionalFutureDate] using checked.symm
  | some text =>
      rw [isField, Option.bind_some] at unsupplied
      simp [isField, unsupplied] at checked

/-! ## What is created -/

private theorem acceptExchangeCreate_expires {workflowId : String} {authorization : Option String}
    {data : ExchangeCreateInput}
    (accepted : acceptExchangeCreate runtime config answers workflowId authorization
      (some body) = .ok data) :
    expiresSchema runtime (answers.clock 0) body = some data.expires := by
  rcases acceptExchangeCreate_eq_ok.mp accepted with
    ⟨_, _, parsed, _, -, isBody, -, isParsed, -, rfl⟩
  cases isBody
  rcases Option.bind_eq_some_iff.mp (orZodError_eq_ok.mp isParsed) with ⟨vars, -, afterVars⟩
  rcases Option.bind_eq_some_iff.mp afterVars with ⟨expires, checked, same⟩
  cases same
  exact checked

private theorem acceptExchangeBatch_checked {authorization : Option String} {data : ExchangeBatch}
    (accepted : acceptExchangeBatch runtime config answers authorization (some body) =
      .ok data) :
    (expiresSchema runtime (answers.clock 0) body).isSome = true := by
  rcases acceptExchangeBatch_eq_ok.mp accepted with ⟨_, _, parsed, _, -, isBody, isParsed, -, -⟩
  cases isBody
  have parts := orZodError_eq_ok.mp isParsed
  rcases Option.bind_eq_some_iff.mp parts with ⟨_, -, parts⟩
  rcases Option.bind_eq_some_iff.mp parts with ⟨_, -, parts⟩
  rcases Option.bind_eq_some_iff.mp parts with ⟨_, -, parts⟩
  rcases Option.bind_eq_some_iff.mp parts with ⟨_, -, parts⟩
  rcases Option.bind_eq_some_iff.mp parts with ⟨_, -, parts⟩
  rcases Option.bind_eq_some_iff.mp parts with ⟨expires, checked, -⟩
  exact Option.isSome_of_eq_some checked

private theorem batchCreateData_expires {data : ExchangeBatch} {workflowId : WorkflowId}
    {item : CredentialData} {made : CreateData} (later : Answers)
    (isMade : batchCreateData runtime answers data workflowId item = .ok made) :
    (createExchange config later made).expires =
      later.clock 0 + config.exchangeTtl * 1000 := by
  cases workflowId with
  | claim =>
      rcases bind_eq_ok.mp isMade with ⟨validated, isValidated, returned⟩
      cases returned
      rcases validateExchangeClaim_ok isValidated with ⟨_, _, -, -, -, -, rfl⟩
      rfl
  | didAuth =>
      rcases bind_eq_ok.mp isMade with ⟨validated, isValidated, returned⟩
      cases returned
      cases orZodError_eq_ok.mp isValidated
      rfl
  | verify => cases isMade

theorem created_expires {time : Timestamp} {request : CreateRequest}
    {exchanges : List Exchange}
    (isCreated : created runtime config (frozen answers time) request body = .ok exchanges) :
    (expiresSchema runtime time body).isSome = true ∧
      (suppliedExpires runtime body = none → ∀ exchange ∈ exchanges,
        exchange.expires = time + config.exchangeTtl * 1000) := by
  cases request with
  | single workflowId authorization =>
      rcases bind_eq_ok.mp isCreated with ⟨exchange, isMade, returned⟩
      cases returned
      rcases bind_eq_ok.mp isMade with ⟨data, accepted, made⟩
      have checked := acceptExchangeCreate_expires accepted
      refine ⟨Option.isSome_of_eq_some checked, ?_⟩
      intro unsupplied other member
      rw [List.mem_singleton.mp member, (newExchange_made made).2.1,
        expiresSchema_unsupplied unsupplied checked]
      rfl
  | batch authorization =>
      rcases bind_eq_ok.mp isCreated with ⟨data, accepted, made⟩
      refine ⟨acceptExchangeBatch_checked accepted, ?_⟩
      intro _ exchange member
      rcases batchExchanges_each made exchange member with ⟨_, _, _, isData, rfl⟩
      exact batchCreateData_expires _ isData

/-! ## When the expiry is honoured -/

theorem lt_lifetime {time seconds : Int} : time < time + seconds * 1000 ↔ 0 < seconds := by
  omega

/-- A request is dealt with as its date demands exactly when the date is the
present, or there is none and the configured lifetime is positive. -/
theorem expiry_honoured_iff (runtime : Runtime) (config : Config) (answers : Answers)
    (time : Timestamp) (request : CreateRequest) (body : Json) :
    ExpiryHonoured runtime config answers time request body ↔
      ExpiryFits runtime config answers time request body := by
  unfold ExpiryFits
  cases isSupplied : suppliedExpires runtime body with
  | some supplied =>
      have checked := expiresSchema_supplied isSupplied time
      constructor
      · intro honoured
        rcases lt_trichotomy time supplied with isFuture | rfl | isPast
        · have passes := honoured.future supplied isSupplied isFuture
          rw [checked, if_neg (Int.not_lt.mpr isFuture.le)] at passes
          cases passes
        · rfl
        · have refused := honoured.past supplied isSupplied isPast.le
          rw [checked, if_pos isPast] at refused
          cases refused
      · rintro rfl
        rw [if_neg (Int.lt_irrefl _)] at checked
        refine ⟨?_, fun _ _ _ => checked, ?_⟩
        · intro other same isFuture
          cases isSupplied.symm.trans same
          exact absurd isFuture (Int.lt_irrefl _)
        · intro exchanges isCreated
          have passed := (created_expires isCreated).1
          rw [checked] at passed
          cases passed
  | none =>
      constructor
      · intro honoured
        by_cases positive : 0 < config.exchangeTtl
        · exact .inl positive
        · right
          intro exchanges isCreated
          rw [List.eq_nil_iff_forall_not_mem]
          intro exchange member
          have isFuture := (honoured.created exchanges isCreated exchange member).2.1
          rw [(created_expires isCreated).2 isSupplied exchange member, lt_lifetime] at isFuture
          exact positive isFuture
      · intro fits
        refine ⟨fun _ same => ?_, fun _ same => ?_, ?_⟩
        · cases isSupplied.symm.trans same
        · cases isSupplied.symm.trans same
        · intro exchanges isCreated exchange member
          have positive : 0 < config.exchangeTtl := by
            rcases fits with positive | nothing
            · exact positive
            · rw [nothing exchanges isCreated] at member
              cases member
          have isFuture : time < exchange.expires := by
            rw [(created_expires isCreated).2 isSupplied exchange member]
            exact lt_lifetime.mpr positive
          refine ⟨?_, isFuture, lt_storeTtl.mpr isFuture⟩
          intro supplied same
          cases isSupplied.symm.trans same

/-! ## A date in the future -/

def datedRuntime : Runtime :=
  { Runtime.plain with
    parseDatetime := fun text =>
      if text = "2030-01-01T00:00:00Z" then some 1893456000000 else none }

def didAuthUntil2030 : Json :=
  .obj [("variables", .obj []), ("expires", .str "2030-01-01T00:00:00Z")]

/-- A request of 2027 for an exchange that lasts until 2030 is refused; in 2033 it
creates an exchange that has expired. -/
theorem future_expiry_refused :
    ¬ ExpiryHonoured datedRuntime {} Answers.plain 1800000000000 (.single "didAuth" none)
        didAuthUntil2030 ∧
      ¬ ExpiryHonoured datedRuntime {} Answers.plain 2000000000000 (.single "didAuth" none)
        didAuthUntil2030 := by
  constructor
  · intro honoured
    exact absurd (honoured.future 1893456000000 rfl (by decide)) (by decide)
  · intro honoured
    exact absurd (honoured.past 1893456000000 rfl (by decide)) (by decide)

end

end TransactionService.CreationExpiry
