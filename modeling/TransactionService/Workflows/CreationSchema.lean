import TransactionService.Validation
import TransactionService.Workflows.ClaimWorkflow

namespace TransactionService

/-! # What a creation request may ask for

`schema.ts`, and the schemas by which the three workflows extend it. A schema
keeps only the members it declares. -/

namespace Schema

/-! ## Reading members -/

def optionalMember (value : Json) (name : String) (read : Json → Option α) :
    Option (Option α) :=
  match value.field name with
  | none => some none
  | some member => (read member).map some

def requiredMember (value : Json) (name : String) (read : Json → Option α) : Option α :=
  (value.field name).bind read

def readArray (read : Json → Option α) : Json → Option (List α)
  | .arr items => items.mapM read
  | _ => none

def readTexts : Json → Option (List String) :=
  readArray Json.asString?

def readBool : Json → Option Bool
  | .bool value => some value
  | _ => none

def orZodError : Option α → Except Thrown α
  | some value => .ok value
  | none => .error .zodError

theorem orZodError_eq_ok {result : Option α} {value : α} :
    orZodError result = .ok value ↔ result = some value := by
  cases result <;> simp [orZodError]

theorem orZodError_refused {result : Option α}
    (refused : ∀ value, orZodError result ≠ .ok value) :
    orZodError result = .error .zodError := by
  cases result with
  | none => rfl
  | some value => exact absurd rfl (refused value)

end Schema

open Schema

/-! ## Variables -/

/-- `verifierOptionsSchema`, which refuses unknown members. -/
def verifierOptionsSchema : Json → Option VerifierOptions
  | .obj members =>
      if members.all fun entry => ["verbose", "timing"].contains entry.1 then do
        let verbose ← optionalMember (.obj members) "verbose" readBool
        let timing ← optionalMember (.obj members) "timing" readBool
        return { verbose, timing }
      else none
  | _ => none

/-- A claim asked for; the base schema does not keep its `id`. -/
def vprClaimSchema (value : Json) : Option DcqlClaim := do
  let path ← requiredMember value "path" readTexts
  let values ← requiredMember value "values" readTexts
  return { path, values := some values }

structure VariablesInput where
  exchangeHost : String
  tenantName : Option String := none
  batchId : Option String := none
  retrievalId : Option String := none
  metadata : Option Json := none
  debug : Option Bool := none
  options : Option VerifierOptions := none
  vc : Option String := none
  /-- Not among the base variables: only a batch gets this far with it. -/
  subjectData : Option Json := none
  vprContext : Option (List String) := none
  vprCredentialType : Option (List String) := none
  trustedIssuers : Option (List String) := none
  trustedRegistries : Option (List String) := none
  vprClaims : Option (List DcqlClaim) := none

def defaultExchangeHost (runtime : Runtime) : String :=
  (runtime.env "DEFAULT_EXCHANGE_HOST").getD "http://localhost:4004"

def baseVariablesSchema (runtime : Runtime) (value : Json) : Option VariablesInput :=
  if !isRecord value then none
  else do
    let exchangeHost ← optionalMember value "exchangeHost" Json.asString?
    let tenantName ← optionalMember value "tenantName" Json.asString?
    let batchId ← optionalMember value "batchId" Json.asString?
    let retrievalId ← optionalMember value "retrievalId" Json.asString?
    let debug ← optionalMember value "debug" readBool
    let options ← optionalMember value "options" verifierOptionsSchema
    let vc ← optionalMember value "vc" Json.asString?
    let vprContext ← optionalMember value "vprContext" readTexts
    let vprCredentialType ← optionalMember value "vprCredentialType" readTexts
    let trustedIssuers ← optionalMember value "trustedIssuers" readTexts
    let trustedRegistries ← optionalMember value "trustedRegistries" readTexts
    let vprClaims ← optionalMember value "vprClaims" (readArray vprClaimSchema)
    return {
      exchangeHost := exchangeHost.getD (defaultExchangeHost runtime)
      tenantName, batchId, retrievalId
      metadata := value.field "metadata"
      debug, options, vc, vprContext, vprCredentialType, trustedIssuers,
      trustedRegistries, vprClaims }

def VariablesInput.vprVariables (vars : VariablesInput) : List (String × Json) :=
  let texts := fun items : List String => Json.arr (items.map Json.str)
  let claim := fun asked : DcqlClaim =>
    Json.obj [("path", texts asked.path), ("values", texts (asked.values.getD []))]
  [("vprContext", vars.vprContext.map texts),
    ("vprCredentialType", vars.vprCredentialType.map texts),
    ("trustedIssuers", vars.trustedIssuers.map texts),
    ("trustedRegistries", vars.trustedRegistries.map texts),
    ("vprClaims", vars.vprClaims.map fun claims => Json.arr (claims.map claim))].filterMap
      fun entry => entry.2.map fun value => (entry.1, value)

def VariablesInput.vcVariable (vars : VariablesInput) : List (String × Json) :=
  vars.vc.toList.map fun vc => ("vc", .str vc)

/-! ## Single exchanges -/

structure ExchangeCreateInput where
  vars : VariablesInput
  expires : Option Timestamp := none

/-- Despite its name the check accepts dates that have passed. -/
def optionalFutureDate (now : Timestamp) (date : Option Timestamp) : Bool :=
  date.all (· < now)

def expiresSchema (runtime : Runtime) (now : Timestamp) (value : Json) :
    Option (Option Timestamp) := do
  let expires ← optionalMember value "expires" fun text =>
    text.asString?.bind runtime.parseDatetime
  if optionalFutureDate now expires then some expires else none

def vcApiExchangeCreateSchema (runtime : Runtime) (now : Timestamp) (body : Json) :
    Except Thrown ExchangeCreateInput :=
  orZodError do
    let vars ← requiredMember body "variables" (baseVariablesSchema runtime)
    let expires ← expiresSchema runtime now body
    return { vars, expires }

def ExchangeCreateInput.createData (input : ExchangeCreateInput)
    (others : List (String × Json)) : ExchangeCreateData where
  expires := input.expires
  exchangeHost := input.vars.exchangeHost
  tenantName := input.vars.tenantName
  batchId := input.vars.batchId
  retrievalId := input.vars.retrievalId
  metadata := input.vars.metadata
  debug := input.vars.debug
  options := input.vars.options
  others := others

def ExchangeCreateInput.didAuthData (input : ExchangeCreateInput) : ExchangeCreateData :=
  input.createData (input.vars.vcVariable ++ input.vars.vprVariables)

/-! Data that has passed the general schema can fail only what a workflow adds,
and the date, which is compared with a later reading of the clock. -/

def validateExchangeDidAuth (now : Timestamp) (input : ExchangeCreateInput) :
    Except Thrown ExchangeCreateData :=
  orZodError (if optionalFutureDate now input.expires then some input.didAuthData else none)

def subjectDataSchema : Json → Option Json
  | .obj members => some (.obj (zodRecord members))
  | _ => none

def validateExchangeClaim (runtime : Runtime) (now : Timestamp)
    (input : ExchangeCreateInput) : Except Thrown ClaimCreateData :=
  orZodError do
    let vc ← input.vars.vc
    let subjectData ← match input.vars.subjectData with
      | none => some none
      | some value => (subjectDataSchema value).map some
    if optionalFutureDate now input.expires && isCredentialTemplate runtime vc then
      some {
        toExchangeCreateData := input.createData input.vars.vprVariables
        vc, subjectData }
    else none

def validateExchangeVerify (runtime : Runtime) (now : Timestamp)
    (input : ExchangeCreateInput) : Except Thrown VerifyCreateData :=
  orZodError do
    let vprContext ← input.vars.vprContext
    let vprCredentialType ← input.vars.vprCredentialType
    let vprClaims ← input.vars.vprClaims
    if optionalFutureDate now input.expires && vprContext.all runtime.isUrl then
      some {
        toExchangeCreateData := input.createData input.vars.vcVariable
        vprContext, vprCredentialType
        trustedIssuers := input.vars.trustedIssuers
        trustedRegistries := input.vars.trustedRegistries
        vprClaims := vprClaims.map some }
    else none

/-! ## What a workflow accepts -/

section

variable {runtime : Runtime} {now : Timestamp} {input : ExchangeCreateInput}

theorem validateExchangeClaim_ok {data : ClaimCreateData}
    (validated : validateExchangeClaim runtime now input = .ok data) :
    ∃ vc subjectData, input.vars.vc = some vc ∧ isCredentialTemplate runtime vc = true ∧
      optionalFutureDate now input.expires = true ∧
      (input.vars.subjectData = none → subjectData = none) ∧
      data = {
        toExchangeCreateData := input.createData input.vars.vprVariables
        vc, subjectData } := by
  rcases Option.bind_eq_some_iff.mp (orZodError_eq_ok.mp validated) with ⟨vc, isVc, afterVc⟩
  have checked : ∃ subjectData, (input.vars.subjectData = none → subjectData = none) ∧
      (if optionalFutureDate now input.expires && isCredentialTemplate runtime vc then
        some {
          toExchangeCreateData := input.createData input.vars.vprVariables
          vc, subjectData : ClaimCreateData }
      else none) = some data := by
    cases isSubject : input.vars.subjectData with
    | none =>
        rw [isSubject] at afterVc
        exact ⟨none, fun _ => rfl, afterVc⟩
    | some value =>
        rw [isSubject] at afterVc
        rcases Option.bind_eq_some_iff.mp afterVc with ⟨subjectData, -, later⟩
        exact ⟨subjectData, fun absent => (nomatch absent), later⟩
  rcases checked with ⟨subjectData, absent, checked⟩
  split at checked
  · rename_i both
    rw [Bool.and_eq_true] at both
    cases checked
    exact ⟨vc, subjectData, isVc, both.2, both.1, absent, rfl⟩
  · cases checked

theorem validateExchangeClaim_accepts {vc : String} (isVc : input.vars.vc = some vc)
    (noSubject : input.vars.subjectData = none)
    (inTime : optionalFutureDate now input.expires = true)
    (isTemplate : isCredentialTemplate runtime vc = true) :
    validateExchangeClaim runtime now input = .ok {
      toExchangeCreateData := input.createData input.vars.vprVariables, vc } := by
  unfold validateExchangeClaim
  simp only [isVc, noSubject, inTime, isTemplate, Option.bind_eq_bind, Option.bind_some,
    Bool.and_self, if_true]
  rfl

theorem validateExchangeVerify_eq_ok {data : VerifyCreateData} :
    validateExchangeVerify runtime now input = .ok data ↔
      ∃ vprContext vprCredentialType vprClaims,
        input.vars.vprContext = some vprContext ∧
        input.vars.vprCredentialType = some vprCredentialType ∧
        input.vars.vprClaims = some vprClaims ∧
        optionalFutureDate now input.expires = true ∧
        vprContext.all runtime.isUrl = true ∧
        data = {
          toExchangeCreateData := input.createData input.vars.vcVariable
          vprContext, vprCredentialType
          trustedIssuers := input.vars.trustedIssuers
          trustedRegistries := input.vars.trustedRegistries
          vprClaims := vprClaims.map some } := by
  unfold validateExchangeVerify
  rw [orZodError_eq_ok]
  cases input.vars.vprContext with
  | none => simp
  | some vprContext =>
      cases input.vars.vprCredentialType with
      | none => simp
      | some vprCredentialType =>
          cases input.vars.vprClaims with
          | none => simp
          | some vprClaims =>
              simp only [Option.bind_eq_bind, Option.bind_some, Option.ite_none_right_eq_some,
                Bool.and_eq_true, Option.some.injEq]
              constructor
              · rintro ⟨⟨inTime, urls⟩, rfl⟩
                exact ⟨_, _, _, rfl, rfl, rfl, inTime, urls, rfl⟩
              · rintro ⟨_, _, _, rfl, rfl, rfl, inTime, urls, rfl⟩
                exact ⟨⟨inTime, urls⟩, rfl⟩

end

/-! ## Batches -/

/-- `redirectUrl` is checked and handed on, but no schema registers it. -/
structure CredentialData where
  vc : Option String := none
  subjectData : Option Json := none
  retrievalId : String
  metadata : Option Json := none

/-- A template given as an object loses its members before it becomes text. -/
def credentialVcSchema (runtime : Runtime) : Json → Option String
  | .str text => some text
  | .obj _ => some (runtime.stringify (.obj []))
  | _ => none

def credentialDataSchema (runtime : Runtime) (value : Json) : Option CredentialData := do
  let vc ← optionalMember value "vc" (credentialVcSchema runtime)
  let retrievalId ← requiredMember value "retrievalId" Json.asString?
  let _redirectUrl ← optionalMember value "redirectUrl" Json.asString?
  let subjectData := value.field "subjectData"
  if vc.isSome || subjectData.isSome then
    some { vc, subjectData, retrievalId, metadata := value.field "metadata" }
  else none

structure ExchangeBatch where
  exchangeHost : String
  tenantName : Option String := none
  batchId : Option String := none
  workflowId : Option WorkflowId := none
  data : List CredentialData

def batchWorkflowSchema (value : Json) : Option WorkflowId :=
  if value.isText "didAuth" then some .didAuth
  else if value.isText "claim" then some .claim
  else none

/-- An expiry is checked, but not kept. -/
def exchangeBatchSchema (runtime : Runtime) (now : Timestamp) (body : Json) :
    Except Thrown ExchangeBatch :=
  orZodError do
    let exchangeHost ← requiredMember body "exchangeHost" Json.asString?
    let tenantName ← optionalMember body "tenantName" Json.asString?
    let batchId ← optionalMember body "batchId" Json.asString?
    let workflowId ← optionalMember body "workflowId" batchWorkflowSchema
    let data ← requiredMember body "data" (readArray (credentialDataSchema runtime))
    let _expires ← expiresSchema runtime now body
    if data.any (·.subjectData.isSome) = (Text.given batchId).isSome then
      some { exchangeHost, tenantName, batchId, workflowId, data }
    else none

end TransactionService
