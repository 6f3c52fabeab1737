import TransactionService.Routes.Creation
import TransactionService.Workflows.WorkflowSchemas

namespace TransactionService.DcqlQuery

open Schema WorkflowSchemas

/-! # The DCQL query of an authorization request

Which claims a verify exchange may ask for, and which of them the query can
carry. -/

/-! ## Schemas -/

def isScalar : Json → Bool
  | .str _ => true
  | .num _ => true
  | .bool _ => true
  | _ => false

def dcqlClaimSchema (value : Json) : Bool :=
  isRecord value &&
  optional value "id" isNonemptyText &&
  required value "path" (isNonemptyArrayOf Json.isString) &&
  optional value "values" (isArrayOf isScalar)

/-- `/^[a-zA-Z0-9_-]+$/`. -/
def isQueryId : Json → Bool
  | .str text => decide (text ≠ "") && text.toList.all fun character =>
      character.isAlphanum || character = '_' || character = '-'
  | _ => false

def dcqlMetaSchema (value : Json) : Bool :=
  isRecord value &&
  required value "type_values" (isNonemptyArrayOf (isNonemptyArrayOf Json.isString))

def dcqlCredentialQuerySchema (value : Json) : Bool :=
  isRecord value &&
  required value "id" isQueryId &&
  required value "format" (·.isText "ldp_vc") &&
  required value "meta" dcqlMetaSchema &&
  optional value "claims" (isNonemptyArrayOf dcqlClaimSchema)

def dcqlQuerySchema (value : Json) : Bool :=
  isRecord value &&
  required value "credentials" (isNonemptyArrayOf dcqlCredentialQuerySchema)

/-! ## The query -/

def dcqlCredentialQuery (vprClaims : List DcqlClaim) : Json :=
  .obj (
    [("id", .str "credential"), ("format", .str "ldp_vc"),
      ("meta", .obj [("type_values", .arr [.arr [.str vcTypeIri]])])] ++
    (if vprClaims.isEmpty then [] else [("claims", .arr (vprClaims.map toDcqlClaim))]))

def dcqlQuery (vprClaims : List DcqlClaim) : Json :=
  .obj [("credentials", .arr [dcqlCredentialQuery vprClaims])]

structure SameClaim (asked : DcqlClaim) (claim : Json) : Prop where
  path : claim.field "path" = some (textsJson asked.path)
  id : claim.field "id" = (Text.given asked.id).map Json.str
  values : claim.field "values" =
    if asked.values.getD [] = [] then none else asked.values.map textsJson

def BuiltOneToOne (vprClaims : List DcqlClaim) : Prop :=
  ∃ query credential, buildDcqlQuery vprClaims = .ok query ∧
    dcqlQuerySchema query = true ∧
    query.field "credentials" = some (.arr [credential]) ∧
    (credential.field "claims" = none ↔ vprClaims = []) ∧
    (vprClaims ≠ [] → ∃ claims, credential.field "claims" = some (.arr claims) ∧
      List.Forall₂ SameClaim vprClaims claims)

theorem sameClaim_toDcqlClaim (claim : DcqlClaim) : SameClaim claim (toDcqlClaim claim) := by
  unfold toDcqlClaim
  constructor
  · cases Text.given claim.id <;> simp [Json.field, List.lookup_cons, textsJson]
  · cases Text.given claim.id <;> cases claim.values.getD [] <;>
      simp [Json.field, List.lookup_cons]
  · cases isValues : claim.values with
    | none => cases Text.given claim.id <;> simp [Json.field, List.lookup_cons]
    | some values =>
        cases values <;> cases Text.given claim.id <;>
          simp [Json.field, List.lookup_cons, textsJson]

private theorem dcqlClaimSchema_toDcqlClaim (claim : DcqlClaim) :
    dcqlClaimSchema (toDcqlClaim claim) = !claim.path.isEmpty := by
  rcases sameClaim_toDcqlClaim claim with ⟨path, id, values⟩
  have isObject : isRecord (toDcqlClaim claim) = true := rfl
  have idFits : optional (toDcqlClaim claim) "id" isNonemptyText = true := by
    rw [Schema.optional, id]
    cases isGiven : Text.given claim.id with
    | none => rfl
    | some text =>
        have nonempty := (Option.filter_eq_some_iff.mp isGiven).2
        simpa [isNonemptyText] using nonempty
  have pathFits : required (toDcqlClaim claim) "path" (isNonemptyArrayOf Json.isString) =
      !claim.path.isEmpty := by
    rw [required, path]
    simp [isNonemptyArrayOf, isArrayOf, textsJson, Json.arrayOf, Json.isString, Json.asString?]
  have valuesFit : optional (toDcqlClaim claim) "values" (isArrayOf isScalar) = true := by
    rw [Schema.optional, values]
    split
    · rfl
    · cases claim.values with
      | none => rfl
      | some texts => simp [textsJson, isArrayOf, isScalar]
  rw [dcqlClaimSchema, isObject, idFits, pathFits, valuesFit]
  simp

theorem dcqlQuerySchema_dcqlQuery (vprClaims : List DcqlClaim) :
    dcqlQuerySchema (dcqlQuery vprClaims) = !vprClaims.any (·.path.isEmpty) := by
  cases vprClaims with
  | nil => decide
  | cons first rest =>
      have onClaims : dcqlQuerySchema (dcqlQuery (first :: rest)) =
          isNonemptyArrayOf dcqlClaimSchema (.arr ((first :: rest).map toDcqlClaim)) := by
        have idFits : isQueryId (.str "credential") = true := by decide
        have metaFits : dcqlMetaSchema (.obj [("type_values",
            .arr [.arr [.str vcTypeIri]])]) = true := by decide
        simp [dcqlQuerySchema, dcqlQuery, dcqlCredentialQuery, dcqlCredentialQuerySchema,
          isRecord, required, Schema.optional, Json.field, List.lookup_cons, idFits, metaFits,
          isNonemptyArrayOf, isArrayOf, Json.arrayOf]
      rw [onClaims, List.not_any_eq_all_not]
      simp [isNonemptyArrayOf, isArrayOf, Json.arrayOf, dcqlClaimSchema_toDcqlClaim,
        Function.comp_def]

/-- `dcqlQuerySchema.parse(query)`. -/
theorem buildDcqlQuery_parses (vprClaims : List DcqlClaim) :
    buildDcqlQuery vprClaims =
      if dcqlQuerySchema (dcqlQuery vprClaims) then .ok (dcqlQuery vprClaims)
      else .error .zodError := by
  rw [dcqlQuerySchema_dcqlQuery]
  unfold buildDcqlQuery
  cases vprClaims.any (·.path.isEmpty) <;> rfl

theorem claims_dcqlCredentialQuery (vprClaims : List DcqlClaim) :
    (dcqlCredentialQuery vprClaims).field "claims" =
      if vprClaims = [] then none else some (.arr (vprClaims.map toDcqlClaim)) := by
  cases vprClaims <;> simp [dcqlCredentialQuery, Json.field, List.lookup_cons]

theorem builtOneToOne_iff {vprClaims : List DcqlClaim} :
    BuiltOneToOne vprClaims ↔ ∀ claim ∈ vprClaims, claim.path ≠ [] := by
  have fits : dcqlQuerySchema (dcqlQuery vprClaims) = true ↔
      ∀ claim ∈ vprClaims, claim.path ≠ [] := by
    rw [dcqlQuerySchema_dcqlQuery]
    simp
  constructor
  · rintro ⟨query, _, isBuilt, isFitting, -⟩
    rw [buildDcqlQuery_parses] at isBuilt
    split at isBuilt
    · rename_i isParsed
      exact fits.mp isParsed
    · cases isBuilt
  · intro paths
    have isFitting := fits.mpr paths
    have isBuilt : buildDcqlQuery vprClaims = .ok (dcqlQuery vprClaims) := by
      rw [buildDcqlQuery_parses, if_pos isFitting]
    refine ⟨_, dcqlCredentialQuery vprClaims, isBuilt, isFitting, rfl, ?_, ?_⟩
    · rw [claims_dcqlCredentialQuery]
      simp
    · intro nonempty
      refine ⟨_, (claims_dcqlCredentialQuery vprClaims).trans (if_neg nonempty), ?_⟩
      rw [List.forall₂_map_right_iff, List.forall₂_same]
      exact fun claim _ => sameClaim_toDcqlClaim claim

/-- The query of a new exchange is built, claim by claim, exactly when every claim
of the request has a path that is not empty. -/
theorem built_one_to_one_iff (config : Config) (answers : Answers) (data : VerifyCreateData) :
    BuiltOneToOne (createExchangeVerify config answers data).vars.vprClaims ↔
      ∀ claim, some claim ∈ data.vprClaims → claim.path ≠ [] := by
  have isKept : (createExchangeVerify config answers data).vars.vprClaims =
      data.vprClaims.filterMap id := rfl
  rw [builtOneToOne_iff, isKept]
  simp

/-! ## A claim without a path -/

def verifyEmptyPath : Json :=
  .obj [("variables", .obj [("vprContext", .arr []), ("vprCredentialType", .arr []),
    ("vprClaims", .arr [.obj [("path", .arr []), ("values", .arr [])]])])]

/-- The claim is accepted and the exchange created, but no authorization request
can be made for it. -/
theorem empty_path_unbuildable :
    ∃ data detail, exchangeCreateSchemaVerify Runtime.plain 0 verifyEmptyPath = .ok data ∧
      createdByRequest Runtime.plain {} Answers.plain "verify" none (some verifyEmptyPath) =
        .ok (.verify detail) ∧
      ¬ BuiltOneToOne detail.vars.vprClaims ∧
      ¬ BuiltOneToOne (createExchangeVerify {} Answers.plain data).vars.vprClaims := by
  refine ⟨_, _, rfl, rfl, ?_, ?_⟩
  · rintro ⟨_, _, isBuilt, -⟩
    cases isBuilt
  · rintro ⟨_, _, isBuilt, -⟩
    cases isBuilt

end TransactionService.DcqlQuery
