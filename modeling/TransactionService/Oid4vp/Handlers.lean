import TransactionService.Oid4vci.Handlers
import TransactionService.Oid4vp.State
import TransactionService.Workflows.VerifySubmission

namespace TransactionService

/-! # OID4VP endpoints

The authorization request and the `direct_post` response. -/

def responseUriForExchange (exchange : ExchangeDetailVerify) : String :=
  exchangeUrl (.verify exchange) ++ "/openid4vp/response"

def requestUriForExchange (exchange : ExchangeDetailVerify) : String :=
  exchangeUrl (.verify exchange) ++ "/openid4vp/request"

def clientIdForExchange (exchange : ExchangeDetailVerify) : String :=
  "redirect_uri:" ++ responseUriForExchange exchange

/-! ## Authorization request -/

def vcTypeIri : String := "https://www.w3.org/2018/credentials#VerifiableCredential"

def toDcqlClaim (claim : DcqlClaim) : Json :=
  .obj (
    (match Text.given claim.id with
      | some id => [("id", .str id)]
      | none => []) ++
    [("path", .arr (claim.path.map Json.str))] ++
    (match claim.values.getD [] with
      | [] => []
      | values => [("values", .arr (values.map Json.str))]))

/-- The schema rejects a claim with an empty path. -/
def buildDcqlQuery (vprClaims : List DcqlClaim) : Except Thrown Json :=
  if vprClaims.any (·.path.isEmpty) then .error .zodError
  else .ok (.obj [("credentials", .arr [.obj (
    [("id", .str "credential"), ("format", .str "ldp_vc"),
      ("meta", .obj [("type_values", .arr [.arr [.str vcTypeIri]])])] ++
    (if vprClaims.isEmpty then []
      else [("claims", .arr (vprClaims.map toDcqlClaim))]))])])

/-- The Data Integrity suites among those this service can verify. -/
def oid4vpCryptosuiteValues : Json :=
  .arr [.str "eddsa-rdfc-2022", .str "ecdsa-rdfc-2019"]

def vpFormat : Json :=
  .obj [
    ("proof_type_values", .arr [.str "DataIntegrityProof"]),
    ("cryptosuite_values", oid4vpCryptosuiteValues)]

def buildAuthorizationRequest (runtime : Runtime) (exchange : ExchangeDetailVerify) :
    Except Thrown Json := do
  let dcqlQuery ← buildDcqlQuery exchange.vars.vprClaims
  if !runtime.isUrl (responseUriForExchange exchange) then .error .zodError
  else if exchange.vars.challenge = "" then .error .zodError
  else return .obj (
    [("response_type", .str "vp_token"),
      ("response_mode", .str "direct_post"),
      ("client_id", .str (clientIdForExchange exchange)),
      ("response_uri", .str (responseUriForExchange exchange)),
      ("nonce", .str exchange.vars.challenge)] ++
    (match Text.given (oid4vpState exchange).state with
      | some state => [("state", Json.str state)]
      | none => []) ++
    [("dcql_query", dcqlQuery),
      ("client_metadata", .obj [("vp_formats_supported",
        .obj [("ldp_vc", vpFormat), ("ldp_vp", vpFormat)])])])

/-! ## Audience binding -/

def proofsOf (vp : Json) : List Json :=
  match vp.field "proof" with
  | some (.arr proofs) => proofs.filter Json.isObjectLike
  | some proof => if proof.isObjectLike then [proof] else []
  | none => []

def bindsAudience (vp : Json) (expectedClientId : String) : Bool :=
  (proofsOf vp).any fun proof =>
    match proof.field "domain" with
    | some (.arr domains) => Json.includesText domains expectedClientId
    | some domain => domain.isText expectedClientId
    | none => false

/-! ## The direct_post response -/

/-- In a form post the token arrives as JSON text. -/
def coerceBody (runtime : Runtime) (body : Json) : Json :=
  if !body.isObjectLike then body
  else
    let vpToken := match body.field "vp_token" with
      | some (.str rawToken) => some ((runtime.parseJson rawToken).getD (.str rawToken))
      | rawToken => rawToken
    .obj ((vpToken.toList.map fun token => ("vp_token", token)) ++
      ((body.field "state").toList.map fun state => ("state", state)))

structure DirectPostResponse where
  vpToken : List (String × Json)
  state : Option String

def isNonemptyArray : Json → Bool
  | .arr [] => false
  | .arr _ => true
  | _ => false

/-- `directPostResponseSchema`. -/
def parseDirectPost (body : Json) : Option DirectPostResponse :=
  match body.field "vp_token" with
  | some (.obj entries) =>
      if entries.all fun entry => isNonemptyArray entry.2 then
        match body.field "state" with
        | none => some { vpToken := zodRecord entries, state := none }
        | some (.str state) => some { vpToken := zodRecord entries, state := some state }
        | some _ => none
      else none
  | _ => none

def firstPresentation (vpToken : List (String × Json)) : Option Json :=
  match objectValues vpToken with
  | .arr (vp :: _) :: _ => if vp.isObjectLike then some vp else none
  | _ => none

section

variable (runtime : Runtime) (config : Config) (answers : Answers)

/-- The presentation of a response that passes the state and the audience check,
and the exchange marked as answered; otherwise the error response. -/
def acceptDirectPost (body : Option Json) (exchange : ExchangeDetailVerify) :
    Except Response (Json × ExchangeDetailVerify) :=
  match body.bind fun posted => parseDirectPost (coerceBody runtime posted) with
  | none => .error (errorResponse 400 "invalid_request"
      "Malformed direct_post response: expected a DCQL `vp_token` object.")
  | some parsed =>
      match consumeOid4vpResponse exchange parsed.state with
      | .error reason => .error (errorResponse 400 "invalid_request" reason)
      | .ok working =>
          match firstPresentation parsed.vpToken with
          | none => .error (errorResponse 400 "invalid_presentation"
              "vp_token contained no presentation.")
          | some presentation =>
              if bindsAudience presentation (clientIdForExchange working) then
                .ok (presentation, working)
              else .error (errorResponse 400 "invalid_presentation"
                "Presentation proof `domain` does not match the request `client_id`.")

/-- An exception with status 400 becomes an OID4VP error. -/
def presentationError : Thrown → Option Response
  | .http exception =>
      if exception.status = 400 then
        some (errorResponse 400 "invalid_presentation" exception.message)
      else none
  | _ => none

def handleOid4vpResponse (body : Option Json) (exchange : ExchangeDetailVerify) :
    Handler Response :=
  match acceptDirectPost runtime body exchange with
  | .error response => pure response
  | .ok (presentation, working) =>
      Action.recover
        (do
          let _ ← participateInVerifyExchange runtime config answers presentation working
          return json (match Text.given working.vars.redirectUrl with
            | some redirectUrl => .obj [("redirect_uri", .str redirectUrl)]
            | none => .obj []))
        presentationError

def oid4vpResponseRoute (body : Option Json) (exchange : ExchangeDetailVerify) :
    Handler Response :=
  if exchange.state = .complete then
    pure <| errorResponse 400 "invalid_request"
      "This exchange has already been completed."
  else handleOid4vpResponse runtime config answers body exchange

def oid4vpRequestRoute (exchange : ExchangeDetailVerify) : Handler Response := do
  let ensured := ensureOid4vpState answers exchange
  if ensured.2 then
    saveExchange answers (.verify ensured.1)
  let request ← Action.ofExcept (buildAuthorizationRequest runtime ensured.1)
  return json request

theorem acceptDirectPost_ok {body : Option Json} {exchange working : ExchangeDetailVerify}
    {presentation : Json}
    (accepted : acceptDirectPost runtime body exchange = .ok (presentation, working)) :
    ∃ posted parsed, body = some posted ∧
      parseDirectPost (coerceBody runtime posted) = some parsed ∧
      consumeOid4vpResponse exchange parsed.state = .ok working ∧
      firstPresentation parsed.vpToken = some presentation ∧
      bindsAudience presentation (clientIdForExchange working) = true := by
  unfold acceptDirectPost at accepted
  split at accepted
  · cases accepted
  · rename_i parsed found
    rcases Option.bind_eq_some_iff.mp found with ⟨posted, rfl, schema⟩
    split at accepted
    · cases accepted
    · rename_i consumed
      split at accepted
      · cases accepted
      · rename_i vp first
        split at accepted
        · rename_i binds
          cases accepted
          exact ⟨posted, parsed, rfl, schema, consumed, first, binds⟩
        · cases accepted

private theorem acceptDirectPost_error {body : Option Json} {exchange : ExchangeDetailVerify}
    {response : Response}
    (refused : acceptDirectPost runtime body exchange = .error response) :
    response.status = 400 := by
  unfold acceptDirectPost at refused
  repeat' split at refused
  all_goals
    cases refused
    try rfl

private theorem presentationError_status {thrown : Thrown} {response : Response}
    (answered : presentationError thrown = some response) : response.status = 400 := by
  unfold presentationError at answered
  split at answered
  · split at answered
    · cases answered
      rfl
    · cases answered
  · cases answered

theorem handleOid4vpResponse_response {body : Option Json}
    {exchange : ExchangeDetailVerify} {response : Response}
    (succeeds : (handleOid4vpResponse runtime config answers body exchange).result =
      .ok response) (success : response.status = 200) :
    ∃ presentation working value,
      acceptDirectPost runtime body exchange = .ok (presentation, working) ∧
      (participateInVerifyExchange runtime config answers presentation working).result =
        .ok value ∧
      response = json (match Text.given working.vars.redirectUrl with
        | some redirectUrl => .obj [("redirect_uri", .str redirectUrl)]
        | none => .obj []) := by
  unfold handleOid4vpResponse at succeeds
  split at succeeds
  · rename_i refused rejected
    cases succeeds
    rw [acceptDirectPost_error runtime rejected] at success
    cases success
  · rename_i presentation working accepted
    simp only [Action.recover] at succeeds
    split at succeeds
    · rename_i value answer
      rcases Action.result_bind answer with ⟨result, participated, responds⟩
      cases succeeds
      exact ⟨presentation, working, result, accepted, participated,
        (Except.ok.inj responds).symm⟩
    · split at succeeds
      · rename_i recovered
        cases succeeds
        rw [presentationError_status recovered] at success
        cases success
      · cases succeeds

theorem handleOid4vpResponse_succeeds {body : Option Json}
    {exchange : ExchangeDetailVerify} {response : Response}
    (succeeds : (handleOid4vpResponse runtime config answers body exchange).result =
      .ok response) (success : response.status = 200) :
    ∃ presentation working value,
      acceptDirectPost runtime body exchange = .ok (presentation, working) ∧
      (participateInVerifyExchange runtime config answers presentation working).result =
        .ok value := by
  rcases handleOid4vpResponse_response runtime config answers succeeds success with
    ⟨presentation, working, value, accepted, participated, -⟩
  exact ⟨presentation, working, value, accepted, participated⟩

end

end TransactionService
