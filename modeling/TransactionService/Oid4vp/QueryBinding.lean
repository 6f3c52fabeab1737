import TransactionService.Oid4vp.ReplayGuard

namespace TransactionService.QueryBinding

open ReplayGuard

/-! # The presentation that answers the query

An authorization request asks for one credential under an id. A response carries
presentations under keys of the wallet's choice. -/

def issuedQueryId : String := "credential"

def queryIds (request : Json) : List String :=
  match (request.field "dcql_query").bind fun query => query.field "credentials" with
  | some (.arr queries) => queries.filterMap fun query =>
      (query.field "id").bind Json.asString?
  | _ => []

section

variable (runtime : Runtime) (body : Option Json) (exchange : ExchangeDetailVerify)

/-- The presentation that passes the checks and goes to the verifier is the first
one under the id of the query. -/
def PresentsIssued : Prop :=
  ∃ posted parsed presentation working others, body = some posted ∧
    parseDirectPost (coerceBody runtime posted) = some parsed ∧
    acceptDirectPost runtime body exchange = .ok (presentation, working) ∧
    parsed.vpToken.lookup issuedQueryId = some (.arr (presentation :: others))

def KeyFirst (vpToken : List (String × Json)) : Prop :=
  (enumerate vpToken).head?.map Prod.fst = some issuedQueryId

def BeginsAlike (vpToken : List (String × Json)) : Prop :=
  ∃ key presentation others rest issued,
    enumerate vpToken = (key, .arr (presentation :: others)) :: rest ∧
    vpToken.lookup issuedQueryId = some (.arr (presentation :: issued))

def IssuedFirst : Prop :=
  ∃ posted parsed, body = some posted ∧
    parseDirectPost (coerceBody runtime posted) = some parsed ∧
    (KeyFirst parsed.vpToken ∨ BeginsAlike parsed.vpToken)

end

section

variable {runtime : Runtime} {config : Config} {answers : Answers} {body : Option Json}
  {exchange : ExchangeDetailVerify}

private theorem queryIds_request {request : Json}
    (built : buildAuthorizationRequest runtime exchange = .ok request) :
    queryIds request = [issuedQueryId] := by
  rcases Fallible.bind_eq_ok.mp built with ⟨query, isQuery, later⟩
  unfold buildDcqlQuery at isQuery
  split at isQuery
  · cases isQuery
  · cases isQuery
    split at later
    · cases later
    · split at later
      · cases later
      · cases later
        cases Text.given (oid4vpState exchange).state <;>
          simp [queryIds, Json.field, List.lookup_cons, Json.asString?, issuedQueryId]

theorem noIndex_issuedQueryId : arrayIndex? issuedQueryId = none := by
  have member : 'c' ∈ issuedQueryId.toList := by decide
  exact arrayIndex?_eq_none member (by decide)

private theorem firstPresentation_ok {vpToken : List (String × Json)} {presentation : Json}
    (first : firstPresentation vpToken = some presentation) :
    ∃ key others rest, enumerate vpToken = (key, .arr (presentation :: others)) :: rest := by
  unfold firstPresentation objectValues at first
  cases entries : enumerate vpToken with
  | nil =>
      rw [entries] at first
      cases first
  | cons entry rest =>
      rcases entry with ⟨key, value⟩
      rw [entries] at first
      cases value with
      | arr items =>
          cases items with
          | nil => cases first
          | cons vp others =>
              have isFirst : (if vp.isObjectLike then some vp else none) =
                  some presentation := first
              split at isFirst
              · cases isFirst
                exact ⟨key, others, rest, rfl⟩
              · cases isFirst
      | _ => cases first

/-- Every request asks under one id, and an accepted response presents what was
asked for exactly when that id is the first key, or stands for the same presentation
as the first key. -/
theorem presents_issued_iff {response : Response}
    (answered : (handleOid4vpResponse runtime config answers body exchange).result =
      .ok response) (success : response.status = 200) :
    (∀ request, buildAuthorizationRequest runtime exchange = .ok request →
      queryIds request = [issuedQueryId]) ∧
    (PresentsIssued runtime body exchange ↔ IssuedFirst runtime body) := by
  refine ⟨fun _ built => queryIds_request built, ?_⟩
  rcases handleOid4vpResponse_succeeds runtime config answers answered success with
    ⟨presentation, working, -, accepted, -⟩
  rcases acceptDirectPost_ok runtime accepted with
    ⟨posted, parsed, rfl, isParsed, -, first, -⟩
  rcases firstPresentation_ok first with ⟨key, others, rest, entries⟩
  constructor
  · rintro ⟨_, otherParsed, otherPresentation, _, issued, same, alsoParsed, alsoAccepted,
      found⟩
    cases same
    cases isParsed.symm.trans alsoParsed
    cases accepted.symm.trans alsoAccepted
    exact ⟨posted, parsed, rfl, isParsed, .inr ⟨key, _, others, rest, issued, entries, found⟩⟩
  · rintro ⟨_, otherParsed, same, alsoParsed, keyFirst | beginsAlike⟩
    · cases same
      cases isParsed.symm.trans alsoParsed
      have isKey : key = issuedQueryId := by
        rw [KeyFirst, entries] at keyFirst
        exact Option.some.inj keyFirst
      rw [isKey] at entries
      have found := lookup_of_enumerate noIndex_issuedQueryId entries
      exact ⟨posted, parsed, presentation, working, others, rfl, isParsed, accepted, found⟩
    · cases same
      cases isParsed.symm.trans alsoParsed
      rcases beginsAlike with ⟨_, _, _, _, issued, sameEntries, found⟩
      cases entries.symm.trans sameEntries
      exact ⟨posted, parsed, presentation, working, issued, rfl, isParsed, accepted, found⟩

end

/-! ## A presentation under another key -/

def responseUnder (key : String) : Json :=
  .obj [
    ("vp_token", .obj [(key, .arr [postedPresentation])]),
    ("state", .str "state-1")]

def askedExchange : ExchangeDetailVerify :=
  withMintedState mintingAnswers (createdVerify [])

theorem responseUnder_parsed {key : String} (named : key ≠ "__proto__") :
    parseDirectPost (coerceBody Runtime.plain (responseUnder key)) = some {
      vpToken := [(key, .arr [postedPresentation])]
      state := some "state-1" } := by
  have kept : zodRecord [(key, Json.arr [postedPresentation])] =
      [(key, .arr [postedPresentation])] := by simp [zodRecord, named]
  have parsed : parseDirectPost (coerceBody Runtime.plain (responseUnder key)) = some {
      vpToken := zodRecord [(key, .arr [postedPresentation])]
      state := some "state-1" } := rfl
  rw [parsed, kept]

theorem responseUnder_accepted {key : String} (named : key ≠ "__proto__") :
    ∃ response, (handleOid4vpResponse Runtime.plain {} mintingAnswers
      (some (responseUnder key)) askedExchange).result = .ok response ∧
      response.status = 200 := by
  have accepted : acceptDirectPost Runtime.plain (some (responseUnder key)) askedExchange =
      .ok _ :=
    acceptDirectPost_posted [] (responseUnder_parsed named) (firstPresentation_posted key)
  unfold handleOid4vpResponse
  rw [accepted]
  exact ⟨_, rfl, rfl⟩

theorem own_key_presents :
    PresentsIssued Runtime.plain (some (responseUnder "credential")) askedExchange := by
  have named : "credential" ≠ "__proto__" := by decide
  rcases responseUnder_accepted named with ⟨response, answered, success⟩
  refine (presents_issued_iff answered success).2.mpr
    ⟨_, _, rfl, responseUnder_parsed named, .inl ?_⟩
  have entries : enumerate [("credential", Json.arr [postedPresentation])] =
      [("credential", .arr [postedPresentation])] := by
    have others := noIndex_issuedQueryId
    simp only [issuedQueryId] at others
    simp [enumerate, others]
  rw [KeyFirst, entries]
  rfl

/-- A response with no entry for the query is accepted. -/
theorem other_key_accepted :
    (∃ response, (handleOid4vpResponse Runtime.plain {} mintingAnswers
        (some (responseUnder "other")) askedExchange).result = .ok response ∧
      response.status = 200) ∧
      ¬ PresentsIssued Runtime.plain (some (responseUnder "other")) askedExchange := by
  refine ⟨responseUnder_accepted (by decide), ?_⟩
  rintro ⟨_, parsed, _, _, _, same, isParsed, -, found⟩
  cases same
  rw [responseUnder_parsed (by decide)] at isParsed
  cases isParsed
  cases found

end TransactionService.QueryBinding
