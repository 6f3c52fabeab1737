import TransactionService.Http.Router
import TransactionService.Foundation.Url
import TransactionService.Oid4vci.ConfigurationIds
import TransactionService.World.IdentityFrame

namespace TransactionService.Discovery

open PathPattern Router Sessions

/-! # Where the advertised URLs lead

An exchange is found by its URLs alone: those of its protocols, of their deep links,
of its credential offer, of its metadata documents and of its authorization request. -/

def buildOid4vciAsMetadata (exchange : ExchangeDetailClaim) : Json :=
  let issuer := exchangeUrl (.claim exchange)
  .obj [
    ("issuer", .str issuer),
    ("token_endpoint", .str (issuer ++ "/openid/token")),
    ("grant_types_supported", .arr [.str preAuthorizedGrant]),
    ("response_types_supported", .arr []),
    ("token_endpoint_auth_methods_supported", .arr [.str "none"]),
    ("pre-authorized_grant_anonymous_access_supported", .bool true)]

/-! ## What a client reads -/

/-- A request that a document tells its reader to make; there is no URL when it cannot
be read. -/
structure Advertisement where
  method : Method
  url : Option String
  route : Route

def textMember (document : Json) (name : String) : Option String :=
  (document.field name).bind Json.asString?

section

variable (runtime : Runtime) (config : Config)

def lcwTarget (exchange : Exchange) (link : String) : Option String :=
  match exchange with
  | .verify _ => do
      let text ← Url.parameter "request" link
      let request ← runtime.parseJson text
      let protocols ← request.field "protocols"
      textMember protocols "vcapi"
  | _ => Url.parameter "vc_request_url" link

def serviceEndpoints (presentationRequest : Json) : List String :=
  let services := (presentationRequest.field "interact").bind (·.field "service")
  (services.toList.flatMap Json.arrayOf).filterMap (textMember · "serviceEndpoint")

def openIdAdvertisement (entry : String × Json) : Advertisement :=
  let link := entry.2.asString?
  if entry.1 = "OID4VCI" then
    ⟨.get, link.bind (Url.parameter "credential_offer_uri"), .oid4vciCredentialOffer⟩
  else
    ⟨.get, link.bind (Url.parameter "request_uri"), .oid4vpRequest⟩

def protocolsAdvertise (exchange : Exchange) (protocols : Protocols) : List Advertisement :=
  [⟨.get, some protocols.vcapi, .exchangeDetail⟩,
    ⟨.post, some protocols.vcapi, .participate⟩,
    ⟨.get, some protocols.iu, .interaction⟩,
    ⟨.post, lcwTarget runtime exchange protocols.lcw, .participate⟩] ++
  (serviceEndpoints protocols.verifiablePresentationRequest).map
    (⟨.post, some ·, .participate⟩) ++
  protocols.openId.map openIdAdvertisement

def offerAdvertises (offer : Json) : List Advertisement :=
  [⟨.get, (textMember offer "credential_issuer").map
    (Url.wellKnown "openid-credential-issuer"), .oid4vciIssuerMetadata⟩]

def metadataAdvertises (metadata : Json) : List Advertisement :=
  ((metadata.field "authorization_servers").toList.flatMap Json.arrayOf).map (fun server =>
    ⟨.get, server.asString?.map (Url.wellKnown "oauth-authorization-server"),
      .oid4vciAuthorizationServerMetadata⟩) ++
  [⟨.post, textMember metadata "credential_endpoint", .oid4vciCredential⟩,
    ⟨.post, textMember metadata "nonce_endpoint", .oid4vciNonce⟩]

/-- The client id repeats the response URI behind its scheme. -/
def requestAdvertises (request : Json) : List Advertisement :=
  [⟨.post, textMember request "response_uri", .oid4vpResponse⟩,
    ⟨.post, (textMember request "client_id").map (Text.sliceFrom "redirect_uri:".length),
      .oid4vpResponse⟩]

def ofDocument {Document : Type} (document : Except Thrown Document)
    (advertises : Document → List Advertisement) : List Advertisement :=
  match document with
  | .ok document => advertises document
  | .error _ => []

/-- Everything that the documents of an exchange advertise, as far as they can be
built. -/
def advertised (exchange : Exchange) : List Advertisement :=
  ofDocument (getProtocols runtime exchange) (protocolsAdvertise runtime exchange) ++
  match exchange with
  | .didAuth _ => []
  | .claim detail =>
      ofDocument (buildCredentialOffer runtime detail) offerAdvertises ++
      ofDocument (ConfigurationIds.buildIssuerMetadata runtime config detail)
        metadataAdvertises ++
      [⟨.post, textMember (buildOid4vciAsMetadata detail) "token_endpoint", .oid4vciToken⟩]
  | .verify detail =>
      ofDocument (buildAuthorizationRequest runtime detail) requestAdvertises

end

/-! ## Leading home -/

abbrev RouterOfRoutes := Method → List String → Option (Route × List (String × String))

/-- The request arrives at its route, and the exchange that the route finds under the
parameters of the path is the one that advertises it. -/
def LeadsHome (router : RouterOfRoutes) (stored : String → Option Exchange)
    (exchange : Exchange) (advertisement : Advertisement) : Prop :=
  ∃ url values exchangeId, advertisement.url = some url ∧
    router advertisement.method (Url.segments url) = some (advertisement.route, values) ∧
    values.lookup "exchangeId" = some exchangeId ∧
    stored exchangeId = some exchange ∧
    ∀ workflowId, values.lookup "workflowId" = some workflowId →
      addWorkflowByParam workflowId = .ok () ∧
      getExchangeData (stored exchangeId) workflowId = .ok exchange

/-- The exchange lives under a host without a path, and what is drawn for it can be
part of a URL as it is. -/
structure Addressable (exchange : Exchange) : Prop where
  host : Url.IsOrigin exchange.baseVariables.exchangeHost
  exchangeId : Url.isSegment exchange.exchangeId = true
  url : Url.isPlain (exchangeUrl exchange) = true
  challenge : Url.lacks exchange.baseVariables.challenge ['#', '&'] = true

def homeValues (exchange : Exchange) (name : String) : String :=
  if name = "workflowId" then exchange.workflowId.text else exchange.exchangeId

def homeUrl (exchange : Exchange) (pattern : List Part) : String :=
  Url.join exchange.baseVariables.exchangeHost (fill (homeValues exchange) pattern)

structure AtHome (exchange : Exchange) (advertisement : Advertisement) : Prop where
  route : ∃ pattern query, ⟨advertisement.method, pattern, advertisement.route⟩ ∈ routes ∧
    "exchangeId" ∈ parameters pattern ∧ query.head? ∈ [none, some '?'] ∧
    advertisement.url = some (homeUrl exchange pattern ++ String.ofList query)

section

variable {exchange : Exchange}

theorem isSegment_workflowId (workflowId : WorkflowId) :
    Url.isSegment workflowId.text = true := by
  cases workflowId <;> decide

theorem fill_isSegment (addressable : Addressable exchange) {pattern : List Part}
    (literals : ∀ text, .literal text ∈ pattern → Url.isSegment text = true) :
    ∀ segment ∈ fill (homeValues exchange) pattern, Url.isSegment segment = true := by
  induction pattern with
  | nil => exact fun _ member => absurd member List.not_mem_nil
  | cons part pattern induction =>
      have rest := induction fun text member => literals text (List.mem_cons_of_mem _ member)
      intro segment member
      cases part with
      | literal text =>
          rcases List.mem_cons.mp member with rfl | later
          · exact literals _ List.mem_cons_self
          · exact rest segment later
      | parameter name =>
          rcases List.mem_cons.mp member with rfl | later
          · unfold homeValues
            split
            · exact isSegment_workflowId _
            · exact addressable.exchangeId
          · exact rest segment later

theorem lookup_values {values : String → String} {names : List String} {name : String} :
    (names.map fun name => (name, values name)).lookup name =
      if name ∈ names then some (values name) else none := by
  induction names with
  | nil => rfl
  | cons first names induction =>
      by_cases same : name = first
      · subst same
        simp
      · have different : (name == first) = false := beq_eq_false_iff_ne.mpr same
        rw [List.map_cons, List.lookup_cons, different]
        simp only [induction, List.mem_cons, same, false_or]

def isLiteralSegment : Part → Bool
  | .literal text => Url.isSegment text
  | .parameter _ => true

private theorem routes_segments : ∀ route ∈ routes, "exchangeId" ∈ parameters route.pattern →
    route.pattern.all isLiteralSegment = true := by
  decide

private theorem homeUrl_segments (addressable : Addressable exchange) {pattern : List Part}
    (literals : pattern.all isLiteralSegment = true) {query : List Char}
    (ends : query.head? ∈ [none, some '?']) :
    Url.segments (homeUrl exchange pattern ++ String.ofList query) =
      fill (homeValues exchange) pattern :=
  Url.segments_join addressable.host
    (fill_isSegment addressable fun _ member => List.all_eq_true.mp literals _ member) query ends

private theorem homeValues_nonempty (addressable : Addressable exchange) (name : String) :
    homeValues exchange name ≠ "" := by
  unfold homeValues
  split
  · exact Url.isSegment_nonempty (isSegment_workflowId _)
  · exact Url.isSegment_nonempty addressable.exchangeId

private theorem leadsHome_of_atHome {router : RouterOfRoutes} (isRouter : Routes routes router)
    {stored : String → Option Exchange} (addressable : Addressable exchange)
    (found : stored exchange.exchangeId = some exchange)
    {advertisement : Advertisement} (atHome : AtHome exchange advertisement) :
    LeadsHome router stored exchange advertisement := by
  rcases atHome.route with ⟨pattern, query, member, named, ends, url⟩
  have literals := routes_segments _ member named
  have reached := isRouter.reaches routes_separate member
    (fun name _ => homeValues_nonempty addressable name)
  let values := (parameters pattern).map fun name => (name, homeValues exchange name)
  refine ⟨_, values, exchange.exchangeId, url, ?_, ?_, found, ?_⟩
  · rw [homeUrl_segments addressable literals ends]
    exact reached
  · rw [lookup_values, if_pos named]
    rfl
  · intro workflowId isGiven
    rw [lookup_values] at isGiven
    split at isGiven
    · have same : exchange.workflowId.text = workflowId := Option.some.inj isGiven
      subst same
      constructor
      · simp [addWorkflowByParam, WorkflowId.ofText?_text]
      · simp [getExchangeData, found]
    · cases isGiven

/-! ## The URLs of an exchange -/

theorem exchangeUrl_eq : exchangeUrl exchange = homeUrl exchange exchangePattern := by
  have filled : fill (homeValues exchange) exchangePattern =
      ["workflows", exchange.workflowId.text, "exchanges", exchange.exchangeId] := rfl
  have first : "/workflows/".toList = '/' :: "workflows".toList ++ ['/'] := by decide
  have second : "/exchanges/".toList = '/' :: "exchanges".toList ++ ['/'] := by decide
  apply String.toList_inj.mp
  rw [homeUrl, filled, Url.toList_join, exchangeUrl]
  simp [first, second]

private theorem fill_append (values : String → String) (pattern more : List Part) :
    fill values (pattern ++ more) = fill values pattern ++ fill values more := by
  induction pattern with
  | nil => rfl
  | cons part pattern induction => cases part <;> simp [fill, induction]

theorem exchangeUrl_append {ending : String} {first second : String}
    (isEnding : ending = "/" ++ first ++ "/" ++ second) :
    exchangeUrl exchange ++ ending =
      homeUrl exchange (exchangePattern ++ [.literal first, .literal second]) := by
  have appended : Url.join (exchangeUrl exchange) [first, second] =
      exchangeUrl exchange ++ "/" ++ first ++ "/" ++ second := rfl
  rw [homeUrl, fill_append, Url.join_append, ← homeUrl, ← exchangeUrl_eq]
  refine Eq.trans ?_ appended.symm
  simp [isEnding, String.append_assoc]

private theorem interactionUrl_eq : interactionUrl exchange =
    homeUrl exchange [.literal "interactions", .parameter "exchangeId"] ++
      String.ofList "?iuv=1".toList := by
  have filled : fill (homeValues exchange) [.literal "interactions", .parameter "exchangeId"] =
      ["interactions", exchange.exchangeId] := rfl
  have first : "/interactions/".toList = '/' :: "interactions".toList ++ ['/'] := by decide
  apply String.toList_inj.mp
  rw [homeUrl, filled, interactionUrl]
  simp [Url.toList_join, first]

theorem wellKnown_exchangeUrl (addressable : Addressable exchange) (suffix : String) :
    Url.wellKnown suffix (exchangeUrl exchange) =
      homeUrl exchange ([.literal ".well-known", .literal suffix] ++ exchangePattern) := by
  have literals : exchangePattern.all isLiteralSegment = true := by decide
  rw [exchangeUrl_eq, homeUrl, Url.wellKnown_join addressable.host
    (fill_isSegment addressable fun _ member => List.all_eq_true.mp literals _ member)]
  rfl

theorem atHome_of_url (pattern : List Part) {method : Method} {route : Route}
    {url : Option String} (member : ⟨method, pattern, route⟩ ∈ routes)
    (named : "exchangeId" ∈ parameters pattern)
    (isHome : url = some (homeUrl exchange pattern)) :
    AtHome exchange ⟨method, url, route⟩ where
  route := ⟨pattern, [], member, named, List.mem_cons_self, by simpa using isHome⟩

/-! ## Protocols -/

def lcwRequestObject (serviceEndpoint : String) : Json :=
  .obj [("protocols", .obj [("vcapi", .str serviceEndpoint)])]

/-- The runtime's own functions behave as documented. -/
structure Standard (runtime : Runtime) : Prop where
  encodes : ∀ text, runtime.encodeURIComponent text = some (Percent.encode text)
  hostname : ∀ url host, runtime.urlHostname url = some host → Url.isPlain url = true →
    Url.lacks host ['#', '&'] = true
  parses : ∀ serviceEndpoint,
    runtime.parseJson (runtime.stringify (lcwRequestObject serviceEndpoint)) =
      some (lcwRequestObject serviceEndpoint)

variable {runtime : Runtime}

theorem encodeComponent_eq (standard : Standard runtime) (text : String) :
    encodeComponent runtime text = .ok (Percent.encode text) := by
  simp [encodeComponent, standard.encodes]

theorem lcwVcapiUrl_read (standard : Standard runtime) {serviceEndpoint challenge link : String}
    (plain : Url.isPlain serviceEndpoint = true)
    (plainChallenge : Url.lacks challenge ['#', '&'] = true)
    (built : lcwVcapiUrl runtime serviceEndpoint challenge = .ok link) :
    Url.parameter "vc_request_url" link = some serviceEndpoint := by
  unfold lcwVcapiUrl at built
  rw [encodeComponent_eq standard] at built
  cases hosted : runtime.urlHostname serviceEndpoint with
  | none =>
      simp only [hostnameOf, hosted] at built
      cases built
  | some host =>
      let pairs := [("issuer", host), ("auth_type", "bearer")] ++
        (if challenge = "" then [] else [("challenge", challenge)]) ++
        [("vc_request_url", Percent.encode serviceEndpoint)]
      have written : link = Url.withParameters "https://lcw.app/request.html" pairs := by
        simp only [hostnameOf, hosted] at built
        cases built
        have issuer : "https://lcw.app/request.html?issuer=".toList =
            "https://lcw.app/request.html".toList ++ '?' :: "issuer".toList ++ ['='] := by decide
        have authType : "&auth_type=bearer".toList =
            '&' :: "auth_type".toList ++ '=' :: "bearer".toList := by decide
        have challengeName : "&challenge=".toList = '&' :: "challenge".toList ++ ['='] := by
          decide
        have requestName : "&vc_request_url=".toList =
            '&' :: "vc_request_url".toList ++ ['='] := by decide
        apply String.toList_inj.mp
        by_cases empty : challenge = ""
        · simp [pairs, empty, Url.withParameters, Url.writtenParameter, issuer, authType,
            requestName]
        · simp [pairs, empty, Url.withParameters, Url.writtenParameter, issuer, authType,
            challengeName, requestName]
      have plainHost := standard.hostname _ host hosted plain
      have areParameters : ∀ pair ∈ pairs, Url.IsParameter pair := by
        intro pair member
        simp only [pairs, List.mem_append, List.mem_cons, List.not_mem_nil, or_false] at member
        rcases member with ((rfl | rfl) | isChallenge) | rfl
        · have plainName : Url.lacks "issuer" ['#', '&', '='] = true := by decide
          exact ⟨plainName, plainHost⟩
        · exact ⟨by decide, by decide⟩
        · split at isChallenge
          · cases isChallenge
          · cases List.mem_singleton.mp isChallenge
            have plainName : Url.lacks "challenge" ['#', '&', '='] = true := by decide
            exact ⟨plainName, plainChallenge⟩
        · exact Url.isParameter_encoded (by decide) serviceEndpoint
      rw [written]
      refine Url.parameter_withParameters (by decide) areParameters ?_
      by_cases empty : challenge = ""
      · simp only [pairs, empty, if_true]
        rfl
      · simp only [pairs, empty, if_false]
        rfl

private theorem withParameters_pair {start first second firstValue secondValue : String} :
    Url.withParameters start [(first, firstValue), (second, secondValue)] =
      start ++ "?" ++ first ++ "=" ++ firstValue ++ "&" ++ second ++ "=" ++ secondValue := by
  have question : "?".toList = ['?'] := rfl
  have equals : "=".toList = ['='] := rfl
  have ampersand : "&".toList = ['&'] := rfl
  apply String.toList_inj.mp
  simp [Url.withParameters, Url.writtenParameter, question, equals, ampersand]

private theorem withParameters_one {start name value : String} :
    Url.withParameters start [(name, value)] = start ++ "?" ++ name ++ "=" ++ value := by
  have question : "?".toList = ['?'] := rfl
  have equals : "=".toList = ['='] := rfl
  apply String.toList_inj.mp
  simp [Url.withParameters, Url.writtenParameter, question, equals]

theorem oneParameter_read {start name value : String}
    (plain : Url.lacks start ['#', '?'] = true)
    (plainName : Url.lacks name ['#', '&', '='] = true) :
    Url.parameter name (start ++ "?" ++ name ++ "=" ++ Percent.encode value) = some value := by
  rw [← withParameters_one]
  apply Url.parameter_withParameters plain
  · intro pair member
    cases List.mem_singleton.mp member
    exact Url.isParameter_encoded plainName value
  · simp

private theorem lcwVcapiExchangeUrl_read (standard : Standard runtime)
    {detail : ExchangeDetailVerify}
    {serviceEndpoint link : String}
    (built : lcwVcapiExchangeUrl runtime serviceEndpoint = .ok link) :
    lcwTarget runtime (.verify detail) link = some serviceEndpoint := by
  unfold lcwVcapiExchangeUrl at built
  rw [encodeComponent_eq standard] at built
  cases built
  have read : Url.parameter "request" ("https://lcw.app/request" ++ "?" ++ "request" ++ "=" ++
      Percent.encode (lcwRequest runtime serviceEndpoint)) =
      some (lcwRequest runtime serviceEndpoint) := oneParameter_read (by decide) (by decide)
  have parsed : runtime.parseJson (lcwRequest runtime serviceEndpoint) =
      some (lcwRequestObject serviceEndpoint) := standard.parses serviceEndpoint
  have start : "https://lcw.app/request?request=" =
      "https://lcw.app/request" ++ "?" ++ "request" ++ "=" := by decide
  simp only [lcwTarget, start, read, parsed, Option.bind_eq_bind, Option.bind_some]
  rfl

private theorem lcwUrl_read (standard : Standard runtime) (addressable : Addressable exchange)
    {link : String} (built : lcwUrl runtime exchange = .ok link) :
    lcwTarget runtime exchange link = some (exchangeUrl exchange) := by
  cases exchange with
  | verify detail => exact lcwVcapiExchangeUrl_read standard built
  | didAuth detail =>
      exact lcwVcapiUrl_read standard addressable.url addressable.challenge built
  | claim detail =>
      exact lcwVcapiUrl_read standard addressable.url addressable.challenge built

private theorem offerLink_read (standard : Standard runtime) {credentialOfferUri link : String}
    (built : buildOpenIdCredentialOfferDeepLinkByReference runtime credentialOfferUri =
      .ok link) :
    Url.parameter "credential_offer_uri" link = some credentialOfferUri := by
  unfold buildOpenIdCredentialOfferDeepLinkByReference at built
  rw [encodeComponent_eq standard] at built
  cases built
  have start : "openid-credential-offer://?credential_offer_uri=" =
      "openid-credential-offer://" ++ "?" ++ "credential_offer_uri" ++ "=" := by decide
  rw [start]
  exact oneParameter_read (by decide) (by decide)

private theorem requestLink_read (standard : Standard runtime) {clientId requestUri link : String}
    (built : buildOid4vpDeepLink runtime clientId requestUri = .ok link) :
    Url.parameter "request_uri" link = some requestUri := by
  unfold buildOid4vpDeepLink at built
  rw [encodeComponent_eq standard, encodeComponent_eq standard] at built
  cases built
  have start : "openid4vp://?client_id=" = "openid4vp://" ++ "?" ++ "client_id" ++ "=" := by
    decide
  have second : "&request_uri=" = "&" ++ "request_uri" ++ "=" := by decide
  rw [start, second, ← String.append_assoc, ← String.append_assoc, ← withParameters_pair]
  apply Url.parameter_withParameters (by decide)
  · intro pair member
    simp only [List.mem_cons, List.not_mem_nil, or_false] at member
    rcases member with rfl | rfl
    · exact Url.isParameter_encoded (by decide) clientId
    · exact Url.isParameter_encoded (by decide) requestUri
  · rfl

private theorem serviceEndpoints_eq :
    serviceEndpoints (presentationRequestFor exchange) =
      [exchangeUrl exchange, exchangeUrl exchange] := by
  cases exchange <;> rfl

/-! ## Every document -/

private theorem openId_atHome (standard : Standard runtime) {entries : List (String × Json)}
    (built : openIdProtocol runtime exchange = .ok entries) {entry : String × Json}
    (member : entry ∈ entries) : AtHome exchange (openIdAdvertisement entry) := by
  cases exchange with
  | didAuth detail =>
      cases built
      cases member
  | claim detail =>
      rcases Fallible.bind_eq_ok.mp built with ⟨link, linked, returned⟩
      cases returned
      cases List.mem_singleton.mp member
      have read := offerLink_read standard linked
      have isOffer : openIdAdvertisement ("OID4VCI", .str link) =
          ⟨.get, Url.parameter "credential_offer_uri" link, .oid4vciCredentialOffer⟩ := by
        simp [openIdAdvertisement, Json.asString?]
      rw [isOffer]
      apply atHome_of_url (exchangePattern ++ [.literal "openid", .literal "credential-offer"])
        (by decide) (by decide)
      exact read.trans (congrArg some (exchangeUrl_append (by decide)))
  | verify detail =>
      rcases Fallible.bind_eq_ok.mp built with ⟨link, linked, returned⟩
      cases returned
      cases List.mem_singleton.mp member
      have read := requestLink_read standard linked
      have isRequest : openIdAdvertisement ("OID4VP", .str link) =
          ⟨.get, Url.parameter "request_uri" link, .oid4vpRequest⟩ := by
        simp [openIdAdvertisement, Json.asString?]
      rw [isRequest]
      apply atHome_of_url (exchangePattern ++ [.literal "openid4vp", .literal "request"])
        (by decide) (by decide)
      exact read.trans (congrArg some (exchangeUrl_append (by decide)))

private theorem protocols_atHome (standard : Standard runtime) (addressable : Addressable exchange)
    {protocols : Protocols} (built : getProtocols runtime exchange = .ok protocols)
    {advertisement : Advertisement}
    (member : advertisement ∈ protocolsAdvertise runtime exchange protocols) :
    AtHome exchange advertisement := by
  rcases Fallible.bind_eq_ok.mp built with ⟨lcw, lcwBuilt, rest⟩
  rcases Fallible.bind_eq_ok.mp rest with ⟨openId, openIdBuilt, returned⟩
  cases returned
  have participates : ∀ url, url = some (exchangeUrl exchange) →
      AtHome exchange ⟨.post, url, .participate⟩ := by
    rintro _ rfl
    exact atHome_of_url exchangePattern (by decide) (by decide) (congrArg some exchangeUrl_eq)
  simp only [protocolsAdvertise, List.mem_append, List.mem_cons, List.not_mem_nil, or_false,
    serviceEndpoints_eq, List.map_cons, List.map_nil, or_self, List.mem_map] at member
  rcases member with ((rfl | rfl | rfl | rfl) | rfl) | ⟨entry, isEntry, rfl⟩
  · exact atHome_of_url exchangePattern (by decide) (by decide) (congrArg some exchangeUrl_eq)
  · exact participates _ rfl
  · have isRoute : ⟨.get, [.literal "interactions", .parameter "exchangeId"], .interaction⟩ ∈
        routes := by decide
    exact ⟨_, "?iuv=1".toList, isRoute, by decide, by decide,
      congrArg some interactionUrl_eq⟩
  · exact participates _ (lcwUrl_read standard addressable lcwBuilt)
  · exact participates _ rfl
  · exact openId_atHome standard openIdBuilt isEntry

theorem textMember_here {name text : String} {members : List (String × Json)} :
    textMember (.obj ((name, .str text) :: members)) name = some text := by
  simp [textMember, Json.field, Json.asString?]

theorem textMember_later {first name : String} {value : Json}
    {members : List (String × Json)} (other : name ≠ first) :
    textMember (.obj ((first, value) :: members)) name = textMember (.obj members) name := by
  have different : (name == first) = false := beq_eq_false_iff_ne.mpr other
  simp [textMember, Json.field, List.lookup_cons, different]

private theorem offer_atHome {detail : ExchangeDetailClaim}
    (addressable : Addressable (.claim detail))
    {offer : Json} (built : buildCredentialOffer runtime detail = .ok offer)
    {advertisement : Advertisement} (member : advertisement ∈ offerAdvertises offer) :
    AtHome (.claim detail) advertisement := by
  unfold buildCredentialOffer at built
  split at built
  · cases built
  · rcases Fallible.bind_eq_ok.mp built with ⟨configId, -, returned⟩
    cases returned
    cases List.mem_singleton.mp member
    apply atHome_of_url ([.literal ".well-known", .literal "openid-credential-issuer"] ++
      exchangePattern) (by decide) (by decide)
    rw [textMember_here]
    exact congrArg some (wellKnown_exchangeUrl addressable "openid-credential-issuer")

private theorem metadata_atHome {config : Config} {detail : ExchangeDetailClaim}
    (addressable : Addressable (.claim detail)) {metadata : Json}
    (built : ConfigurationIds.buildIssuerMetadata runtime config detail = .ok metadata)
    {advertisement : Advertisement} (member : advertisement ∈ metadataAdvertises metadata) :
    AtHome (.claim detail) advertisement := by
  rcases Fallible.bind_eq_ok.mp built with ⟨configId, -, rest⟩
  rcases Fallible.bind_eq_ok.mp rest with ⟨supported, -, returned⟩
  cases returned
  rcases List.mem_append.mp member with isServer | isEndpoint
  · cases List.mem_singleton.mp isServer
    apply atHome_of_url ([.literal ".well-known", .literal "oauth-authorization-server"] ++
      exchangePattern) (by decide) (by decide)
    exact congrArg some (wellKnown_exchangeUrl addressable "oauth-authorization-server")
  · simp only [List.mem_cons, List.not_mem_nil, or_false] at isEndpoint
    rcases isEndpoint with rfl | rfl
    · apply atHome_of_url (exchangePattern ++ [.literal "openid", .literal "credential"])
        (by decide) (by decide)
      rw [textMember_later (by decide), textMember_later (by decide), textMember_here]
      exact congrArg some (exchangeUrl_append (by decide))
    · apply atHome_of_url (exchangePattern ++ [.literal "openid", .literal "nonce"])
        (by decide) (by decide)
      rw [textMember_later (by decide), textMember_later (by decide),
        textMember_later (by decide), textMember_here]
      exact congrArg some (exchangeUrl_append (by decide))

private theorem request_atHome {detail : ExchangeDetailVerify} {request : Json}
    (built : buildAuthorizationRequest runtime detail = .ok request)
    {advertisement : Advertisement} (member : advertisement ∈ requestAdvertises request) :
    AtHome (.verify detail) advertisement := by
  rcases Fallible.bind_eq_ok.mp built with ⟨dcqlQuery, -, rest⟩
  have isResponse : some (responseUriForExchange detail) =
      some (homeUrl (.verify detail)
        (exchangePattern ++ [.literal "openid4vp", .literal "response"])) :=
    congrArg some (exchangeUrl_append (by decide))
  have cut : Text.sliceFrom "redirect_uri:".length (clientIdForExchange detail) =
      responseUriForExchange detail := by
    rw [clientIdForExchange, ← String.length_toList]
    simp only [Text.sliceFrom, String.toList_append, List.drop_left, String.ofList_toList]
  split at rest
  · cases rest
  · split at rest
    · cases rest
    · cases rest
      simp only [requestAdvertises, List.mem_cons, List.not_mem_nil, or_false] at member
      rcases member with rfl | rfl
      · apply atHome_of_url (exchangePattern ++ [.literal "openid4vp", .literal "response"])
          (by decide) (by decide)
        simp only [List.cons_append]
        rw [textMember_later (by decide), textMember_later (by decide),
          textMember_later (by decide), textMember_here]
        exact isResponse
      · apply atHome_of_url (exchangePattern ++ [.literal "openid4vp", .literal "response"])
          (by decide) (by decide)
        simp only [List.cons_append]
        rw [textMember_later (by decide), textMember_later (by decide), textMember_here,
          Option.map_some, cut]
        exact isResponse

private theorem token_atHome {detail : ExchangeDetailClaim} :
    AtHome (.claim detail)
      ⟨.post, textMember (buildOid4vciAsMetadata detail) "token_endpoint", .oid4vciToken⟩ := by
  apply atHome_of_url (exchangePattern ++ [.literal "openid", .literal "token"])
    (by decide) (by decide)
  rw [buildOid4vciAsMetadata, textMember_later (by decide), textMember_here]
  exact congrArg some (exchangeUrl_append (by decide))

theorem ofDocument_atHome {Document : Type} {document : Except Thrown Document}
    {advertises : Document → List Advertisement}
    (each : ∀ built, document = .ok built → ∀ advertisement ∈ advertises built,
      AtHome exchange advertisement) :
    ∀ advertisement ∈ ofDocument document advertises, AtHome exchange advertisement := by
  intro advertisement member
  unfold ofDocument at member
  split at member
  · exact each _ rfl advertisement member
  · cases member

private theorem advertised_atHome {config : Config} (standard : Standard runtime)
    (addressable : Addressable exchange) :
    ∀ advertisement ∈ advertised runtime config exchange, AtHome exchange advertisement := by
  intro advertisement member
  rcases List.mem_append.mp member with inProtocols | inOthers
  · exact ofDocument_atHome (fun _ built _ isOne =>
      protocols_atHome standard addressable built isOne) advertisement inProtocols
  · cases exchange with
    | didAuth detail => cases inOthers
    | claim detail =>
        rcases List.mem_append.mp inOthers with inDocuments | isToken
        · rcases List.mem_append.mp inDocuments with inOffer | inMetadata
          · exact ofDocument_atHome (fun _ built _ isOne =>
              offer_atHome addressable built isOne) advertisement inOffer
          · exact ofDocument_atHome (fun _ built _ isOne =>
              metadata_atHome addressable built isOne) advertisement inMetadata
        · cases List.mem_singleton.mp isToken
          exact token_atHome
    | verify detail =>
        exact ofDocument_atHome (fun _ built _ isOne => request_atHome built isOne)
          advertisement inOthers

/-! ## Every run -/

def fixedBase : FixedVariables → BaseVariables
  | .didAuth vars => vars.toBaseVariables
  | .claim vars => vars.toBaseVariables
  | .verify vars => vars.toBaseVariables

theorem fixedBase_fixedVariables (exchange : Exchange) :
    fixedBase (fixedVariables exchange) = exchange.baseVariables := by
  cases exchange <;> rfl

private theorem Addressable.of_identity {before after : Exchange} (addressable : Addressable before)
    (same : identityOf after = identityOf before) : Addressable after := by
  have variablesSame : after.baseVariables = before.baseVariables := by
    rw [← fixedBase_fixedVariables after, ← fixedBase_fixedVariables before]
    exact congrArg (fun identity => fixedBase identity.vars) same
  have idSame : after.exchangeId = before.exchangeId := congrArg Identity.exchangeId same
  have workflowSame : after.workflowId = before.workflowId :=
    congrArg Identity.workflowId same
  have urlSame : exchangeUrl after = exchangeUrl before := by
    rw [exchangeUrl, exchangeUrl, variablesSame, idSame, workflowSame]
  exact {
    host := variablesSame ▸ addressable.host
    exchangeId := idSame ▸ addressable.exchangeId
    url := urlSame ▸ addressable.url
    challenge := variablesSame ▸ addressable.challenge }

/-- However requests, sweeps and worker runs interleave, everything that a stored
exchange advertises in its protocols, deep links, offer, metadata and authorization
request can be read, and arrives at the route it is meant for, which finds that very
exchange. -/
theorem advertised_urls_lead_home {config : Config} {router : RouterOfRoutes}
    {labels : List ExchangeLabel} {system : ExchangeSystem} (standard : Standard runtime)
    (isRouter : Routes routes router)
    (runs : Machine.run (sessionStep runtime config) SharedStore.start labels = some system)
    (creations : ∀ creation, .create creation ∈ labels →
      Addressable (createExchange config creation.answers creation.data))
    {exchangeId : String} (found : system.stored exchangeId = some exchange)
    {advertisement : Advertisement} (member : advertisement ∈ advertised runtime config exchange) :
    LeadsHome router system.stored exchange advertisement := by
  rcases (@IdentityFrame.exchange_framed runtime config).stored_of_run runs found with
    ⟨place, creation, isCreation, -, same⟩
  subst place
  have addressable := (creations creation isCreation).of_identity same
  exact leadsHome_of_atHome isRouter addressable found
    (advertised_atHome standard addressable advertisement member)

end

/-! ## A credential that is offered -/

def requestText (serviceEndpoint : String) : String :=
  "\x7b\"protocols\":\x7b\"vcapi\":\"" ++ serviceEndpoint ++ "\"\x7d\x7d"

def requestedEndpoint (text : String) : String :=
  String.ofList ((text.toList.drop 23).take (text.toList.length - 26))

def webRuntime : Runtime :=
  { Runtime.plain with
    encodeURIComponent := fun text => some (Percent.encode text)
    stringify := fun value =>
      requestText (((value.field "protocols").bind (textMember · "vcapi")).getD "")
    parseJson := fun text =>
      if text = requestText (requestedEndpoint text) then
        some (lcwRequestObject (requestedEndpoint text))
      else none }

private theorem requestedEndpoint_requestText (serviceEndpoint : String) :
    requestedEndpoint (requestText serviceEndpoint) = serviceEndpoint := by
  have start : ("\x7b\"protocols\":\x7b\"vcapi\":\"".toList).length = 23 := by decide
  have finish : ("\"\x7d\x7d".toList).length = 3 := by decide
  have rest : 23 + serviceEndpoint.toList.length + 3 - 26 =
      serviceEndpoint.toList.length := by omega
  unfold requestedEndpoint requestText
  generalize "\x7b\"protocols\":\x7b\"vcapi\":\"" = opening at start
  generalize "\"\x7d\x7d" = closing at finish
  rw [String.toList_append, String.toList_append, List.length_append, List.length_append, start,
    finish, rest, List.append_assoc, ← start, List.drop_left, List.take_left,
    String.ofList_toList]

private theorem webRuntime_standard : Standard webRuntime where
  encodes _ := rfl
  hostname url host hosted _ := by
    simp only [webRuntime, Runtime.plain] at hosted
    split at hosted
    · cases hosted
      decide
    · cases hosted
  parses serviceEndpoint := by
    have written : webRuntime.stringify (lcwRequestObject serviceEndpoint) =
        requestText serviceEndpoint := by
      simp [webRuntime, lcwRequestObject, Json.field, textMember_here]
    rw [written]
    simp [webRuntime, requestedEndpoint_requestText]

def creation : Creation := IdentityFrame.offeredCredential

def offerLabels : List ExchangeLabel :=
  [.create creation, .load 0 "uuid" (.request {
    workflowId := "claim", endpoint := .credentialOffer, answers := Answers.plain }), .put 0]

private theorem creation_addressable :
    Addressable (createExchange {} creation.answers creation.data) where
  host := by
    have parts : "http://localhost:4004" = "http:" ++ "//" ++ "localhost:4004" := by decide
    change Url.IsOrigin "http://localhost:4004"
    rw [parts]
    exact .intro (by decide) (by decide)
  exchangeId := by decide
  url := by decide
  challenge := by decide

/-- A dozen requests, each of which leads home. -/
theorem offered_urls_lead_home : ∃ system record,
    Machine.run (sessionStep webRuntime {}) SharedStore.start offerLabels = some system ∧
    system.stored "uuid" = some record ∧ (advertised webRuntime {} record).length = 12 ∧
    ∀ advertisement ∈ advertised webRuntime {} record,
      LeadsHome (dispatch routes) system.stored record advertisement := by
  have ran : ∃ system record, Machine.run (sessionStep webRuntime {}) SharedStore.start
      offerLabels = some system ∧ system.stored "uuid" = some record ∧
      (advertised webRuntime {} record).length = 12 := ⟨_, _, rfl, rfl, rfl⟩
  rcases ran with ⟨system, record, runs, found, count⟩
  refine ⟨system, record, runs, found, count, fun advertisement member => ?_⟩
  refine advertised_urls_lead_home webRuntime_standard (dispatch_routes routes) runs ?_ found
    member
  intro other isCreation
  have only : other = creation := by simpa [offerLabels] using isCreation
  rw [only]
  exact creation_addressable

end TransactionService.Discovery
