import Mathlib.Tactic.IntervalCases
import TransactionService.Routes.FailureAtomicity

namespace TransactionService.BatchCreation

open Fallible FailureAtomicity Schema

/-! # The records of a batch and its exchanges

Which exchange is made of which record, and which part of the response is about
it. -/

section

variable (runtime : Runtime) (config : Config) (answers : Answers) (data : ExchangeBatch)
  (workflowId : WorkflowId)

structure Answered (index : Nat) (item : CredentialData) (exchange : Exchange)
    (query : Json) : Prop where
  made : ∃ created, batchCreateData runtime answers data workflowId item = .ok created ∧
    exchange = batchExchange config answers index created
  linked : ∃ protocols, getProtocols runtime exchange = .ok protocols ∧
    query.field "iu" = some (.str (interactionUrl exchange)) ∧
    query.field "directDeepLink" = some (.str protocols.lcw) ∧
    query.field "vprDeepLink" = some (.str protocols.lcw) ∧
    query.field "chapiVPR" = some protocols.verifiablePresentationRequest
  retrievalId : query.field "retrievalId" = some (.str item.retrievalId)
  metadata : query.field "metadata" = item.metadata

structure Corresponding (store : ExchangeStore) (saved : List Exchange)
    (queries : List Json) : Prop where
  saved_length : saved.length = data.data.length
  queries_length : queries.length = data.data.length
  distinct : (saved.map Exchange.exchangeId).Nodup
  stored : ∀ exchange ∈ saved, store.record exchange.exchangeId = none ∧
    (store.writeAll saved).record exchange.exchangeId = some exchange
  others : ∀ exchangeId, (∀ exchange ∈ saved, exchange.exchangeId ≠ exchangeId) →
    (store.writeAll saved).record exchangeId = store.record exchangeId
  each : ∀ (index : Nat) (item : CredentialData) (exchange : Exchange) (query : Json),
    data.data[index]? = some item → saved[index]? = some exchange →
    queries[index]? = some query →
    Answered runtime config answers data workflowId index item exchange query

def Valid : Prop :=
  ∀ item ∈ data.data, Succeeds (batchCreateData runtime answers data workflowId item)

/-- Either nothing is saved, or one exchange for each record. -/
structure OneToOne (store : ExchangeStore) : Prop where
  refused : ¬ Valid runtime answers data workflowId →
    (createExchangeBatch runtime config answers data workflowId).saved = []
  created : Valid runtime answers data workflowId → ∃ queries,
    (createExchangeBatch runtime config answers data workflowId).result = .ok (.arr queries) ∧
    Corresponding runtime config answers data workflowId store
      (createExchangeBatch runtime config answers data workflowId).saved queries

/-! ## What a batch needs -/

structure FreshIds (store : ExchangeStore) : Prop where
  distinct : Function.Injective answers.randomUUID
  unused : ∀ draw, store.record (answers.randomUUID draw) = none

/-- The URL of the exchange with this id, and that of its credential offer, can
be put into the links. -/
structure UrlFits (exchangeId : String) : Prop where
  hostname : (runtime.urlHostname (data.exchangeHost ++ "/workflows/" ++ workflowId.text ++
    "/exchanges/" ++ exchangeId)).isSome = true
  encoded : (runtime.encodeURIComponent (data.exchangeHost ++ "/workflows/" ++
    workflowId.text ++ "/exchanges/" ++ exchangeId)).isSome = true
  offer : workflowId = .claim →
    (runtime.encodeURIComponent (data.exchangeHost ++ "/workflows/" ++ workflowId.text ++
      "/exchanges/" ++ exchangeId ++ "/openid/credential-offer")).isSome = true

/-- The members that the response repeats survive the way through the exchange:
a workflow keeps no member that counts as false, and `didAuth` no metadata. -/
structure Carried (item : CredentialData) : Prop where
  retrievalId : item.retrievalId ≠ ""
  metadata : ∀ metadata, item.metadata = some metadata →
    workflowId = .claim ∧ metadata.isTruthy = true

structure CanCorrespond : Prop where
  accepted : ∀ index < data.data.length, answers.accepted index = true
  urls : ∀ index < data.data.length,
    UrlFits runtime data workflowId (answers.randomUUID (2 * index))
  carried : ∀ item ∈ data.data, Carried workflowId item

end

section

variable {runtime : Runtime} {config : Config} {answers : Answers} {data : ExchangeBatch}
  {workflowId : WorkflowId} {item : CredentialData} {store : ExchangeStore}

/-! ## One record -/

theorem batchCreateData_keeps (config : Config) {created : CreateData} (index : Nat)
    (isCreated : batchCreateData runtime answers data workflowId item = .ok created) :
    (batchExchange config answers index created).workflowId = workflowId ∧
      (batchExchange config answers index created).exchangeId =
        answers.randomUUID (2 * index) ∧
      (batchExchange config answers index created).baseVariables.exchangeHost =
        data.exchangeHost ∧
      (batchExchange config answers index created).baseVariables.retrievalId =
        Text.given (some item.retrievalId) ∧
      (batchExchange config answers index created).baseVariables.metadata =
        if workflowId = .claim then item.metadata.filter Json.isTruthy else none := by
  have isDrawn : (batchExchange config answers index created).exchangeId =
      answers.randomUUID (2 * index) := createExchange_exchangeId ..
  cases workflowId with
  | claim =>
      rcases bind_eq_ok.mp isCreated with ⟨validated, isValidated, returned⟩
      cases returned
      rcases validateExchangeClaim_ok isValidated with ⟨_, _, -, -, -, -, rfl⟩
      exact ⟨rfl, isDrawn, rfl, rfl, rfl⟩
  | didAuth =>
      rcases bind_eq_ok.mp isCreated with ⟨validated, isValidated, returned⟩
      cases returned
      cases orZodError_eq_ok.mp isValidated
      exact ⟨rfl, isDrawn, rfl, rfl, rfl⟩
  | verify => cases isCreated

theorem linkable_iff {created : CreateData} (index : Nat)
    (isCreated : batchCreateData runtime answers data workflowId item = .ok created) :
    Linkable runtime (batchExchange config answers index created) ↔
      UrlFits runtime data workflowId (answers.randomUUID (2 * index)) := by
  rcases batchCreateData_keeps config index isCreated with
    ⟨isWorkflow, isDrawn, isHost, -, -⟩
  generalize batchExchange config answers index created = exchange at isWorkflow isDrawn isHost
  have isUrl : exchangeUrl exchange = data.exchangeHost ++ "/workflows/" ++
      workflowId.text ++ "/exchanges/" ++ answers.randomUUID (2 * index) := by
    rw [exchangeUrl, isHost, isWorkflow, isDrawn]
  cases exchange with
  | didAuth detail =>
      cases isWorkflow
      constructor
      · intro able
        have hostname := able.hostname (by rintro ⟨⟩)
        have encoded := able.encoded _ List.mem_cons_self
        rw [isUrl] at hostname encoded
        exact ⟨hostname, encoded, by rintro ⟨⟩⟩
      · rintro ⟨hostname, encoded, -⟩
        rw [← isUrl] at hostname encoded
        refine ⟨fun _ => hostname, ?_⟩
        simpa [linkTexts] using encoded
  | claim detail =>
      cases isWorkflow
      have isOffer : credentialOfferUriForExchange detail =
          exchangeUrl (.claim detail) ++ "/openid/credential-offer" := rfl
      constructor
      · intro able
        have hostname := able.hostname (by rintro ⟨⟩)
        have encoded := able.encoded _ List.mem_cons_self
        have offer := able.encoded _ (List.mem_cons_of_mem _ List.mem_cons_self)
        rw [isOffer] at offer
        rw [isUrl] at hostname encoded offer
        exact ⟨hostname, encoded, fun _ => offer⟩
      · rintro ⟨hostname, encoded, offer⟩
        have offered := offer rfl
        rw [← isUrl] at hostname encoded offered
        refine ⟨fun _ => hostname, ?_⟩
        simpa [linkTexts, isOffer] using ⟨encoded, offered⟩
  | verify detail =>
      cases isWorkflow
      cases isCreated

private theorem walletQuery_ok {exchange : Exchange} {query : Json}
    (isQuery : walletQuery runtime exchange = .ok query) :
    (∃ protocols, getProtocols runtime exchange = .ok protocols ∧
      query.field "iu" = some (.str (interactionUrl exchange)) ∧
      query.field "directDeepLink" = some (.str protocols.lcw) ∧
      query.field "vprDeepLink" = some (.str protocols.lcw) ∧
      query.field "chapiVPR" = some protocols.verifiablePresentationRequest) ∧
    query.field "retrievalId" = exchange.baseVariables.retrievalId.map Json.str ∧
    query.field "metadata" = exchange.baseVariables.metadata := by
  rcases bind_eq_ok.mp isQuery with ⟨protocols, isProtocols, returned⟩
  cases returned
  have isInteraction : protocols.iu = interactionUrl exchange := by
    rcases bind_eq_ok.mp isProtocols with ⟨_, -, afterWallet⟩
    rcases bind_eq_ok.mp afterWallet with ⟨_, -, returned⟩
    cases returned
    rfl
  rw [← isInteraction]
  cases exchange.baseVariables.retrievalId <;> cases exchange.baseVariables.metadata <;>
    simp [Json.field, isProtocols, List.lookup_cons]

theorem carried_iff :
    ((Text.given (some item.retrievalId)).map Json.str = some (.str item.retrievalId) ∧
        (if workflowId = .claim then item.metadata.filter Json.isTruthy else none) =
          item.metadata) ↔
      Carried workflowId item := by
  have isGiven : (Text.given (some item.retrievalId)).map Json.str =
      some (.str item.retrievalId) ↔ item.retrievalId ≠ "" := by
    by_cases empty : item.retrievalId = ""
    · simp [empty]
    · simp [Text.given_some empty, empty]
  have isKept : (if workflowId = .claim then item.metadata.filter Json.isTruthy else none) =
      item.metadata ↔ ∀ metadata, item.metadata = some metadata →
        workflowId = .claim ∧ metadata.isTruthy = true := by
    cases item.metadata with
    | none => simp
    | some metadata => by_cases isClaim : workflowId = .claim <;> simp [isClaim]
  rw [isGiven, isKept]
  exact ⟨fun both => ⟨both.1, both.2⟩, fun carried => ⟨carried.1, carried.2⟩⟩

theorem answered_iff {index : Nat} {created : CreateData} {query : Json}
    (isCreated : batchCreateData runtime answers data workflowId item = .ok created)
    (isQuery : walletQuery runtime (batchExchange config answers index created) = .ok query) :
    Answered runtime config answers data workflowId index item
        (batchExchange config answers index created) query ↔ Carried workflowId item := by
  rcases batchCreateData_keeps config index isCreated with
    ⟨-, -, -, isRetrievalId, isMetadata⟩
  rcases walletQuery_ok isQuery with ⟨linked, retrievalField, metadataField⟩
  rw [isRetrievalId] at retrievalField
  rw [isMetadata] at metadataField
  rw [← carried_iff, ← retrievalField, ← metadataField]
  constructor
  · intro answered
    exact ⟨answered.retrievalId, answered.metadata⟩
  · rintro ⟨retrievalId, metadata⟩
    exact ⟨⟨created, isCreated, rfl⟩, linked, retrievalId, metadata⟩

/-! ## What is in the store -/

theorem writeAll_of_ne {saved : List Exchange} {exchangeId : String}
    (different : ∀ exchange ∈ saved, exchange.exchangeId ≠ exchangeId) :
    (store.writeAll saved).record exchangeId = store.record exchangeId := by
  induction saved generalizing store with
  | nil => rfl
  | cons first rest induction =>
      rw [List.forall_mem_cons] at different
      have kept : (store.write first).record exchangeId = store.record exchangeId :=
        Function.update_of_ne different.1.symm ..
      rw [← kept]
      exact induction different.2

private theorem writeAll_of_mem {saved : List Exchange}
    (distinct : (saved.map Exchange.exchangeId).Nodup) :
    ∀ exchange ∈ saved, (store.writeAll saved).record exchange.exchangeId = some exchange := by
  induction saved generalizing store with
  | nil => exact fun _ member => nomatch member
  | cons first rest induction =>
      rw [List.map_cons, List.nodup_cons] at distinct
      rcases distinct with ⟨newId, restDistinct⟩
      rw [List.forall_mem_cons]
      refine ⟨?_, induction restDistinct⟩
      have others : ∀ other ∈ rest, other.exchangeId ≠ first.exchangeId :=
        fun other member same => newId (List.mem_map.mpr ⟨other, member, same⟩)
      have kept : ((store.write first).writeAll rest).record first.exchangeId =
          (store.write first).record first.exchangeId := writeAll_of_ne others
      exact kept.trans ExchangeStore.write_self

/-! ## The whole batch -/

section

variable {exchanges : List Exchange}

private theorem createExchangeBatch_refused (invalid : ¬ Valid runtime answers data workflowId) :
    (createExchangeBatch runtime config answers data workflowId).saved = [] := by
  unfold createExchangeBatch
  cases made : batchExchanges runtime config answers data workflowId 0 data.data with
  | error thrown => rfl
  | ok exchanges => exact absurd (batchExchanges_succeeds.mp ⟨exchanges, made⟩) invalid

variable (made : batchExchanges runtime config answers data workflowId 0 data.data =
  .ok exchanges)

include made

theorem createExchangeBatch_answers {queries : List Json} :
    (createExchangeBatch runtime config answers data workflowId).result = .ok (.arr queries) ↔
      Succeeds (saveAll answers 0 exchanges).result ∧
        walletQueries runtime exchanges = .ok queries := by
  unfold createExchangeBatch
  simp only [Outcome.andThen, Outcome.ofExcept, made]
  cases (saveAll answers 0 exchanges).result with
  | error thrown => simp [Succeeds]
  | ok saved =>
      cases walletQueries runtime exchanges with
      | error thrown => simp [Functor.map, Except.map]
      | ok found => simp [Functor.map, Except.map, Succeeds]

theorem createExchangeBatch_saved (saves : Succeeds (saveAll answers 0 exchanges).result) :
    (createExchangeBatch runtime config answers data workflowId).saved = exchanges := by
  have saved := saveAll_saved saves
  rcases saves with ⟨_, result⟩
  unfold createExchangeBatch
  simp only [Outcome.andThen, Outcome.ofExcept, made, result, saved]
  simp

theorem batch_at {index : Nat} (inRange : index < data.data.length) :
    ∃ item created, data.data[index]? = some item ∧
      batchCreateData runtime answers data workflowId item = .ok created ∧
      exchanges[index]? = some (batchExchange config answers index created) := by
  rcases batchExchanges_at made with ⟨sameLength, each⟩
  have isItem := List.getElem?_eq_getElem inRange
  rw [← sameLength] at inRange
  have isExchange := List.getElem?_eq_getElem inRange
  rcases each index _ _ isItem isExchange with ⟨created, isCreated, same⟩
  rw [Nat.zero_add] at same
  rw [same] at isExchange
  exact ⟨_, created, isItem, isCreated, isExchange⟩

private theorem exchangeIds_distinct (distinct : Function.Injective answers.randomUUID) :
    (exchanges.map Exchange.exchangeId).Nodup := by
  have sameLength := (batchExchanges_at made).1
  have isDrawn : exchanges.map Exchange.exchangeId =
      (List.range data.data.length).map fun index => answers.randomUUID (2 * index) := by
    apply List.ext_getElem?
    intro index
    by_cases inRange : index < data.data.length
    · rcases batch_at made inRange with ⟨item, created, -, isCreated, isExchange⟩
      have isDrawn := (batchCreateData_keeps config index isCreated).2.1
      simp [isExchange, isDrawn, inRange]
    · simp [inRange, sameLength]
  rw [isDrawn]
  refine List.Nodup.map ?_ List.nodup_range
  intro left right same
  have double : 2 * left = 2 * right := distinct same
  omega

theorem linkable_all_iff :
    (∀ exchange ∈ exchanges, Linkable runtime exchange) ↔
      ∀ index < data.data.length,
        UrlFits runtime data workflowId (answers.randomUUID (2 * index)) := by
  constructor
  · intro linkable index inRange
    rcases batch_at made inRange with ⟨item, created, -, isCreated, isExchange⟩
    exact (linkable_iff index isCreated).mp
      (linkable _ (List.mem_of_getElem? isExchange))
  · intro urls exchange member
    rcases List.mem_iff_getElem?.mp member with ⟨index, isExchange⟩
    rcases List.getElem?_eq_some_iff.mp isExchange with ⟨inRange, -⟩
    rw [(batchExchanges_at made).1] at inRange
    rcases batch_at made inRange with ⟨item, created, -, isCreated, same⟩
    cases isExchange.symm.trans same
    exact (linkable_iff index isCreated).mpr (urls index inRange)

theorem corresponding_iff (fresh : FreshIds answers store) {queries : List Json}
    (isQueries : walletQueries runtime exchanges = .ok queries) :
    Corresponding runtime config answers data workflowId store exchanges queries ↔
      ∀ item ∈ data.data, Carried workflowId item := by
  rcases batchExchanges_at made with ⟨saved_length, -⟩
  rcases walletQueries_at isQueries with ⟨sameLength, eachQuery⟩
  have queries_length : queries.length = data.data.length := sameLength.trans saved_length
  constructor
  · intro corresponding item member
    rcases List.mem_iff_getElem?.mp member with ⟨index, isItem⟩
    rcases List.getElem?_eq_some_iff.mp isItem with ⟨inRange, -⟩
    rcases batch_at made inRange with ⟨_, created, same, isCreated, isExchange⟩
    cases isItem.symm.trans same
    rw [← queries_length] at inRange
    have isQuery := List.getElem?_eq_getElem inRange
    exact (answered_iff isCreated (eachQuery index _ _ isExchange isQuery)).mp
      (corresponding.each index item _ _ isItem isExchange isQuery)
  · intro carried
    have distinct := exchangeIds_distinct made fresh.distinct
    refine ⟨saved_length, queries_length, distinct, ?_, fun _ => writeAll_of_ne, ?_⟩
    · intro exchange member
      rcases batchExchanges_drawn made exchange member with ⟨draw, isDrawn⟩
      refine ⟨?_, writeAll_of_mem distinct exchange member⟩
      rw [isDrawn]
      exact fresh.unused draw
    · intro index item exchange query isItem isExchange isQuery
      rcases List.getElem?_eq_some_iff.mp isItem with ⟨inRange, -⟩
      rcases batch_at made inRange with ⟨_, created, sameItem, isCreated, sameExchange⟩
      cases isItem.symm.trans sameItem
      cases isExchange.symm.trans sameExchange
      exact (answered_iff isCreated (eachQuery index _ query isExchange isQuery)).mpr
        (carried item (List.mem_of_getElem? isItem))

end

/-- The exchanges and the response correspond to the records exactly when nothing
that the response repeats is dropped on the way, the store takes every exchange
and each of them can be linked to. -/
theorem one_to_one_iff (fresh : FreshIds answers store) :
    OneToOne runtime config answers data workflowId store ↔
      (Valid runtime answers data workflowId →
        CanCorrespond runtime answers data workflowId) := by
  constructor
  · intro oneToOne valid
    rcases batchExchanges_succeeds.mpr valid with ⟨exchanges, made⟩
    rcases oneToOne.created valid with ⟨queries, isAnswered, corresponding⟩
    rcases (createExchangeBatch_answers made).mp isAnswered with ⟨saves, isQueries⟩
    rw [createExchangeBatch_saved made saves] at corresponding
    refine ⟨?_, ?_, (corresponding_iff made fresh isQueries).mp corresponding⟩
    · intro index inRange
      rw [← (batchExchanges_at made).1] at inRange
      have accepted := saveAll_succeeds.mp saves index inRange
      rwa [Nat.zero_add] at accepted
    · exact (linkable_all_iff made).mp (walletQueries_succeeds.mp ⟨queries, isQueries⟩)
  · intro can
    refine ⟨createExchangeBatch_refused, fun valid => ?_⟩
    rcases batchExchanges_succeeds.mpr valid with ⟨exchanges, made⟩
    rcases can valid with ⟨accepted, urls, carried⟩
    have saves : Succeeds (saveAll answers 0 exchanges).result := by
      rw [saveAll_succeeds, (batchExchanges_at made).1]
      intro index inRange
      rw [Nat.zero_add]
      exact accepted index inRange
    rcases walletQueries_succeeds.mpr ((linkable_all_iff made).mpr urls) with
      ⟨queries, isQueries⟩
    refine ⟨queries, (createExchangeBatch_answers made).mpr ⟨saves, isQueries⟩, ?_⟩
    rw [createExchangeBatch_saved made saves]
    exact (corresponding_iff made fresh isQueries).mpr carried

/-! ## Metadata that gets lost -/

def countingAnswers : Answers :=
  { Answers.plain with randomUUID := fun draw => String.ofList (List.replicate draw 'a') }

private theorem countingAnswers_fresh : FreshIds countingAnswers emptyStore where
  distinct := by
    intro left right same
    have sameLength := congrArg String.length same
    simpa [countingAnswers] using sameLength
  unused _ := rfl

def templateRuntime : Runtime :=
  { Runtime.plain with
    parseJson := fun _ => some (.obj [("type", .str "VerifiableCredential")]) }

def metadataRecord (retrievalId : String) : CredentialData where
  vc := some "template"
  retrievalId := retrievalId
  metadata := some (.obj [("email", .str "learner@example.com")])

def metadataBatch : ExchangeBatch where
  exchangeHost := "http://localhost:4004"
  tenantName := some "default"
  data := [metadataRecord "first", metadataRecord "second"]

theorem claims_correspond :
    OneToOne templateRuntime {} countingAnswers metadataBatch .claim emptyStore := by
  refine (one_to_one_iff countingAnswers_fresh).mpr fun _ => ⟨fun _ _ => rfl, ?_, ?_⟩
  · intro index inRange
    refine ⟨?_, rfl, fun _ => rfl⟩
    have two : metadataBatch.data.length = 2 := rfl
    rw [two] at inRange
    interval_cases index <;> decide
  · intro item member
    have isRecord : ∃ retrievalId ≠ "", item = metadataRecord retrievalId := by
      rcases List.mem_cons.mp member with rfl | member
      · exact ⟨"first", by decide, rfl⟩
      · rcases List.mem_singleton.mp member with rfl
        exact ⟨"second", by decide, rfl⟩
    rcases isRecord with ⟨retrievalId, nonempty, rfl⟩
    refine ⟨nonempty, ?_⟩
    intro metadata same
    cases same
    exact ⟨rfl, rfl⟩

def metadataBody : Json :=
  .obj [("exchangeHost", .str "http://localhost:4004"),
    ("data", .arr (["first", "second"].map fun retrievalId => .obj [
      ("vc", .str "template"), ("retrievalId", .str retrievalId),
      ("metadata", .obj [("email", .str "learner@example.com")])]))]

/-- A batch that names no workflow is one of `didAuth`, whose response has no
metadata. -/
theorem didAuth_metadata_lost :
    acceptExchangeBatch templateRuntime {} countingAnswers none (some metadataBody) =
        .ok metadataBatch ∧
      ¬ OneToOne templateRuntime {} countingAnswers metadataBatch
        (metadataBatch.workflowId.getD .didAuth) emptyStore := by
  refine ⟨rfl, fun oneToOne => ?_⟩
  have valid : Valid templateRuntime countingAnswers metadataBatch .didAuth :=
    fun _ _ => ⟨_, rfl⟩
  rcases oneToOne.created valid with ⟨queries, isAnswered, corresponding⟩
  cases isAnswered
  cases (corresponding.each 0 _ _ _ rfl rfl rfl).metadata

end

end TransactionService.BatchCreation
