import TransactionService.Exchange
import TransactionService.Foundation.Machine
import TransactionService.Http.CacheControl

namespace TransactionService.CachedGet

open CacheControl Number

/-! # Cached GET requests

`CachedHttpGetService` of `lib/cached-http-get-service.ts`. Calls overlap as they
like: each first asks the cache, and goes on when its fetch settles. -/

/-- Names in lower case, each with its combined value. -/
abbrev Headers := List (String × String)

/-- What `fetch` resolves to; `none` for a body that cannot be read so. -/
structure FetchResponse where
  status : Nat
  headers : Headers
  json : Option Json
  text : Option String

def FetchResponse.ok (response : FetchResponse) : Bool :=
  200 ≤ response.status ∧ response.status ≤ 299

def FetchResponse.cacheControl (response : FetchResponse) : Option String :=
  response.headers.lookup "cache-control"

def FetchResponse.body (response : FetchResponse) : Json :=
  let contentType := (response.headers.lookup "content-type").getD ""
  (if Text.includes "json" contentType then response.json
    else response.text.map Json.str).getD .null

structure HttpGetResult where
  body : Json
  headers : Headers
  status : Nat

structure CachedHttpEntry where
  body : Json
  status : Nat

structure SetCall where
  key : String
  entry : CachedHttpEntry
  ttl : Double

def cacheKeyForUrl (url : String) : String :=
  "http:" ++ url

def cachedResult (cached : CachedHttpEntry) : HttpGetResult where
  body := cached.body
  headers := []
  status := cached.status

def fetchedResult (response : FetchResponse) : HttpGetResult where
  body := response.body
  headers := response.headers
  status := response.status

def setFetched (url : String) (response : FetchResponse) : Option SetCall :=
  if response.ok then some {
    key := cacheKeyForUrl url
    entry := { body := response.body, status := response.status }
    ttl := ttlFor response.cacheControl }
  else none

/-! ## Runs -/

/-- A reading of the clock, as a `Date` can hold it. -/
structure TimeValue where
  time : Int
  notEarlier : -8640000000000000 ≤ time
  notLater : time ≤ 8640000000000000

structure Fetch where
  url : String
  response : FetchResponse
  moment : TimeValue

structure Hit where
  url : String
  result : HttpGetResult
  moment : TimeValue

structure Service where
  now : TimeValue
  pending : List String := []
  fetches : List Fetch := []
  sets : List (SetCall × TimeValue) := []
  hits : List Hit := []

/-- A call of `get` with the answer of the cache, or the end of a pending fetch,
which fails without a response. -/
inductive Event
  | get (url : String) (cached : Option CachedHttpEntry) (moment : TimeValue)
  | settle (position : Nat) (response : Option FetchResponse) (moment : TimeValue)

def Event.moment : Event → TimeValue
  | .get _ _ moment => moment
  | .settle _ _ moment => moment

def asked (service : Service) (url : String) (moment : TimeValue) :
    Option CachedHttpEntry → Service
  | none => { service with now := moment, pending := service.pending ++ [url] }
  | some cached => { service with
      now := moment
      hits := { url, result := cachedResult cached, moment } :: service.hits }

def settled (service : Service) (url : String) (moment : TimeValue) :
    Option FetchResponse → Service
  | none => { service with now := moment }
  | some response => { service with
      now := moment
      fetches := { url, response, moment } :: service.fetches
      sets := ((setFetched url response).map (·, moment)).toList ++ service.sets }

/-- Time does not run backwards. -/
def step (service : Service) (event : Event) : Option Service :=
  if service.now.time ≤ event.moment.time then
    match event with
    | .get url cached moment => some (asked service url moment cached)
    | .settle position response moment =>
        service.pending[position]?.map fun url =>
          settled { service with pending := service.pending.eraseIdx position } url moment
            response
  else none

/-- The cache answers with an entry that was put under the key, and never past its
ttl. -/
def NeverPastTtl (service : Service) (event : Event) : Prop :=
  ∀ url cached moment, event = .get url (some cached) moment →
    ∃ call since, (call, since) ∈ service.sets ∧ call.key = cacheKeyForUrl url ∧
      call.entry = cached ∧ call.ttl.Exceeds (moment.time - since.time)

/-- A response that is going to be cached has a positive first max-age directive,
and none that is smaller, or no directive at all. -/
def LeadsWell (event : Event) : Prop :=
  ∀ position response moment, event = .settle position (some response) moment →
    response.ok = true → FirstIsLeast response.cacheControl

/-- The body is the one that a successful fetch was answered with, at an age that the
response allows. -/
structure Fresh (fetches : List Fetch) (hit : Hit) : Prop where
  source : ∃ fetch ∈ fetches, fetch.url = hit.url ∧ fetch.response.ok = true ∧
    (fetchedResult fetch.response).body = hit.result.body ∧
    fetch.moment.time ≤ hit.moment.time ∧
    WithinLifetime fetch.response.cacheControl (hit.moment.time - fetch.moment.time)

/-! ## What is in the cache -/

structure Backed (service : Service) : Prop where
  sets : ∀ call since, (call, since) ∈ service.sets → ∃ fetch ∈ service.fetches,
    fetch.moment = since ∧ setFetched fetch.url fetch.response = some call ∧
      FirstIsLeast fetch.response.cacheControl
  elapsed : ∀ fetch ∈ service.fetches, fetch.moment.time ≤ service.now.time
  fresh : ∀ hit ∈ service.hits, Fresh service.fetches hit

theorem setFetched_eq_some {url : String} {response : FetchResponse} {call : SetCall}
    (isSet : setFetched url response = some call) :
    response.ok = true ∧ call = {
      key := cacheKeyForUrl url
      entry := { body := response.body, status := response.status }
      ttl := ttlFor response.cacheControl } := by
  unfold setFetched at isSet
  split at isSet
  · rename_i ok
    exact ⟨ok, (Option.some.inj isSet).symm⟩
  · cases isSet

theorem cacheKeyForUrl_injective {url other : String}
    (same : cacheKeyForUrl url = cacheKeyForUrl other) : url = other := by
  have chars := congrArg String.toList same
  simp only [cacheKeyForUrl, String.toList_append] at chars
  exact String.toList_inj.mp (List.append_cancel_left chars)

theorem Fresh.mono {fetches more : List Fetch} {hit : Hit} (fresh : Fresh fetches hit)
    (kept : ∀ fetch ∈ fetches, fetch ∈ more) : Fresh more hit := by
  rcases fresh.source with ⟨fetch, member, isSource⟩
  exact ⟨fetch, kept fetch member, isSource⟩

private theorem Backed.hit_fresh {service : Service} (backed : Backed service) {url : String}
    {cached : CachedHttpEntry} {moment : TimeValue}
    (later : service.now.time ≤ moment.time)
    (contract : NeverPastTtl service (.get url (some cached) moment)) :
    Fresh service.fetches { url, result := cachedResult cached, moment } := by
  rcases contract url cached moment rfl with ⟨call, since, member, sameKey, rfl, unexpired⟩
  rcases backed.sets call since member with ⟨fetch, fetched, rfl, isSet, leads⟩
  rcases setFetched_eq_some isSet with ⟨ok, rfl⟩
  have before := backed.elapsed fetch fetched
  refine ⟨fetch, fetched, cacheKeyForUrl_injective sameKey, ok, rfl, before.trans later, ?_⟩
  apply withinLifetime_of_exceeds leads _ unexpired
  have := moment.notLater
  have := fetch.moment.notEarlier
  omega

theorem backed_step {service next : Service} {event : Event} (backed : Backed service)
    (contract : NeverPastTtl service event) (leads : LeadsWell event)
    (stepped : step service event = some next) : Backed next := by
  unfold step at stepped
  split at stepped
  · rename_i later
    have elapsed : ∀ fetch ∈ service.fetches, fetch.moment.time ≤ event.moment.time :=
      fun fetch member => Int.le_trans (backed.elapsed fetch member) later
    cases event with
    | get url cached moment =>
        cases stepped
        cases cached with
        | none => exact ⟨backed.sets, elapsed, backed.fresh⟩
        | some cached =>
            refine ⟨backed.sets, elapsed, fun hit member => ?_⟩
            rcases List.mem_cons.mp member with rfl | member
            · exact backed.hit_fresh later contract
            · exact backed.fresh hit member
    | settle position response moment =>
        rcases Option.map_eq_some_iff.mp stepped with ⟨url, -, rfl⟩
        cases response with
        | none => exact ⟨backed.sets, elapsed, backed.fresh⟩
        | some response =>
            have kept : ∀ fetch ∈ service.fetches,
                fetch ∈ { url, response, moment } :: service.fetches :=
              fun fetch member => List.mem_cons_of_mem _ member
            refine ⟨?_, ?_, fun hit member => (backed.fresh hit member).mono kept⟩
            · intro call since member
              rcases List.mem_append.mp member with new | old
              · rcases Option.map_eq_some_iff.mp (Option.mem_toList.mp new) with
                  ⟨set, isSet, same⟩
                cases same
                exact ⟨_, List.mem_cons_self .., rfl, isSet,
                  leads position response moment rfl (setFetched_eq_some isSet).1⟩
              · rcases backed.sets call since old with ⟨fetch, fetched, isSource⟩
                exact ⟨fetch, kept fetch fetched, isSource⟩
            · intro fetch member
              rcases List.mem_cons.mp member with rfl | member
              · exact Int.le_refl _
              · exact elapsed fetch member
  · cases stepped

/-- Whatever the calls, the responses and the clock, every answer from the cache is
fresh when the responses lead well. -/
theorem hits_fresh {now : TimeValue} {events : List Event} {final : Service}
    (runs : Machine.run step { now } events = some final)
    (contract : Machine.Along step NeverPastTtl { now } events)
    (leads : ∀ event ∈ events, LeadsWell event) :
    ∀ hit ∈ final.hits, Fresh final.fetches hit := by
  have start : Backed { now } := by
    refine ⟨fun _ _ member => ?_, fun _ member => ?_, fun _ member => ?_⟩
    · cases member
    · cases member
    · cases member
  have leadsAlong : Machine.Along step (fun _ event => LeadsWell event) { now } events :=
    Machine.along_of_forall_mem (fun event member _ => leads event member) _
  have backed := Machine.invariant_of_run Backed
    (fun service event next backed allowed stepped =>
      backed_step backed allowed.1 allowed.2 stepped)
    start (contract.and leadsAlong) runs
  exact backed.fresh

/-! ### A url that is asked for again after a second -/

def moment (seconds : Fin 3) : TimeValue where
  time := 1000 * seconds
  notEarlier := by omega
  notLater := by omega

def answering (cacheControl : String) : FetchResponse where
  status := 200
  headers := [("cache-control", cacheControl), ("content-type", "text/plain")]
  json := none
  text := some "fetched"

def cachedAnswer (cacheControl : String) : CachedHttpEntry where
  body := (answering cacheControl).body
  status := 200

def fetchedThenCached (cacheControl : String) : List Event :=
  [.get "https://example.com/t" none (moment 0),
    .settle 0 (some (answering cacheControl)) (moment 0),
    .get "https://example.com/t" (some (cachedAnswer cacheControl)) (moment 1)]

def afterCached (cacheControl : String) : Service where
  now := moment 1
  fetches := [{
    url := "https://example.com/t", response := answering cacheControl, moment := moment 0 }]
  sets := [({
    key := cacheKeyForUrl "https://example.com/t"
    entry := cachedAnswer cacheControl
    ttl := ttlFor (some cacheControl) }, moment 0)]
  hits := [{
    url := "https://example.com/t"
    result := cachedResult (cachedAnswer cacheControl)
    moment := moment 1 }]

theorem run_fetchedThenCached (cacheControl : String) :
    Machine.run step { now := moment 0 } (fetchedThenCached cacheControl) =
      some (afterCached cacheControl) :=
  rfl

theorem fetchedThenCached_contract {cacheControl : String}
    (unexpired : (ttlFor (some cacheControl)).Exceeds 1000) :
    Machine.Along step NeverPastTtl { now := moment 0 } (fetchedThenCached cacheControl) := by
  refine ⟨?_, fun _ first => ?_⟩
  · rintro _ _ _ ⟨⟩
  cases first
  refine ⟨?_, fun _ second => ?_⟩
  · rintro _ _ _ ⟨⟩
  cases second
  refine ⟨?_, fun _ _ => trivial⟩
  rintro _ _ _ ⟨⟩
  exact ⟨_, _, List.mem_singleton_self _, rfl, rfl, unexpired⟩

theorem hits_fresh_max_age :
    Fresh (afterCached "max-age=120").fetches {
      url := "https://example.com/t"
      result := cachedResult (cachedAnswer "max-age=120")
      moment := moment 1 } := by
  have found : matchMaxAge "max-age=120".toList = some ['1', '2', '0'] := by decide
  have ttl : ttlFor (some "max-age=120") = .finite 120000 := by
    have executed : execMaxAge "max-age=120" = some ['1', '2', '0'] := by decide
    unfold ttlFor
    rw [parseCacheControlMaxAge_some executed (by decide) (by decide)]
    rfl
  have contract : Machine.Along step NeverPastTtl { now := moment 0 }
      (fetchedThenCached "max-age=120") := by
    apply fetchedThenCached_contract
    rw [ttl]
    decide
  have leads : ∀ event ∈ fetchedThenCached "max-age=120", LeadsWell event := by
    rintro event member position response moment rfl -
    simp only [fetchedThenCached, List.mem_cons, reduceCtorEq, false_or,
      List.not_mem_nil, or_false, Event.settle.injEq, Option.some.injEq] at member
    rw [member.2.1]
    exact firstIsLeast_of_single found (by decide) (by decide)
  exact hits_fresh (run_fetchedThenCached "max-age=120") contract leads _
    (List.mem_singleton_self _)

/-- A response that says it must not be reused is served from the cache. -/
theorem zero_max_age_served :
    ∃ events final, Machine.run step { now := moment 0 } events = some final ∧
      Machine.Along step NeverPastTtl { now := moment 0 } events ∧
      ∃ hit ∈ final.hits, ¬ Fresh final.fetches hit := by
  have executed : execMaxAge "max-age=0" = some ['0'] := by decide
  have ttl : ttlFor (some "max-age=0") = .finite defaultTtlMs := by
    have zero : parseInt ['0'] = .finite 0 :=
      @ofNat_exact _ 0 0 (by decide) (by decide) (by decide)
    simp [ttlFor, parseCacheControlMaxAge, executed, zero]
  have contract : Machine.Along step NeverPastTtl { now := moment 0 }
      (fetchedThenCached "max-age=0") := by
    apply fetchedThenCached_contract
    rw [ttl]
    decide
  refine ⟨_, _, run_fetchedThenCached "max-age=0", contract, _, List.mem_singleton_self _, ?_⟩
  intro fresh
  rcases fresh.source with ⟨fetch, member, -, -, -, -, lifetime⟩
  rw [List.mem_singleton.mp member] at lifetime
  have contains : ContainsMaxAge "max-age=0" 0 :=
    ⟨0, trivial, ['0'], directive_of_matchMaxAge (by decide), rfl⟩
  have expired := lifetime.stated "max-age=0" 0 rfl contains
  revert expired
  decide

end TransactionService.CachedGet
