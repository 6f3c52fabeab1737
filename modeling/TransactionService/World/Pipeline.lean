import TransactionService.VerifyTask.Queue
import TransactionService.World.Enqueues
import TransactionService.World.Finality
import TransactionService.World.IdentityFrame

namespace TransactionService.Pipeline

open Enqueues IdentityFrame SharedStore SingleUse Sessions

/-! # From submission to verdict

The store, the queue and the worker put together. Requests and the call that the
drainer awaits run step by step beside each other, and every guarded write is in
two halves between which others run. -/

inductive Processor
  | processVerifyTask

/-- The ids of `owed` have been stored with a new attempt by a request that has yet
to enqueue them. -/
structure Service where
  store : ExchangeSystem
  queue : VerifyTaskQueue.Traced Processor
  owed : List String

/-- The session of the worker; requests use the others. -/
def workerSession : Nat := 0

inductive Label
  /-- A step of a request, a creation or an eviction. -/
  | client (label : ExchangeLabel)
  | enqueue (position : Nat)
  | callback (position : Nat)
  /-- The call that the drainer awaits loads its exchange. -/
  | load (answers : Answers)
  | compare
  | swap
  | settle (settled : VerifyTaskQueue.Settled)

def start : Service where
  store := SharedStore.start
  queue := VerifyTaskQueue.start .processVerifyTask
  owed := []

def isClient : ExchangeLabel → Bool
  | .create _ => true
  | .evict _ => true
  | .load session _ (.request _) => decide (session ≠ workerSession)
  | .load _ _ (.work _) => false
  | .put session => decide (session ≠ workerSession)
  | .compare session => decide (session ≠ workerSession)
  | .swap session => decide (session ≠ workerSession)
  | .abandon session => decide (session ≠ workerSession)
  | .commit _ => false

section

variable (runtime : Runtime) (config : Config)

def enqueuedAfter (store : ExchangeSystem) (session : Nat) : List String :=
  match store.sessions session with
  | none => []
  | some working =>
      match working.task with
      | .request request =>
          World.enqueuedIds (served runtime config request working.loaded).calls
      | .work _ => []

def owes (store : ExchangeSystem) : ExchangeLabel → List String
  | .put session => enqueuedAfter runtime config store session
  | .swap session => enqueuedAfter runtime config store session
  | _ => []

/-- The call that the drainer awaits has made all its writes, or has found no
exchange. -/
def returns (store : ExchangeSystem) (exchangeId : String) : Bool :=
  match store.sessions workerSession with
  | some working => working.writes.isEmpty
  | none => (store.stored exchangeId).isNone

def isUnchecked (store : ExchangeSystem) : Bool :=
  (store.sessions workerSession).any (·.checked.isNone)

def step (service : Service) : Label → Option Service
  | .client label =>
      if isClient label then
        (sessionStep runtime config service.store label).map fun store => { service with
          store
          owed := service.owed ++ owes runtime config service.store label }
      else none
  | .enqueue position =>
      match service.owed[position]? with
      | none => none
      | some exchangeId =>
          (VerifyTaskQueue.step .processVerifyTask service.queue (.enqueue exchangeId)).map
            fun queue => { service with queue, owed := service.owed.eraseIdx position }
  | .callback position =>
      (VerifyTaskQueue.step .processVerifyTask service.queue (.callback position)).map
        fun queue => { service with queue }
  | .load answers =>
      match service.queue.awaiting with
      | [] => none
      | drainer :: _ =>
          (sessionStep runtime config service.store
            (.load workerSession drainer.processing (.work answers))).map
              fun store => { service with store }
  | .compare =>
      if isUnchecked service.store then
        (sessionStep runtime config service.store (.compare workerSession)).map
          fun store => { service with store }
      else none
  | .swap =>
      (sessionStep runtime config service.store (.swap workerSession)).map
        fun store => { service with store }
  | .settle settled =>
      match service.queue.awaiting, settled with
      | drainer :: _, .resolved =>
          if returns service.store drainer.processing then
            finish service .resolved
          else none
      | _ :: _, .thrown => finish service .thrown
      | [], _ => none
where
  finish (service : Service) (settled : VerifyTaskQueue.Settled) : Option Service :=
    (VerifyTaskQueue.step .processVerifyTask service.queue (.settle 0 settled)).bind
      fun queue => (sessionStep runtime config service.store (.abandon workerSession)).map
        fun store => { service with store, queue }

end

/-! ## Who has a task in hand -/

/-- The session is going to make its last write over this attempt. -/
def AtWork (working : ExchangeSession) (attemptId : String) : Prop :=
  working.writes ≠ [] ∧ readVerifyTaskAttemptId working.loaded = some attemptId

/-- The drainer awaits a call for the exchange which has yet to load it, or works
on this attempt. -/
def Processing (service : Service) (exchangeId attemptId : String) : Prop :=
  ∃ drainer ∈ service.queue.awaiting, drainer.processing = exchangeId ∧
    ∀ working, service.store.sessions workerSession = some working →
      AtWork working attemptId

/-- A request is about to enqueue the exchange, the exchange is in the queue, or the
worker has it. -/
def InHand (service : Service) (exchangeId attemptId : String) : Prop :=
  exchangeId ∈ service.owed ∨ exchangeId ∈ service.queue.queue ∨
    Processing service exchangeId attemptId

def StoredPending (store : ExchangeSystem) (exchangeId attemptId : String) : Prop :=
  ∃ record task, store.stored exchangeId = some record ∧ record.verifyTask = some task ∧
    task.status.isPending = true ∧ task.attemptId = attemptId

/-- Every task that is queued or running is in hand. -/
def Tended (service : Service) : Prop :=
  ∀ exchangeId attemptId, StoredPending service.store exchangeId attemptId →
    InHand service exchangeId attemptId

/-- The store accepts the writes of the worker, and no request puts an attempt back
that is no longer pending. -/
def Undisturbed (service : Service) : Label → Prop
  | .settle .thrown => False
  | .client (.put session) => ∀ working record rest task,
      service.store.sessions session = some working →
      working.writes = .put record :: rest →
      working.loaded.verifyTask = some task → task.status.isPending = true →
      record.verifyTask = some task →
      StoredPending service.store record.exchangeId task.attemptId
  | _ => True

/-! ## The invariant -/

variable {runtime : Runtime} {config : Config}

structure Holds (runtime : Runtime) (config : Config) (service : Service) : Prop where
  reached : ∃ labels,
    Machine.run (sessionStep runtime config) SharedStore.start labels = some service.store
  queue : VerifyTaskQueue.Invariant service.queue
  generation : service.queue.generation = 0
  worker : ∀ working, service.store.sessions workerSession = some working →
    ∃ drainer answers, service.queue.awaiting = [drainer] ∧
      working.key = drainer.processing ∧ working.task = .work answers
  clients : ∀ session working, session ≠ workerSession →
    service.store.sessions session = some working → ∃ request, working.task = .request request
  tended : Tended service

theorem start_holds : Holds runtime config start where
  reached := ⟨[], rfl⟩
  queue := VerifyTaskQueue.start_invariant _
  generation := rfl
  worker _ found := nomatch found
  clients _ _ _ found := nomatch found
  tended _ _ pending := by
    rcases pending with ⟨record, task, found, -⟩
    cases found

variable {service next : Service} {store : ExchangeSystem}

theorem Holds.drainers (holds : Holds runtime config service) :
    service.queue.scheduled.length + service.queue.awaiting.length =
      if service.queue.running then 1 else 0 := by
  have counted := holds.queue.drainers
  have scheduled : service.queue.scheduled.countP (· = service.queue.generation) =
      service.queue.scheduled.length := by
    apply List.countP_eq_length.mpr
    intro captured member
    have before := holds.queue.scheduledBefore captured member
    simp only [decide_eq_true_eq]
    have generation := holds.generation
    omega
  have awaiting : service.queue.awaiting.countP (·.generation = service.queue.generation) =
      service.queue.awaiting.length := by
    apply List.countP_eq_length.mpr
    intro drainer member
    have before := holds.queue.awaitingBefore drainer member
    simp only [decide_eq_true_eq]
    have generation := holds.generation
    omega
  unfold VerifyTaskQueue.currentDrainers at counted
  rw [scheduled, awaiting] at counted
  exact counted

theorem Holds.awaiting_alone (holds : Holds runtime config service)
    {drainer : VerifyTaskQueue.Drainer} {others : List VerifyTaskQueue.Drainer}
    (isAwaiting : service.queue.awaiting = drainer :: others) : others = [] := by
  have drainers := holds.drainers
  rw [isAwaiting, List.length_cons] at drainers
  apply List.eq_nil_of_length_eq_zero
  split at drainers <;> omega

theorem Holds.sound (holds : Holds runtime config service) :
    Sound (exchangeProtocol runtime config)
      (AsCreated (exchangeProtocol runtime config) identityOf service.store) service.store := by
  rcases holds.reached with ⟨labels, runs⟩
  exact exchange_framed.sound_of_run runs

theorem Holds.next_reached (holds : Holds runtime config service) {label : ExchangeLabel}
    (stepped : sessionStep runtime config service.store label = some store) :
    ∃ labels, Machine.run (sessionStep runtime config) SharedStore.start labels =
      some store := by
  rcases holds.reached with ⟨labels, runs⟩
  exact ⟨labels ++ [label], Machine.run_concat runs stepped⟩

theorem Holds.session_keyed (holds : Holds runtime config service) {session : Nat}
    {working : ExchangeSession} (found : service.store.sessions session = some working) :
    working.loaded.exchangeId = working.key :=
  exchange_framed.keyOf_eq (holds.sound.sessions session working found).loaded

/-! ### Writes -/

theorem pending_update {before after : ExchangeSystem} {key : String}
    {value : Option Exchange} {exchangeId attemptId : String}
    (stored : after.stored = Function.update before.stored key value)
    (pending : StoredPending after exchangeId attemptId) :
    exchangeId ≠ key ∧ StoredPending before exchangeId attemptId ∨
      exchangeId = key ∧ ∃ record task, value = some record ∧ record.verifyTask = some task ∧
        task.status.isPending = true ∧ task.attemptId = attemptId := by
  rcases pending with ⟨record, task, found, hasTask, isPending, same⟩
  rw [stored] at found
  rcases Machine.update_cases found with ⟨here, new⟩ | ⟨elsewhere, old⟩
  · exact .inr ⟨here, record, task, new, hasTask, isPending, same⟩
  · exact .inl ⟨elsewhere, record, task, old, hasTask, isPending, same⟩

theorem Tended.write {key : String} {value : Option Exchange} (tended : Tended service)
    (stored : next.store.stored = Function.update service.store.stored key value)
    (keeps : ∀ exchangeId attemptId, InHand service exchangeId attemptId →
      InHand next exchangeId attemptId)
    (written : ∀ record task, value = some record → record.verifyTask = some task →
      task.status.isPending = true → InHand next key task.attemptId) : Tended next := by
  intro exchangeId attemptId pending
  rcases pending_update stored pending with
    ⟨-, before⟩ | ⟨rfl, record, task, new, hasTask, is, rfl⟩
  · exact keeps _ _ (tended _ _ before)
  · exact written record task new hasTask is

theorem Tended.mono (tended : Tended service)
    (stored : next.store.stored = service.store.stored)
    (keeps : ∀ exchangeId attemptId, StoredPending service.store exchangeId attemptId →
      InHand service exchangeId attemptId → InHand next exchangeId attemptId) :
    Tended next := by
  intro exchangeId attemptId pending
  unfold StoredPending at pending
  rw [stored] at pending
  exact keeps _ _ pending (tended _ _ pending)

/-! ### What the writes leave behind -/

theorem written_pending {request : StoreRequest} {loaded record : Exchange}
    {task : VerifyTask} (saved : written runtime config request loaded = some record)
    (hasTask : record.verifyTask = some task) (pending : task.status.isPending = true) :
    loaded.exchangeId ∈
        World.enqueuedIds (served runtime config request loaded).calls ∨
      loaded.verifyTask = some task ∧ request.endpoint.sweeps = false := by
  have effect := @serve_affects runtime config request.answers request.endpoint loaded
    request.workflowId
  have isSaved : (serve runtime config request.answers request.workflowId request.endpoint
      (some loaded)).saved = some record := saved
  unfold served
  unfold Affects at effect
  rw [isSaved] at effect
  generalize World.enqueuedIds _ = ids at effect ⊢
  cases effect with
  | kept same =>
      cases sweeps : request.endpoint.sweeps with
      | false => exact .inr ⟨same.symm.trans hasTask, rfl⟩
      | true =>
          -- a sweep never leaves the task as it was
          rcases serve_swept sweeps isSaved with ⟨exchange, plan, found, planned, rfl⟩
          cases found
          rcases planSweep_eq_some config request.answers planned with
            ⟨detail, earlier, rfl, -, isEarlier, -, -, ⟨-, rfl⟩ | ⟨-, rfl⟩⟩
          · have attempts := congrArg (Option.map VerifyTask.attempt) (same.trans isEarlier)
            have impossible : earlier.attempt + 1 = earlier.attempt := Option.some.inj attempts
            omega
          · cases hasTask
            cases pending
  | gaveUp isSweep found isTask wasPending spent =>
      cases hasTask
      cases pending
  | retried isSweep found isTask wasPending again => exact .inl (List.mem_singleton.mpr rfl)
  | queued indices takes found isTask => exact .inl (List.mem_singleton.mpr rfl)

theorem worker_expected {answers : Answers} {exchangeId : String} {loaded : Exchange}
    {writes rest : List ExchangeWrite} {key expected : String} {update : Exchange → Exchange}
    (planned : writes <:+ workerWrites runtime config answers exchangeId loaded)
    (next : writes = .guarded key expected update :: rest) :
    key = exchangeId ∧ readVerifyTaskAttemptId loaded = some expected := by
  have member := planned.subset (next ▸ List.mem_cons_self)
  unfold workerWrites at member
  split at member
  · cases member
  · rename_i plan isPlan
    rcases (planWorker_eq_ok runtime config answers).mp isPlan with
      ⟨exchange, captured, found, isTask, -, rfl⟩
    cases found
    have attempt := readVerifyTaskAttemptId_verify isTask
    rw [planFor_expectedAttemptId] at member
    rcases List.mem_cons.mp member with same | last
    · cases same
      exact ⟨rfl, attempt⟩
    · cases List.mem_singleton.mp last
      exact ⟨rfl, attempt⟩

private theorem worker_swap {answers : Answers} {exchangeId : String} {loaded current : Exchange}
    {writes rest : List ExchangeWrite} {key expected : String} {update : Exchange → Exchange}
    {task : VerifyTask}
    (planned : writes <:+ workerWrites runtime config answers exchangeId loaded)
    (next : writes = .guarded key expected update :: rest)
    (hasTask : (update current).verifyTask = some task)
    (pending : task.status.isPending = true) :
    rest ≠ [] ∧ readVerifyTaskAttemptId loaded = some task.attemptId := by
  unfold workerWrites at planned
  split at planned
  · rw [next] at planned
    cases List.suffix_nil.mp planned
  · rename_i plan isPlan
    rcases (planWorker_eq_ok runtime config answers).mp isPlan with
      ⟨exchange, captured, found, isTask, -, rfl⟩
    cases found
    rw [next] at planned
    rcases List.suffix_cons_iff.mp planned with both | planned
    · cases both
      refine ⟨by simp, ?_⟩
      rw [planFor_running_eq] at hasTask
      cases current with
      | verify detail =>
          have attempt := readVerifyTaskAttemptId_verify isTask
          cases hasTask
          exact attempt
      | didAuth detail => cases hasTask
      | claim detail => cases hasTask
    · rcases List.suffix_cons_iff.mp planned with last | none
      · cases last
        rcases planFor_final_cases runtime config answers exchange captured with
          ⟨message, isFailure, -⟩ | ⟨base, merged, -, -, isSettled⟩
        · rw [isFailure] at hasTask
          cases current with
          | verify detail =>
              cases hasTask
              cases pending
          | didAuth detail => cases hasTask
          | claim detail => cases hasTask
        · rw [isSettled] at hasTask
          cases hasTask
          cases pending
      · cases List.suffix_nil.mp none

/-! ### Steps of the clients -/

theorem client_sessions {label : ExchangeLabel} (client : isClient label = true)
    (stepped : sessionStep runtime config service.store label = some store) :
    store.sessions workerSession = service.store.sessions workerSession := by
  have moved : ∀ {session : Nat} {working : ExchangeSession},
      decide (session ≠ workerSession) = true →
      Function.update service.store.sessions session (some working) workerSession =
        service.store.sessions workerSession :=
    fun other => Function.update_of_ne (Ne.symm (of_decide_eq_true other)) _ _
  cases label with
  | create creation =>
      rcases step_create stepped with ⟨-, rfl⟩
      rfl
  | load session key task =>
      rcases step_load stepped with ⟨loaded, -, rfl⟩
      cases task with
      | request request => exact moved client
      | work answers => cases client
  | put session =>
      rcases step_put stepped with ⟨working, record, rest, -, -, rfl⟩
      exact moved client
  | compare session =>
      rcases step_compare stepped with ⟨_, _, _, _, _, -, -, ⟨_, -, rfl⟩ | rfl⟩
      · exact moved client
      · exact moved client
  | swap session =>
      rcases step_swap stepped with ⟨_, _, _, _, _, _, -, -, -, rfl⟩
      exact moved client
  | commit session => cases client
  | abandon session =>
      cases stepped
      exact Function.update_of_ne (Ne.symm (of_decide_eq_true client)) _ _
  | evict key =>
      cases stepped
      rfl

private theorem client_clients (holds : Holds runtime config service) {label : ExchangeLabel}
    (client : isClient label = true)
    (stepped : sessionStep runtime config service.store label = some store) :
    ∀ session working, session ≠ workerSession → store.sessions session = some working →
      ∃ request, working.task = .request request := by
  intro session working other found
  have earlier : ∀ before, service.store.sessions session = some before →
      ∃ request, before.task = .request request :=
    fun before isBefore => holds.clients session before other isBefore
  have moved : ∀ {moving : Nat} {before after : ExchangeSession},
      service.store.sessions moving = some before →
      Function.update service.store.sessions moving (some after) session = some working →
      after.task = before.task → ∃ request, working.task = .request request := by
    intro moving before after isBefore isWorking sameTask
    rcases Machine.update_cases isWorking with ⟨rfl, new⟩ | ⟨-, old⟩
    · cases new
      rcases earlier before isBefore with ⟨request, isRequest⟩
      exact ⟨request, sameTask.trans isRequest⟩
    · exact earlier working old
  cases label with
  | create creation =>
      rcases step_create stepped with ⟨-, rfl⟩
      exact earlier working found
  | load moving key task =>
      rcases step_load stepped with ⟨loaded, -, rfl⟩
      rcases Machine.update_cases found with ⟨-, new⟩ | ⟨-, old⟩
      · cases new
        cases task with
        | request request => exact ⟨request, rfl⟩
        | work answers => cases client
      · exact earlier working old
  | put moving =>
      rcases step_put stepped with ⟨before, record, rest, isBefore, -, rfl⟩
      exact moved isBefore found rfl
  | compare moving =>
      rcases step_compare stepped with ⟨before, _, _, _, _, isBefore, -, ⟨_, -, rfl⟩ | rfl⟩
      · exact moved isBefore found rfl
      · exact moved isBefore found rfl
  | swap moving =>
      rcases step_swap stepped with ⟨before, _, _, _, _, _, isBefore, -, -, rfl⟩
      exact moved isBefore found rfl
  | commit moving => cases client
  | abandon moving =>
      cases stepped
      rcases Machine.update_cases found with ⟨-, new⟩ | ⟨-, old⟩
      · cases new
      · exact earlier working old
  | evict key =>
      cases stepped
      exact earlier working found

private theorem request_put (holds : Holds runtime config service) {session : Nat}
    {working : ExchangeSession} {request : StoreRequest} {record : Exchange}
    {rest : List ExchangeWrite} (found : service.store.sessions session = some working)
    (isRequest : working.task = .request request)
    (writes : working.writes = .put record :: rest) :
    written runtime config request working.loaded = some record ∧
      request.endpoint.sweeps = false := by
  have planned := (holds.sound.sessions session working found).planned
  have plan : (exchangeProtocol runtime config).plan working.task working.key working.loaded =
      requestWrites runtime config request working.loaded := by
    rw [isRequest]
    rfl
  rw [plan, writes] at planned
  unfold requestWrites at planned
  split at planned
  · cases List.suffix_nil.mp planned
  · rename_i made saved
    split at planned
    · unfold sweepWrites at planned
      split at planned
      · cases List.suffix_nil.mp planned
      · rcases List.suffix_cons_iff.mp planned with same | none
        · cases same
        · cases List.suffix_nil.mp none
    · rename_i plain
      rcases List.suffix_cons_iff.mp planned with same | none
      · cases same
        exact ⟨saved, by simpa using plain⟩
      · cases List.suffix_nil.mp none

private theorem request_swap (holds : Holds runtime config service) {session : Nat}
    {working : ExchangeSession} {request : StoreRequest} {key expected : String}
    {update : Exchange → Exchange} {rest : List ExchangeWrite}
    (found : service.store.sessions session = some working)
    (isRequest : working.task = .request request)
    (writes : working.writes = .guarded key expected update :: rest) (current : Exchange) :
    written runtime config request working.loaded = some (update current) ∧
      request.endpoint.sweeps = true ∧ key = working.key := by
  have planned := (holds.sound.sessions session working found).planned
  have plan : (exchangeProtocol runtime config).plan working.task working.key working.loaded =
      requestWrites runtime config request working.loaded := by
    rw [isRequest]
    rfl
  rw [plan, writes] at planned
  unfold requestWrites at planned
  split at planned
  · cases List.suffix_nil.mp planned
  · rename_i made saved
    split at planned
    · rename_i sweeps
      rcases serve_swept sweeps saved with ⟨exchange, plan, isLoaded, isPlan, rfl⟩
      cases isLoaded
      rw [sweepWrites_eq isPlan] at planned
      rcases List.suffix_cons_iff.mp planned with same | none
      · cases same
        exact ⟨saved, sweeps, holds.session_keyed found⟩
      · cases List.suffix_nil.mp none
    · rcases List.suffix_cons_iff.mp planned with same | none
      · cases same
      · cases List.suffix_nil.mp none

private theorem client_tended (holds : Holds runtime config service) {label : ExchangeLabel}
    (client : isClient label = true)
    (undisturbed : Undisturbed service (.client label))
    (stepped : sessionStep runtime config service.store label = some store) :
    Tended { service with
      store, owed := service.owed ++ owes runtime config service.store label } := by
  have worker := client_sessions client stepped
  have keeps : ∀ exchangeId attemptId, InHand service exchangeId attemptId →
      InHand { service with
        store, owed := service.owed ++ owes runtime config service.store label }
        exchangeId attemptId := by
    intro exchangeId attemptId inHand
    rcases inHand with owed | queued | ⟨drainer, member, isOwn, atWork⟩
    · exact .inl (List.mem_append_left _ owed)
    · exact .inr (.inl queued)
    · refine .inr (.inr ⟨drainer, member, isOwn, ?_⟩)
      intro working found
      rw [worker] at found
      exact atWork working found
  have unchanged : store.stored = service.store.stored → Tended { service with
      store, owed := service.owed ++ owes runtime config service.store label } :=
    fun same => holds.tended.mono same fun _ _ _ => keeps _ _
  cases label with
  | create creation =>
      rcases step_create stepped with ⟨-, rfl⟩
      apply holds.tended.write rfl keeps
      intro record task same hasTask
      cases same
      cases (createExchange_verifyTask config creation.answers creation.data).symm.trans hasTask
  | load session key task =>
      rcases step_load stepped with ⟨loaded, -, rfl⟩
      exact unchanged rfl
  | put session =>
      rcases step_put stepped with ⟨working, record, rest, found, writes, rfl⟩
      rcases holds.clients session working (of_decide_eq_true client) found with
        ⟨request, isRequest⟩
      rcases request_put holds found isRequest writes with ⟨saved, plain⟩
      apply holds.tended.write rfl keeps
      rintro _ task ⟨rfl⟩ hasTask pending
      rcases written_pending saved hasTask pending with enqueues | ⟨asLoaded, -⟩
      · left
        apply List.mem_append_right
        have owned : (exchangeProtocol runtime config).keyOf record =
            working.loaded.exchangeId :=
          congrArg Identity.exchangeId (written_change saved).identity
        rw [owned]
        simpa [owes, enqueuedAfter, found, isRequest] using enqueues
      · exact keeps _ _ (holds.tended _ _
          (undisturbed working record rest task found writes asLoaded pending hasTask))
  | compare session =>
      rcases step_compare stepped with ⟨_, _, _, _, _, -, -, ⟨_, -, rfl⟩ | rfl⟩
      · exact unchanged rfl
      · exact unchanged rfl
  | swap session =>
      rcases step_swap stepped with
        ⟨working, key, expected, update, rest, current, found, writes, -, rfl⟩
      rcases holds.clients session working (of_decide_eq_true client) found with
        ⟨request, isRequest⟩
      rcases request_swap holds found isRequest writes current with
        ⟨saved, sweeps, isKey⟩
      apply holds.tended.write rfl keeps
      rintro _ task ⟨rfl⟩ hasTask pending
      rcases written_pending saved hasTask pending with enqueues | ⟨-, plain⟩
      · left
        apply List.mem_append_right
        rw [isKey, ← holds.session_keyed found]
        simpa [owes, enqueuedAfter, found, isRequest] using enqueues
      · cases sweeps.symm.trans plain
  | commit session => cases client
  | abandon session =>
      cases stepped
      exact unchanged rfl
  | evict key =>
      cases stepped
      apply holds.tended.write rfl keeps
      intro record task same
      cases same

private theorem client_holds (holds : Holds runtime config service) {label : ExchangeLabel}
    (client : isClient label = true)
    (undisturbed : Undisturbed service (.client label))
    (stepped : sessionStep runtime config service.store label = some store) :
    Holds runtime config { service with
      store, owed := service.owed ++ owes runtime config service.store label } where
  reached := holds.next_reached stepped
  queue := holds.queue
  generation := holds.generation
  worker working found := by
    rw [client_sessions client stepped] at found
    exact holds.worker working found
  clients := client_clients holds client stepped
  tended := client_tended holds client undisturbed stepped

/-! ### Steps of the worker -/

theorem worker_planned (holds : Holds runtime config service) {working : ExchangeSession}
    (found : service.store.sessions workerSession = some working) :
    ∃ drainer answers, service.queue.awaiting = [drainer] ∧
      working.key = drainer.processing ∧ working.task = .work answers ∧
      working.writes <:+ workerWrites runtime config answers working.key working.loaded := by
  rcases holds.worker working found with ⟨drainer, answers, isDrainer, isKey, isWork⟩
  refine ⟨drainer, answers, isDrainer, isKey, isWork, ?_⟩
  have planned := (holds.sound.sessions workerSession working found).planned
  rw [isWork] at planned
  exact planned

theorem moved_cases {system : ExchangeSystem} {moving session : Nat}
    {moved working : ExchangeSession}
    (found : (system.move moving moved).sessions session = some working) :
    (session = moving ∧ working = moved) ∨
      (session ≠ moving ∧ system.sessions session = some working) := by
  rcases Machine.update_cases found with ⟨same, new⟩ | ⟨other, old⟩
  · exact .inl ⟨same, (Option.some.inj new).symm⟩
  · exact .inr ⟨other, old⟩

private theorem load_holds (holds : Holds runtime config service)
    {drainer : VerifyTaskQueue.Drainer}
    {others : List VerifyTaskQueue.Drainer} {answers : Answers}
    (isAwaiting : service.queue.awaiting = drainer :: others)
    (stepped : sessionStep runtime config service.store
      (.load workerSession drainer.processing (.work answers)) = some store) :
    Holds runtime config { service with store } := by
  have alone := holds.awaiting_alone isAwaiting
  subst alone
  have reached := holds.next_reached stepped
  rcases step_load stepped with ⟨loaded, isLoaded, rfl⟩
  refine ⟨reached, holds.queue, holds.generation, ?_, ?_, ?_⟩
  · intro working found
    rcases moved_cases found with ⟨-, rfl⟩ | ⟨other, -⟩
    · exact ⟨drainer, answers, isAwaiting, rfl, rfl⟩
    · exact absurd rfl other
  · intro session working other found
    rcases moved_cases found with ⟨same, -⟩ | ⟨-, old⟩
    · exact absurd same other
    · exact holds.clients session working other old
  · refine holds.tended.mono ?_ ?_
    · rfl
    rintro exchangeId attemptId pending (owed | queued | ⟨awaited, member, isOwn, -⟩)
    · exact .inl owed
    · exact .inr (.inl queued)
    · refine .inr (.inr ⟨awaited, member, isOwn, ?_⟩)
      rw [isAwaiting, List.mem_singleton] at member
      subst member
      intro working found
      rcases moved_cases found with ⟨-, rfl⟩ | ⟨other, -⟩
      · rcases pending with ⟨record, task, isStored, hasTask, isPending, isAttempt⟩
        rw [← isOwn, isLoaded] at isStored
        cases isStored
        cases loaded with
        | verify detail =>
            have attempt : readVerifyTaskAttemptId (.verify detail) = some attemptId := by
              rw [readVerifyTaskAttemptId_verify hasTask, isAttempt]
            refine ⟨?_, attempt⟩
            have unsettled : task.status.isTerminal = false := by
              cases status : task.status <;>
                simp [status, VerifyTaskStatus.isPending, VerifyTaskStatus.isTerminal]
                  at isPending ⊢
            have plan := (planWorker_eq_ok runtime config answers).mpr
              ⟨detail, task, rfl, hasTask, unsettled, rfl⟩
            simp [exchangeProtocol, writes, workerWrites, plan]
        | didAuth detail => cases hasTask
        | claim detail => cases hasTask
      · exact absurd rfl other

theorem worker_moved (holds : Holds runtime config service) {working after : ExchangeSession}
    {label : ExchangeLabel} (found : service.store.sessions workerSession = some working)
    (stepped : sessionStep runtime config service.store label = some store)
    (moved : store = service.store.move workerSession after)
    (sameTask : after.task = working.task) (sameKey : after.key = working.key)
    (keeps : ∀ attemptId, StoredPending service.store working.key attemptId →
      AtWork working attemptId → AtWork after attemptId) :
    Holds runtime config { service with store } := by
  have reached := holds.next_reached stepped
  subst moved
  rcases holds.worker working found with ⟨drainer, answers, isAwaiting, isKey, isWork⟩
  refine ⟨reached, holds.queue, holds.generation, ?_, ?_, ?_⟩
  · intro other isOther
    rcases moved_cases isOther with ⟨-, rfl⟩ | ⟨different, -⟩
    · exact ⟨drainer, answers, isAwaiting, sameKey.trans isKey, sameTask.trans isWork⟩
    · exact absurd rfl different
  · intro session other different isOther
    rcases moved_cases isOther with ⟨same, -⟩ | ⟨-, old⟩
    · exact absurd same different
    · exact holds.clients session other different old
  · refine holds.tended.mono ?_ ?_
    · rfl
    rintro exchangeId attemptId pending (owed | queued | ⟨awaited, member, isOwn, atWork⟩)
    · exact .inl owed
    · exact .inr (.inl queued)
    · refine .inr (.inr ⟨awaited, member, isOwn, ?_⟩)
      intro other isOther
      rcases moved_cases isOther with ⟨-, rfl⟩ | ⟨different, -⟩
      · rw [isAwaiting, List.mem_singleton] at member
        have place : working.key = exchangeId := by rw [isKey, ← isOwn, member]
        rw [← place] at pending
        exact keeps attemptId pending (atWork working found)
      · exact absurd rfl different

private theorem compare_holds (holds : Holds runtime config service)
    (stepped : sessionStep runtime config service.store (.compare workerSession) =
      some store) : Holds runtime config { service with store } := by
  rcases step_compare_cases stepped with
    ⟨working, key, expected, update, rest, found, writes, outcome⟩
  rcases outcome with ⟨current, isStored, tagged, moved⟩ | ⟨retagged, moved⟩
  · exact worker_moved holds found stepped moved rfl rfl fun _ _ atWork => atWork
  · apply worker_moved holds found stepped moved rfl rfl
    rintro attemptId ⟨record, task, isStored, hasTask, -, isAttempt⟩ ⟨-, isLoaded⟩
    rcases worker_planned holds found with ⟨drainer, answers, -, -, -, planned⟩
    rcases worker_expected planned writes with ⟨rfl, isExpected⟩
    have attempt : readVerifyTaskAttemptId record = some attemptId := by
      cases record with
      | verify detail => rw [readVerifyTaskAttemptId_verify hasTask, isAttempt]
      | didAuth detail => cases hasTask
      | claim detail => cases hasTask
    exact absurd (attempt.trans (isLoaded.symm.trans isExpected)) (retagged record isStored)

private theorem swap_holds (holds : Holds runtime config service)
    (stepped : sessionStep runtime config service.store (.swap workerSession) =
      some store) : Holds runtime config { service with store } := by
  have reached := holds.next_reached stepped
  rcases step_swap stepped with
    ⟨working, key, expected, update, rest, current, found, isNext, -, rfl⟩
  rcases worker_planned holds found with
    ⟨drainer, answers, isAwaiting, isKey, isWork, planned⟩
  refine ⟨reached, holds.queue, holds.generation, ?_, ?_, ?_⟩
  · intro other isOther
    rcases moved_cases isOther with ⟨-, rfl⟩ | ⟨different, -⟩
    · exact ⟨drainer, answers, isAwaiting, isKey, isWork⟩
    · exact absurd rfl different
  · intro session other different isOther
    rcases moved_cases isOther with ⟨same, -⟩ | ⟨-, old⟩
    · exact absurd same different
    · exact holds.clients session other different old
  · have place := (worker_expected planned isNext).1
    intro exchangeId attemptId pending
    rcases pending_update rfl pending with
      ⟨elsewhere, before⟩ | ⟨rfl, record, task, new, hasTask, is, rfl⟩
    · rcases holds.tended _ _ before with owed | queued | ⟨awaited, member, isOwn, -⟩
      · exact .inl owed
      · exact .inr (.inl queued)
      · rw [isAwaiting, List.mem_singleton] at member
        rw [← isOwn, member, place, isKey] at elsewhere
        exact absurd rfl elsewhere
    · cases new
      rcases worker_swap planned isNext hasTask is with ⟨more, attempt⟩
      refine .inr (.inr ⟨drainer, by rw [isAwaiting]; exact List.mem_singleton.mpr rfl, ?_, ?_⟩)
      · rw [place, isKey]
      · intro other isOther
        rcases moved_cases isOther with ⟨-, rfl⟩ | ⟨different, -⟩
        · exact ⟨more, attempt⟩
        · exact absurd rfl different

/-! ### Steps of the queue -/

theorem drainLoop_advances {Processor : Type} {state : VerifyTaskQueue.Queue Processor}
    {after : VerifyTaskQueue.Queue Processor} (isAfter : (VerifyTaskQueue.drainLoop state
      state.generation).1 = after) :
    after.generation = state.generation ∧ ((state.queue = [] ∧ after.queue = [] ∧
      after.awaiting = state.awaiting ∧ after.scheduled = state.scheduled) ∨
    ∃ exchangeId rest, state.queue = exchangeId :: rest ∧ after.queue = rest ∧
      after.awaiting = state.awaiting ++
        [{ generation := state.generation, processing := exchangeId }] ∧
      after.scheduled = state.scheduled) := by
  unfold VerifyTaskQueue.drainLoop at isAfter
  rw [if_pos rfl] at isAfter
  cases isQueue : state.queue with
  | nil =>
      rw [isQueue] at isAfter
      cases isAfter
      exact ⟨rfl, .inl ⟨rfl, rfl, rfl, rfl⟩⟩
  | cons exchangeId rest =>
      rw [isQueue] at isAfter
      cases isAfter
      exact ⟨rfl, .inr ⟨exchangeId, rest, rfl, rfl, rfl, rfl⟩⟩

/-- The queue has gone from `state`, where nothing is awaited, through the loop of
the drainer. -/
structure Advances (service : Service) (state : VerifyTaskQueue.Queue Processor)
    (queue : VerifyTaskQueue.Traced Processor) : Prop where
  isQueue : (VerifyTaskQueue.drainLoop state state.generation).1 = queue.toQueue
  invariant : VerifyTaskQueue.Invariant queue
  generation : state.generation = 0
  sameQueue : state.queue = service.queue.queue
  noneAwaiting : state.awaiting = []

theorem Advances.holds (holds : Holds runtime config service)
    {queue : VerifyTaskQueue.Traced Processor} {state : VerifyTaskQueue.Queue Processor}
    (advances : Advances service state queue)
    (reached : ∃ labels, Machine.run (sessionStep runtime config) SharedStore.start labels =
      some store)
    (stored : store.stored = service.store.stored)
    (idle : store.sessions workerSession = none)
    (clients : ∀ session working, session ≠ workerSession →
      store.sessions session = some working →
      service.store.sessions session = some working)
    (handedOver : ∀ exchangeId attemptId, StoredPending service.store exchangeId attemptId →
      exchangeId ∈ service.owed ∨ exchangeId ∈ service.queue.queue) :
    Holds runtime config { service with store, queue } := by
  rcases drainLoop_advances advances.isQueue with ⟨sameGeneration, ofKind⟩
  refine ⟨reached, advances.invariant, sameGeneration.trans advances.generation, ?_, ?_, ?_⟩
  · intro working found
    cases idle.symm.trans found
  · intro session working other found
    exact holds.clients session working other (clients session working other found)
  · intro exchangeId attemptId pending
    unfold StoredPending at pending
    rw [stored] at pending
    rcases handedOver exchangeId attemptId pending with owed | queued
    · exact .inl owed
    · right
      rw [← advances.sameQueue] at queued
      rcases ofKind with ⟨empty, -, -, -⟩ | ⟨head, rest, isList, isRest, isAwaiting, -⟩
      · rw [empty] at queued
        cases queued
      · rw [isList] at queued
        rcases List.mem_cons.mp queued with rfl | later
        · refine .inr ⟨{ generation := state.generation, processing := exchangeId }, ?_, rfl, ?_⟩
          · rw [isAwaiting, advances.noneAwaiting]
            exact List.mem_singleton.mpr rfl
          · intro working found
            cases idle.symm.trans found
        · left
          rw [isRest]
          exact later

theorem Holds.idle (holds : Holds runtime config service)
    (noneAwaiting : service.queue.awaiting = []) :
    service.store.sessions workerSession = none := by
  cases found : service.store.sessions workerSession with
  | none => rfl
  | some working =>
      rcases holds.worker working found with ⟨drainer, answers, isAwaiting, -, -⟩
      rw [noneAwaiting] at isAwaiting
      cases isAwaiting

theorem callback_advances (holds : Holds runtime config service) {position : Nat}
    {queue : VerifyTaskQueue.Traced Processor}
    (stepped : VerifyTaskQueue.step .processVerifyTask service.queue (.callback position) =
      some queue) :
    position < service.queue.scheduled.length ∧ service.queue.awaiting = [] ∧
      Advances service { service.queue.toQueue with
        scheduled := service.queue.scheduled.eraseIdx position } queue := by
  have invariant := VerifyTaskQueue.step_invariant holds.queue stepped
  rcases Option.map_eq_some_iff.mp stepped with ⟨captured, found, rfl⟩
  have member := List.mem_of_getElem? found
  have current : captured = service.queue.generation := by
    have before := holds.queue.scheduledBefore captured member
    have generation := holds.generation
    omega
  have noneAwaiting : service.queue.awaiting = [] := by
    have drainers := holds.drainers
    have scheduled := List.length_pos_of_mem member
    apply List.eq_nil_of_length_eq_zero
    split at drainers <;> omega
  subst current
  have drained : VerifyTaskQueue.drain { service.queue.toQueue with
        scheduled := service.queue.scheduled.eraseIdx position } service.queue.generation =
      VerifyTaskQueue.drainLoop { service.queue.toQueue with
        scheduled := service.queue.scheduled.eraseIdx position } service.queue.generation := by
    unfold VerifyTaskQueue.drain
    exact if_neg fun stale => stale rfl
  exact ⟨(List.getElem?_eq_some_iff.mp found).1, noneAwaiting,
    congrArg Prod.fst drained.symm, invariant, holds.generation, rfl, noneAwaiting⟩

private theorem callback_holds (holds : Holds runtime config service) {position : Nat}
    {queue : VerifyTaskQueue.Traced Processor}
    (stepped : VerifyTaskQueue.step .processVerifyTask service.queue (.callback position) =
      some queue) : Holds runtime config { service with queue } := by
  rcases callback_advances holds stepped with ⟨-, noneAwaiting, advances⟩
  refine advances.holds holds holds.reached rfl (holds.idle noneAwaiting)
    (fun _ _ _ found => found) ?_
  intro exchangeId attemptId pending
  rcases holds.tended exchangeId attemptId pending with owed | queued | ⟨awaited, awaits, -⟩
  · exact .inl owed
  · exact .inr queued
  · rw [noneAwaiting] at awaits
    cases awaits

private theorem enqueue_holds (holds : Holds runtime config service) {position : Nat}
    {exchangeId : String} {queue : VerifyTaskQueue.Traced Processor}
    (found : service.owed[position]? = some exchangeId)
    (stepped : VerifyTaskQueue.step .processVerifyTask service.queue (.enqueue exchangeId) =
      some queue) :
    Holds runtime config { service with queue, owed := service.owed.eraseIdx position } := by
  have invariant := VerifyTaskQueue.step_invariant holds.queue stepped
  cases stepped
  have longer : (VerifyTaskQueue.enqueueVerifyTask service.queue.toQueue exchangeId).queue =
      service.queue.queue ++ [exchangeId] := by
    unfold VerifyTaskQueue.enqueueVerifyTask
    split <;> rfl
  have awaiting : (VerifyTaskQueue.enqueueVerifyTask service.queue.toQueue
      exchangeId).awaiting = service.queue.awaiting := by
    unfold VerifyTaskQueue.enqueueVerifyTask
    split <;> rfl
  have generation : (VerifyTaskQueue.enqueueVerifyTask service.queue.toQueue
      exchangeId).generation = service.queue.generation := by
    unfold VerifyTaskQueue.enqueueVerifyTask
    split <;> rfl
  refine ⟨holds.reached, invariant, generation.trans holds.generation, ?_, holds.clients, ?_⟩
  · intro working isWorking
    rw [awaiting]
    exact holds.worker working isWorking
  · refine holds.tended.mono ?_ ?_
    · rfl
    rintro other attemptId - (owed | queued | ⟨awaited, member, isOwn, atWork⟩)
    · rcases List.getElem?_eq_some_iff.mp found with ⟨inside, isElement⟩
      have member := (List.getElem_cons_eraseIdx_perm inside).mem_iff.mpr owed
      rw [isElement] at member
      rcases List.mem_cons.mp member with rfl | still
      · right
        left
        rw [longer]
        exact List.mem_append_right _ (List.mem_singleton.mpr rfl)
      · exact .inl still
    · right
      left
      rw [longer]
      exact List.mem_append_left _ queued
    · refine .inr (.inr ⟨awaited, ?_, isOwn, atWork⟩)
      rw [awaiting]
      exact member

theorem settle_advances (holds : Holds runtime config service)
    {drainer : VerifyTaskQueue.Drainer} {others : List VerifyTaskQueue.Drainer}
    (isAwaiting : service.queue.awaiting = drainer :: others)
    (stepped : step.finish runtime config service .resolved = some next) :
    ∃ queue, next = { service with
        store := { service.store with
          sessions := Function.update service.store.sessions workerSession none }
        queue } ∧
      Advances service { service.queue.toQueue with awaiting := [] } queue := by
  have alone := holds.awaiting_alone isAwaiting
  subst alone
  unfold step.finish at stepped
  rcases Option.bind_eq_some_iff.mp stepped with ⟨queue, settled, abandoned⟩
  rcases Option.map_eq_some_iff.mp abandoned with ⟨store, isStore, rfl⟩
  cases isStore
  have invariant := VerifyTaskQueue.step_invariant holds.queue settled
  rcases Option.map_eq_some_iff.mp settled with ⟨awaited, found, rfl⟩
  rw [isAwaiting] at found
  cases found
  have current : drainer.generation = service.queue.generation := by
    have before := holds.queue.awaitingBefore drainer (by rw [isAwaiting]; simp)
    have generation := holds.generation
    omega
  have erased : service.queue.awaiting.eraseIdx 0 = [] := by
    rw [isAwaiting]
    rfl
  refine ⟨_, rfl, ?_, invariant, holds.generation, rfl, rfl⟩
  rw [← erased]
  change (VerifyTaskQueue.drainLoop _ service.queue.generation).1 = _
  rw [← current]
  rfl

private theorem settle_holds (holds : Holds runtime config service)
    {drainer : VerifyTaskQueue.Drainer} {others : List VerifyTaskQueue.Drainer}
    (isAwaiting : service.queue.awaiting = drainer :: others)
    (returned : returns service.store drainer.processing = true)
    (stepped : step.finish runtime config service .resolved = some next) :
    Holds runtime config next := by
  have alone := holds.awaiting_alone isAwaiting
  subst alone
  rcases settle_advances holds isAwaiting stepped with ⟨queue, rfl, advances⟩
  have abandoned : sessionStep runtime config service.store (.abandon workerSession) =
      some { service.store with
        sessions := Function.update service.store.sessions workerSession none } := rfl
  have idle : Function.update service.store.sessions workerSession none workerSession =
      none := Function.update_self ..
  refine advances.holds holds (holds.next_reached abandoned) rfl idle ?_ ?_
  · intro session working other found
    rcases Machine.update_cases found with ⟨same, -⟩ | ⟨-, old⟩
    · exact absurd same other
    · exact old
  · intro exchangeId attemptId pending
    rcases holds.tended exchangeId attemptId pending with
      owed | queued | ⟨worked, member, isOwn, atWork⟩
    · exact .inl owed
    · exact .inr queued
    · rw [isAwaiting, List.mem_singleton] at member
      subst member
      unfold returns at returned
      split at returned
      · rename_i working isWorking
        exact absurd (List.isEmpty_iff.mp returned) (atWork working isWorking).1
      · rcases pending with ⟨record, task, isStored, -⟩
        rw [isOwn, isStored] at returned
        cases returned

/-! ## Runs -/

theorem step_holds {label : Label} (holds : Holds runtime config service)
    (undisturbed : Undisturbed service label)
    (stepped : step runtime config service label = some next) : Holds runtime config next := by
  cases label with
  | client label =>
      simp only [step] at stepped
      split at stepped
      · rename_i client
        rcases Option.map_eq_some_iff.mp stepped with ⟨store, moved, rfl⟩
        exact client_holds holds client undisturbed moved
      · cases stepped
  | enqueue position =>
      simp only [step] at stepped
      split at stepped
      · cases stepped
      · rename_i exchangeId found
        rcases Option.map_eq_some_iff.mp stepped with ⟨queue, moved, rfl⟩
        exact enqueue_holds holds found moved
  | callback position =>
      rcases Option.map_eq_some_iff.mp stepped with ⟨queue, moved, rfl⟩
      exact callback_holds holds moved
  | load answers =>
      simp only [step] at stepped
      split at stepped
      · cases stepped
      · rename_i drainer others isAwaiting
        rcases Option.map_eq_some_iff.mp stepped with ⟨store, moved, rfl⟩
        exact load_holds holds isAwaiting moved
  | compare =>
      simp only [step] at stepped
      split at stepped
      · rcases Option.map_eq_some_iff.mp stepped with ⟨store, moved, rfl⟩
        exact compare_holds holds moved
      · cases stepped
  | swap =>
      rcases Option.map_eq_some_iff.mp stepped with ⟨store, moved, rfl⟩
      exact swap_holds holds moved
  | settle settled =>
      simp only [step] at stepped
      split at stepped
      · rename_i drainer others isAwaiting
        split at stepped
        · rename_i returned
          exact settle_holds holds isAwaiting returned stepped
        · cases stepped
      · exact absurd undisturbed id
      · cases stepped

theorem holds_of_run {labels : List Label}
    (undisturbed : Machine.Along (step runtime config) Undisturbed start labels)
    (runs : Machine.run (step runtime config) start labels = some service) :
    Holds runtime config service :=
  Machine.invariant_of_run (Holds runtime config)
    (fun _ _ _ holding allowed stepped => step_holds holding allowed stepped)
    start_holds undisturbed runs

def Quiescent (service : Service) : Prop :=
  service.owed = [] ∧ ¬ VerifyTaskQueue.HasDrainer service.queue.toQueue

theorem Holds.quiescent (holds : Holds runtime config service)
    (quiescent : Quiescent service) (exchangeId attemptId : String) :
    ¬ StoredPending service.store exchangeId attemptId := by
  intro pending
  rcases quiescent with ⟨noneOwed, noDrainer⟩
  rcases holds.tended exchangeId attemptId pending with
    owed | queued | ⟨drainer, member, -, -⟩
  · rw [noneOwed] at owed
    cases owed
  · have sound : VerifyTaskQueue.Sound Processor.processVerifyTask service.queue :=
      holds.queue.sound
    rw [sound.noLostWakeUp noDrainer] at queued
    cases queued
  · have before := holds.queue.awaitingBefore drainer member
    have generation := holds.generation
    exact noDrainer (.inr ⟨drainer, member, by omega⟩)

/-- However requests, sweeps, the queue and the worker interleave: a task that is
queued or running is about to be enqueued, waits in the queue, or is being worked
on at the attempt that is stored; so when nothing is left to do, there is none. -/
theorem no_task_forgotten {labels : List Label}
    (undisturbed : Machine.Along (step runtime config) Undisturbed start labels)
    (runs : Machine.run (step runtime config) start labels = some service) :
    Tended service ∧ (Quiescent service →
      ∀ exchangeId attemptId, ¬ StoredPending service.store exchangeId attemptId) :=
  ⟨(holds_of_run undisturbed runs).tended, (holds_of_run undisturbed runs).quiescent⟩

/-- A badge is submitted and enqueued, and the worker has marked its task. -/
def badgeSubmitted : List Label := [
  .client (.create {
    data := .verify {
      exchangeHost := "http://localhost:4004"
      vprContext := []
      vprCredentialType := ["VerifiableCredential"]
      vprClaims := [] }
    answers := Finality.answersFor "exchange-1" Finality.badge true }),
  .client (.load 1 "exchange-1" (.request {
    workflowId := "verify"
    endpoint := .participate (presentationWith Finality.badge)
    answers := Finality.answersFor "attempt-1" Finality.badge true })),
  .client (.put 1),
  .enqueue 0,
  .callback 0,
  .load (Finality.answersFor "unused" Finality.badge true),
  .compare,
  .swap]

theorem badgeSubmitted_undisturbed :
    Machine.Along (step Finality.badgeRuntime {}) Undisturbed start badgeSubmitted := by
  refine ⟨trivial, ?_⟩
  rintro _ ⟨⟩
  refine ⟨trivial, ?_⟩
  rintro _ ⟨⟩
  refine ⟨?_, ?_⟩
  · rintro working record rest task ⟨⟩ _ ⟨⟩
  · intro next _
    exact Machine.along_of_forall_mem (by simp [Undisturbed]) next

theorem no_task_forgotten_badge :
    ∃ service, Machine.run (step Finality.badgeRuntime {}) start badgeSubmitted =
        some service ∧
      StoredPending service.store "exchange-1" "attempt-1" ∧ Tended service := by
  have ran : ∃ service, Machine.run (step Finality.badgeRuntime {}) start badgeSubmitted =
      some service ∧ StoredPending service.store "exchange-1" "attempt-1" :=
    ⟨_, rfl, _, _, rfl, rfl, rfl, rfl⟩
  rcases ran with ⟨service, runs, pending⟩
  exact ⟨service, runs, pending, (no_task_forgotten badgeSubmitted_undisturbed runs).1⟩

end TransactionService.Pipeline
