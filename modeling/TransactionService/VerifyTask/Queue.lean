import Mathlib.Data.List.Perm.Basic
import TransactionService.Foundation.Machine

namespace TransactionService.VerifyTaskQueue

/-! # The verify task queue

`lib/verify-task/enqueue-verify-task.ts`: one queue of exchange ids and one
drainer that hands them to the processor. Code between two awaits runs without
interruption; callbacks of `setImmediate` run, and calls of the processor
settle, in any order. -/

structure Drainer where
  generation : Nat
  processing : String

structure ProcessorCall (Processor : Type) where
  processor : Processor
  exchangeId : String

/-- The variables of the module, the callbacks that are scheduled with the
generation they captured, and the drainers that await a call. -/
structure Queue (Processor : Type) where
  queue : List String := []
  running : Bool := false
  generation : Nat := 0
  activeProcessor : Processor
  scheduled : List Nat := []
  awaiting : List Drainer := []

inductive Settled
  | resolved
  | thrown

section

variable {Processor : Type} (state : Queue Processor)

def enqueueVerifyTask (exchangeId : String) : Queue Processor :=
  if state.running then { state with queue := state.queue ++ [exchangeId] }
  else { state with
    queue := state.queue ++ [exchangeId]
    running := true
    scheduled := state.scheduled ++ [state.generation] }

/-- From the test of the loop to the next call of the processor, which is the
second result, or to the end. -/
def drainLoop (myGeneration : Nat) : Queue Processor × Option (ProcessorCall Processor) :=
  if myGeneration = state.generation then
    match state.queue with
    | [] => ({ state with running := false }, none)
    | next :: rest =>
        ({ state with
            queue := rest
            awaiting := state.awaiting ++ [{ generation := myGeneration, processing := next }] },
          some { processor := state.activeProcessor, exchangeId := next })
  else (state, none)

def drain (myGeneration : Nat) : Queue Processor × Option (ProcessorCall Processor) :=
  if myGeneration ≠ state.generation then (state, none)
  else drainLoop state myGeneration

/-- An error of the processor is swallowed. -/
def resume (drainer : Drainer) : Settled → Queue Processor × Option (ProcessorCall Processor)
  | .resolved => drainLoop state drainer.generation
  | .thrown => drainLoop state drainer.generation

def setVerifyTaskProcessorForTests (processor : Processor) : Queue Processor :=
  { state with activeProcessor := processor }

def resetVerifyTaskQueueForTests (processVerifyTask : Processor) : Queue Processor :=
  { state with
    queue := []
    running := false
    generation := state.generation + 1
    activeProcessor := processVerifyTask }

end

/-! ## Runs -/

/-- What can happen next: a call of one of the functions, at any time, or a step
of the drainer with the given position. -/
inductive Event (Processor : Type)
  | enqueue (exchangeId : String)
  | callback (position : Nat)
  | settle (position : Nat) (settled : Settled)
  | setProcessor (processor : Processor)
  | reset

/-- The queue with what was enqueued and what was handed to the processor since
the last reset. -/
structure Traced (Processor : Type) extends Queue Processor where
  enqueued : List String := []
  handed : List (ProcessorCall Processor) := []

section

variable {Processor : Type} (processVerifyTask : Processor)

def start : Traced Processor where
  activeProcessor := processVerifyTask

def Traced.drained (traced : Traced Processor)
    (after : Queue Processor × Option (ProcessorCall Processor)) : Traced Processor where
  toQueue := after.1
  enqueued := traced.enqueued
  handed := traced.handed ++ after.2.toList

def step (traced : Traced Processor) : Event Processor → Option (Traced Processor)
  | .enqueue exchangeId => some { traced with
      toQueue := enqueueVerifyTask traced.toQueue exchangeId
      enqueued := traced.enqueued ++ [exchangeId] }
  | .callback position =>
      traced.scheduled[position]?.map fun myGeneration =>
        traced.drained (drain
          { traced.toQueue with scheduled := traced.scheduled.eraseIdx position } myGeneration)
  | .settle position settled =>
      traced.awaiting[position]?.map fun drainer =>
        traced.drained (resume
          { traced.toQueue with awaiting := traced.awaiting.eraseIdx position } drainer settled)
  | .setProcessor processor => some { traced with
      toQueue := setVerifyTaskProcessorForTests traced.toQueue processor }
  | .reset => some {
      toQueue := resetVerifyTaskQueueForTests traced.toQueue processVerifyTask }

def drainerOf (traced : Traced Processor) : Event Processor → Option Nat
  | .callback position => traced.scheduled[position]?
  | .settle position _ => traced.awaiting[position]?.map (·.generation)
  | _ => none

/-! ## The drainers of the current generation -/

def currentDrainers (state : Queue Processor) : Nat :=
  state.scheduled.countP (· = state.generation) +
    state.awaiting.countP (·.generation = state.generation)

structure Invariant (traced : Traced Processor) : Prop where
  fifo : traced.enqueued = traced.handed.map (·.exchangeId) ++ traced.queue
  drainers : currentDrainers traced.toQueue = if traced.running then 1 else 0
  idle : traced.running = false → traced.queue = []
  scheduledBefore : ∀ myGeneration ∈ traced.scheduled, myGeneration ≤ traced.generation
  awaitingBefore : ∀ drainer ∈ traced.awaiting, drainer.generation ≤ traced.generation

theorem countP_eraseIdx {Item : Type} {items : List Item} {position : Nat} {item : Item}
    (found : items[position]? = some item) (counted : Item → Bool) :
    (items.eraseIdx position).countP counted + (if counted item then 1 else 0) =
      items.countP counted := by
  rcases List.getElem?_eq_some_iff.mp found with ⟨inside, rfl⟩
  rw [← List.countP_cons]
  exact (List.getElem_cons_eraseIdx_perm inside).countP_eq counted

theorem start_invariant : Invariant (start processVerifyTask) where
  fifo := rfl
  drainers := rfl
  idle := fun _ => rfl
  scheduledBefore := fun _ member => (nomatch member)
  awaitingBefore := fun _ member => (nomatch member)

variable {processVerifyTask} {traced next : Traced Processor}

theorem enqueue_invariant (holds : Invariant traced) (exchangeId : String) :
    Invariant { traced with
      toQueue := enqueueVerifyTask traced.toQueue exchangeId
      enqueued := traced.enqueued ++ [exchangeId] } := by
  have appended : traced.enqueued ++ [exchangeId] =
      traced.handed.map (·.exchangeId) ++ (traced.queue ++ [exchangeId]) := by
    rw [holds.fifo, List.append_assoc]
  have drainers := holds.drainers
  unfold enqueueVerifyTask
  cases isRunning : traced.running with
  | true =>
      rw [if_pos rfl]
      rw [isRunning] at drainers
      exact {
        fifo := appended
        drainers := drainers
        idle := fun stopped => by cases stopped
        scheduledBefore := holds.scheduledBefore
        awaitingBefore := holds.awaitingBefore }
  | false =>
      rw [if_neg Bool.false_ne_true]
      rw [isRunning, if_neg Bool.false_ne_true] at drainers
      refine {
        fifo := appended
        drainers := ?_
        idle := fun stopped => by cases stopped
        scheduledBefore := ?_
        awaitingBefore := holds.awaitingBefore }
      · unfold currentDrainers at drainers ⊢
        simp only [List.countP_append, List.countP_singleton, decide_true, if_true]
        omega
      · intro myGeneration member
        rcases List.mem_append.mp member with before | new
        · exact holds.scheduledBefore myGeneration before
        · exact Nat.le_of_eq (List.mem_singleton.mp new)

/-- A drainer whose step begins is taken out of the lists; the loop goes on if it
is the current one. -/
theorem drainLoop_invariant {state : Queue Processor} {myGeneration : Nat}
    (fifo : traced.enqueued = traced.handed.map (·.exchangeId) ++ state.queue)
    (others : currentDrainers state + (if myGeneration = state.generation then 1 else 0) =
      if state.running then 1 else 0)
    (idle : state.running = false → state.queue = [])
    (scheduledBefore : ∀ captured ∈ state.scheduled, captured ≤ state.generation)
    (awaitingBefore : ∀ drainer ∈ state.awaiting, drainer.generation ≤ state.generation) :
    Invariant (traced.drained (drainLoop state myGeneration)) := by
  unfold drainLoop
  by_cases current : myGeneration = state.generation
  · rw [if_pos current] at others ⊢
    cases isQueue : state.queue with
    | nil =>
        rw [isQueue] at fifo
        have alone : currentDrainers state = 0 := by
          split at others <;> omega
        exact {
          fifo := by simpa [Traced.drained, isQueue] using fifo
          drainers := alone
          idle := fun _ => rfl
          scheduledBefore := scheduledBefore
          awaitingBefore := awaitingBefore }
    | cons next rest =>
        have isRunning : state.running = true := by
          cases flag : state.running with
          | true => rfl
          | false => cases isQueue.symm.trans (idle flag)
        rw [isQueue] at fifo
        rw [isRunning, if_pos rfl] at others
        refine {
          fifo := by simpa [Traced.drained] using fifo
          drainers := ?_
          idle := fun stopped => by cases isRunning.symm.trans stopped
          scheduledBefore := scheduledBefore
          awaitingBefore := ?_ }
        · unfold currentDrainers at others ⊢
          simp only [Traced.drained, isRunning, List.countP_append, List.countP_singleton,
            current, decide_true, if_true]
          omega
        · intro drainer member
          rcases List.mem_append.mp member with before | new
          · exact awaitingBefore drainer before
          · rw [List.mem_singleton.mp new]
            exact Nat.le_of_eq current
  · rw [if_neg current] at others ⊢
    exact {
      fifo := by simpa [Traced.drained] using fifo
      drainers := others
      idle := idle
      scheduledBefore := scheduledBefore
      awaitingBefore := awaitingBefore }

theorem callback_invariant (holds : Invariant traced) {position myGeneration : Nat}
    (found : traced.scheduled[position]? = some myGeneration) :
    Invariant (traced.drained (drain
      { traced.toQueue with scheduled := traced.scheduled.eraseIdx position }
      myGeneration)) := by
  have others := countP_eraseIdx found (· = traced.generation)
  have drainers := holds.drainers
  unfold currentDrainers at drainers
  unfold drain
  split
  · rename_i stale
    rw [decide_eq_false stale, if_neg Bool.false_ne_true, Nat.add_zero] at others
    refine {
      fifo := by simpa [Traced.drained] using holds.fifo
      drainers := ?_
      idle := holds.idle
      scheduledBefore := fun captured member =>
        holds.scheduledBefore captured (List.mem_of_mem_eraseIdx member)
      awaitingBefore := holds.awaitingBefore }
    rw [← others] at drainers
    exact drainers
  · rename_i current
    refine drainLoop_invariant holds.fifo ?_ holds.idle ?_ holds.awaitingBefore
    · simp only [decide_eq_true_eq] at others
      unfold currentDrainers
      dsimp only
      omega
    · exact fun captured member =>
        holds.scheduledBefore captured (List.mem_of_mem_eraseIdx member)

theorem settle_invariant (holds : Invariant traced) {position : Nat} {drainer : Drainer}
    (found : traced.awaiting[position]? = some drainer) (settled : Settled) :
    Invariant (traced.drained (resume
      { traced.toQueue with awaiting := traced.awaiting.eraseIdx position }
      drainer settled)) := by
  have others := countP_eraseIdx found (·.generation = traced.generation)
  have drainers := holds.drainers
  unfold currentDrainers at drainers
  have continued : resume
      { traced.toQueue with awaiting := traced.awaiting.eraseIdx position } drainer settled =
      drainLoop { traced.toQueue with awaiting := traced.awaiting.eraseIdx position }
        drainer.generation := by
    cases settled <;> rfl
  rw [continued]
  refine drainLoop_invariant holds.fifo ?_ holds.idle holds.scheduledBefore ?_
  · simp only [decide_eq_true_eq] at others
    unfold currentDrainers
    dsimp only
    omega
  · exact fun other member => holds.awaitingBefore other (List.mem_of_mem_eraseIdx member)

theorem reset_invariant (holds : Invariant traced) :
    Invariant ({ toQueue := resetVerifyTaskQueueForTests traced.toQueue processVerifyTask } :
      Traced Processor) where
  fifo := rfl
  drainers := by
    have noneScheduled : traced.scheduled.countP (· = traced.generation + 1) = 0 := by
      apply List.countP_eq_zero.mpr
      intro captured member
      have before := holds.scheduledBefore captured member
      simp only [decide_eq_true_eq]
      omega
    have noneAwaiting : traced.awaiting.countP (·.generation = traced.generation + 1) = 0 := by
      apply List.countP_eq_zero.mpr
      intro drainer member
      have before := holds.awaitingBefore drainer member
      simp only [decide_eq_true_eq]
      omega
    exact Nat.add_eq_zero_iff.mpr ⟨noneScheduled, noneAwaiting⟩
  idle := fun _ => rfl
  scheduledBefore := fun captured member =>
    Nat.le_succ_of_le (holds.scheduledBefore captured member)
  awaitingBefore := fun drainer member =>
    Nat.le_succ_of_le (holds.awaitingBefore drainer member)

theorem step_invariant {event : Event Processor} (holds : Invariant traced)
    (stepped : step processVerifyTask traced event = some next) : Invariant next := by
  cases event with
  | enqueue exchangeId =>
      cases stepped
      exact enqueue_invariant holds exchangeId
  | callback position =>
      rcases Option.map_eq_some_iff.mp stepped with ⟨myGeneration, found, rfl⟩
      exact callback_invariant holds found
  | settle position settled =>
      rcases Option.map_eq_some_iff.mp stepped with ⟨drainer, found, rfl⟩
      exact settle_invariant holds found settled
  | setProcessor processor =>
      cases stepped
      exact ⟨holds.fifo, holds.drainers, holds.idle, holds.scheduledBefore,
        holds.awaitingBefore⟩
  | reset =>
      cases stepped
      exact reset_invariant holds

theorem run_invariant {events : List (Event Processor)}
    (runs : Machine.run (step processVerifyTask) (start processVerifyTask) events =
      some traced) : Invariant traced := by
  have free : Machine.Along (step processVerifyTask) (fun _ _ => True)
      (start processVerifyTask) events :=
    Machine.along_of_forall_mem (fun _ _ _ => trivial) _
  apply Machine.invariant_of_run Invariant _ (start_invariant processVerifyTask) free runs
  exact fun traced event next holds _ stepped => step_invariant holds stepped

/-! ## What every run keeps to -/

def HasDrainer (state : Queue Processor) : Prop :=
  state.generation ∈ state.scheduled ∨
    ∃ drainer ∈ state.awaiting, drainer.generation = state.generation

variable (processVerifyTask) in
structure Sound (traced : Traced Processor) : Prop where
  /-- The ids are handed over in the order in which they came, each once. -/
  fifo : traced.enqueued = traced.handed.map (·.exchangeId) ++ traced.queue
  single : (traced.awaiting.filter (·.generation = traced.generation)).length ≤ 1
  running : traced.running = true ↔ HasDrainer traced.toQueue
  noLostWakeUp : ¬ HasDrainer traced.toQueue → traced.queue = []
  noneAhead : ∀ event captured, drainerOf traced event = some captured →
    captured ≤ traced.generation
  stale : ∀ event captured next, drainerOf traced event = some captured →
    captured < traced.generation → step processVerifyTask traced event = some next →
    next.queue = traced.queue ∧ next.running = traced.running ∧ next.handed = traced.handed
  progress : ∀ event next exchangeId rest,
    drainerOf traced event = some traced.generation → traced.queue = exchangeId :: rest →
    step processVerifyTask traced event = some next →
    next.queue = rest ∧
      next.handed = traced.handed ++ [{ processor := traced.activeProcessor, exchangeId }]

private theorem currentDrainers_pos {state : Queue Processor} :
    0 < currentDrainers state ↔ HasDrainer state := by
  rw [currentDrainers, Nat.add_pos_iff_pos_or_pos, List.countP_pos_iff, List.countP_pos_iff]
  simp [HasDrainer]

theorem Invariant.running_iff (holds : Invariant traced) :
    traced.running = true ↔ HasDrainer traced.toQueue := by
  rw [← currentDrainers_pos, holds.drainers]
  cases traced.running <;> simp

theorem drainer_step {event : Event Processor} {captured : Nat}
    (isDrainer : drainerOf traced event = some captured)
    (stepped : step processVerifyTask traced event = some next) :
    ∃ scheduled awaiting, next = traced.drained
      (drainLoop { traced.toQueue with scheduled, awaiting } captured) := by
  cases event with
  | callback position =>
      rcases Option.map_eq_some_iff.mp stepped with ⟨myGeneration, found, rfl⟩
      cases found.symm.trans isDrainer
      refine ⟨traced.scheduled.eraseIdx position, traced.awaiting, ?_⟩
      unfold drain
      split
      · rename_i stale
        rw [drainLoop, if_neg stale]
      · rfl
  | settle position settled =>
      rcases Option.map_eq_some_iff.mp stepped with ⟨drainer, found, rfl⟩
      rw [drainerOf, found] at isDrainer
      cases isDrainer
      refine ⟨traced.scheduled, traced.awaiting.eraseIdx position, ?_⟩
      cases settled <;> rfl
  | enqueue exchangeId => cases isDrainer
  | setProcessor processor => cases isDrainer
  | reset => cases isDrainer

theorem Invariant.noneAhead (holds : Invariant traced) {event : Event Processor}
    {captured : Nat} (isDrainer : drainerOf traced event = some captured) :
    captured ≤ traced.generation := by
  cases event with
  | callback position => exact holds.scheduledBefore captured (List.mem_of_getElem? isDrainer)
  | settle position settled =>
      rcases Option.map_eq_some_iff.mp isDrainer with ⟨drainer, found, rfl⟩
      exact holds.awaitingBefore drainer (List.mem_of_getElem? found)
  | enqueue exchangeId => cases isDrainer
  | setProcessor processor => cases isDrainer
  | reset => cases isDrainer

theorem stale_step {event : Event Processor} {captured : Nat}
    (isDrainer : drainerOf traced event = some captured)
    (stale : captured ≠ traced.generation)
    (stepped : step processVerifyTask traced event = some next) :
    next.queue = traced.queue ∧ next.running = traced.running ∧
      next.handed = traced.handed := by
  rcases drainer_step isDrainer stepped with ⟨scheduled, awaiting, rfl⟩
  rw [drainLoop, if_neg stale]
  exact ⟨rfl, rfl, List.append_nil _⟩

theorem current_step {event : Event Processor} {exchangeId : String} {rest : List String}
    (isDrainer : drainerOf traced event = some traced.generation)
    (waiting : traced.queue = exchangeId :: rest)
    (stepped : step processVerifyTask traced event = some next) :
    next.queue = rest ∧
      next.handed = traced.handed ++ [{ processor := traced.activeProcessor, exchangeId }] := by
  rcases drainer_step isDrainer stepped with ⟨scheduled, awaiting, rfl⟩
  rw [drainLoop, if_pos rfl]
  simp only [waiting]
  exact ⟨rfl, rfl⟩

theorem Invariant.sound (holds : Invariant traced) : Sound processVerifyTask traced where
  fifo := holds.fifo
  single := by
    have drainers := holds.drainers
    rw [← List.countP_eq_length_filter]
    unfold currentDrainers at drainers
    split at drainers <;> omega
  running := holds.running_iff
  noLostWakeUp := fun noDrainer =>
    holds.idle (eq_false_of_ne_true fun flag => noDrainer (holds.running_iff.mp flag))
  noneAhead := fun _ _ => holds.noneAhead
  stale := fun _ _ _ isDrainer older => stale_step isDrainer (Nat.ne_of_lt older)
  progress := fun _ _ _ _ => current_step

/-! ## Waiting ids are handed over -/

def Event.isReset : Event Processor → Bool
  | .reset => true
  | _ => false

variable (processVerifyTask) in
def drainerSteps : Traced Processor → List (Event Processor) → Nat
  | _, [] => 0
  | traced, event :: rest =>
      (if drainerOf traced event = some traced.generation then 1 else 0) +
        match step processVerifyTask traced event with
        | none => 0
        | some next => drainerSteps next rest

theorem step_grows {event : Event Processor} (noReset : event.isReset = false)
    (stepped : step processVerifyTask traced event = some next) :
    traced.enqueued.length ≤ next.enqueued.length ∧
      traced.handed.length ≤ next.handed.length := by
  cases event with
  | enqueue exchangeId =>
      cases stepped
      exact ⟨by simp, Nat.le_refl _⟩
  | callback position =>
      rcases Option.map_eq_some_iff.mp stepped with ⟨myGeneration, -, rfl⟩
      exact ⟨Nat.le_refl _, by simp [Traced.drained]⟩
  | settle position settled =>
      rcases Option.map_eq_some_iff.mp stepped with ⟨drainer, -, rfl⟩
      exact ⟨Nat.le_refl _, by simp [Traced.drained]⟩
  | setProcessor processor =>
      cases stepped
      exact ⟨Nat.le_refl _, Nat.le_refl _⟩
  | reset => cases noReset

private theorem drainer_advances {event : Event Processor} (holds : Invariant traced)
    (isDrainer : drainerOf traced event = some traced.generation)
    (noReset : event.isReset = false)
    (stepped : step processVerifyTask traced event = some next) :
    traced.enqueued.length ≤ next.handed.length ∨
      traced.handed.length + 1 ≤ next.handed.length := by
  have lengths := congrArg List.length holds.fifo
  simp only [List.length_append, List.length_map] at lengths
  cases isQueue : traced.queue with
  | nil =>
      rw [isQueue, List.length_nil, Nat.add_zero] at lengths
      exact .inl (lengths ▸ (step_grows noReset stepped).2)
  | cons exchangeId rest =>
      have handed := (current_step isDrainer isQueue stepped).2
      right
      simp [handed]

theorem handed_after {events : List (Event Processor)} {final : Traced Processor}
    (holds : Invariant traced) (noResets : ∀ event ∈ events, event.isReset = false)
    (runs : Machine.run (step processVerifyTask) traced events = some final) {wanted : Nat}
    (enqueued : wanted ≤ traced.enqueued.length) :
    min wanted (traced.handed.length + drainerSteps processVerifyTask traced events) ≤
      final.handed.length := by
  induction events generalizing traced with
  | nil =>
      cases runs
      exact Nat.min_le_right _ _
  | cons event rest induction =>
      rcases Machine.run_cons runs with ⟨next, stepped, continued⟩
      have noReset := noResets event List.mem_cons_self
      rcases step_grows noReset stepped with ⟨moreEnqueued, moreHanded⟩
      have later := induction (step_invariant holds stepped)
        (fun other member => noResets other (List.mem_cons_of_mem _ member)) continued
        (Nat.le_trans enqueued moreEnqueued)
      simp only [drainerSteps, stepped]
      split
      · rename_i isDrainer
        have advances := drainer_advances holds isDrainer noReset stepped
        omega
      · omega

/-- What holds at every moment of every run, and how the run goes on. -/
theorem queue_sound {events : List (Event Processor)}
    (runs : Machine.run (step processVerifyTask) (start processVerifyTask) events =
      some traced) :
    Sound processVerifyTask traced ∧
      ∀ later final, (∀ event ∈ later, event.isReset = false) →
        Machine.run (step processVerifyTask) traced later = some final →
        min traced.enqueued.length
            (traced.handed.length + drainerSteps processVerifyTask traced later) ≤
          final.handed.length := by
  have holds := run_invariant runs
  refine ⟨holds.sound, ?_⟩
  intro later final noResets continues
  exact handed_after holds noResets continues (Nat.le_refl _)

end

/-- A call that throws, an enqueue from inside it, and a reset during the next
call, which settles afterwards. -/
def interrupted : List (Event String) :=
  [.enqueue "a", .enqueue "b", .callback 0, .enqueue "a-child", .settle 0 .thrown, .reset,
    .enqueue "c", .settle 0 .resolved]

theorem interrupted_sound :
    ∃ traced, Machine.run (step "processVerifyTask") (start "processVerifyTask") interrupted =
        some traced ∧ Sound "processVerifyTask" traced := by
  have runs : Machine.run (step "processVerifyTask") (start "processVerifyTask") interrupted =
      some _ := rfl
  exact ⟨_, runs, (queue_sound runs).1⟩

end TransactionService.VerifyTaskQueue
