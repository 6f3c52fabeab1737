import TransactionService.Foundation.Machine

namespace TransactionService.Interleaving

/-! # Requests that read a record, work, and write it back

Any number of requests share one record. A request first reads the record; its
answer, and the record it writes back if any, depend on what it read. Reading
and writing are separate steps, so other requests run in between. -/

variable {Record : Type u} {Request : Type v}

/-- The shared record, what every request in flight has read, and the requests
that have finished, oldest first, with what they had read. -/
structure System (Record : Type u) (Request : Type v) where
  record : Record
  inFlight : Nat → Option (Request × Record)
  finished : List (Request × Record)

inductive Label (Request : Type v)
  | read (thread : Nat) (request : Request)
  | write (thread : Nat)

def start (record : Record) : System Record Request where
  record := record
  inFlight := fun _ => none
  finished := []

/-- `save request snapshot` is the record the request writes after reading
`snapshot`. -/
def step (save : Request → Record → Option Record) (system : System Record Request) :
    Label Request → Option (System Record Request)
  | .read thread request =>
      match system.inFlight thread with
      | some _ => none
      | none => some { system with
          inFlight := Function.update system.inFlight thread
            (some (request, system.record)) }
  | .write thread =>
      match system.inFlight thread with
      | none => none
      | some (request, snapshot) => some {
          record := (save request snapshot).getD system.record
          inFlight := Function.update system.inFlight thread none
          finished := system.finished ++ [(request, snapshot)] }

/-- Whenever a request writes, what holds of the record that is stored by then
held already of the record the request read. -/
def SeenBefore (save : Request → Record → Option Record) (marked : Record → Prop)
    (system : System Record Request) : Label Request → Prop
  | .read _ _ => True
  | .write thread => ∀ request snapshot,
      system.inFlight thread = some (request, snapshot) →
        (save request snapshot).isSome → marked system.record → marked snapshot

theorem seenBefore_of_current {save : Request → Record → Option Record}
    {marked : Record → Prop} {system : System Record Request} {thread : Nat}
    (current : ∀ request snapshot, system.inFlight thread = some (request, snapshot) →
      system.record = snapshot) : SeenBefore save marked system (.write thread) := by
  intro request snapshot reading _ isMarked
  rw [← current request snapshot reading]
  exact isMarked

def Requests (family : Request → Prop) (_ : System Record Request) :
    Label Request → Prop
  | .read _ request => family request
  | .write _ => True

theorem step_read {save : Request → Record → Option Record}
    {system next : System Record Request} {thread : Nat} {request : Request}
    (stepped : step save system (.read thread request) = some next) :
    next = { system with
      inFlight := Function.update system.inFlight thread
        (some (request, system.record)) } := by
  simp only [step] at stepped
  split at stepped
  · cases stepped
  · exact (Option.some.inj stepped).symm

theorem step_write {save : Request → Record → Option Record}
    {system next : System Record Request} {thread : Nat}
    (stepped : step save system (.write thread) = some next) :
    ∃ request snapshot, system.inFlight thread = some (request, snapshot) ∧
      next = {
        record := (save request snapshot).getD system.record
        inFlight := Function.update system.inFlight thread none
        finished := system.finished ++ [(request, snapshot)] } := by
  simp only [step] at stepped
  split at stepped
  · cases stepped
  · exact ⟨_, _, ‹_›, (Option.some.inj stepped).symm⟩

/-! ## What every request in flight has in common -/

def Throughout (property : Request → Prop) (system : System Record Request) : Prop :=
  (∀ thread request snapshot, system.inFlight thread = some (request, snapshot) →
    property request) ∧
  ∀ entry ∈ system.finished, property entry.1

theorem start_throughout (property : Request → Prop) (record : Record) :
    Throughout property (start record) :=
  ⟨fun _ _ _ found => (nomatch found), fun _ member => (nomatch member)⟩

theorem step_throughout {save : Request → Record → Option Record}
    {property : Request → Prop} {system next : System Record Request}
    {label : Label Request} (holds : Throughout property system)
    (family : Requests property system label)
    (stepped : step save system label = some next) : Throughout property next := by
  rcases holds with ⟨flying, finished⟩
  cases label with
  | read thread request =>
      rcases step_read stepped with rfl
      refine ⟨?_, finished⟩
      intro other otherRequest snapshot found
      rcases Machine.update_cases found with ⟨-, new⟩ | ⟨-, old⟩
      · cases new
        exact family
      · exact flying other otherRequest snapshot old
  | write thread =>
      rcases step_write stepped with ⟨request, snapshot, reading, rfl⟩
      refine ⟨?_, ?_⟩
      · intro other otherRequest otherSnapshot found
        rcases Machine.update_cases found with ⟨-, new⟩ | ⟨-, old⟩
        · cases new
        · exact flying other otherRequest otherSnapshot old
      · intro entry member
        rcases List.mem_append.mp member with old | new
        · exact finished entry old
        · rw [List.mem_singleton.mp new]
          exact flying thread request snapshot reading

/-! ## One-shot marks -/

/-- A mark on the record that a successful request needs absent and leaves
present, and that no request of the family removes. -/
structure OneShot (save : Request → Record → Option Record)
    (family : Request → Prop) (wins : Request → Record → Bool) where
  Marked : Record → Prop
  win_unmarked : ∀ request record, wins request record = true → ¬ Marked record
  win_marks : ∀ request record, wins request record = true →
    ∃ next, save request record = some next ∧ Marked next
  keeps : ∀ request record next, family request → Marked record →
    save request record = some next → Marked next

def winCount (wins : Request → Record → Bool) (system : System Record Request) : Nat :=
  system.finished.countP fun entry => wins entry.1 entry.2

namespace OneShot

variable {save : Request → Record → Option Record} {family : Request → Prop}
  {wins : Request → Record → Bool}

def Holds (shot : OneShot save family wins) (system : System Record Request) : Prop :=
  winCount wins system ≤ 1 ∧ (winCount wins system = 1 → shot.Marked system.record)

theorem step_holds (shot : OneShot save family wins)
    {system next : System Record Request} {label : Label Request}
    (belongs : Throughout family system) (holds : shot.Holds system)
    (seen : SeenBefore save shot.Marked system label)
    (stepped : step save system label = some next) : shot.Holds next := by
  cases label with
  | read thread request =>
      rcases step_read stepped with rfl
      exact holds
  | write thread =>
      rcases step_write stepped with ⟨request, snapshot, reading, rfl⟩
      have inFamily := belongs.1 thread request snapshot reading
      have seenBySnapshot := seen request snapshot reading
      simp only [Holds, winCount, List.countP_append, List.countP_singleton]
      by_cases succeeds : wins request snapshot = true
      · rcases shot.win_marks request snapshot succeeds with ⟨written, saved, marked⟩
        have fresh : winCount wins system ≠ 1 := fun one =>
          shot.win_unmarked request snapshot succeeds
            (seenBySnapshot (by simp [saved]) (holds.2 one))
        have noneBefore : winCount wins system = 0 := by
          have bound := holds.1
          omega
        simp only [winCount] at noneBefore
        simp [succeeds, noneBefore, saved, marked]
      · simp only [succeeds, Bool.false_eq_true, if_false, Nat.add_zero]
        refine ⟨holds.1, fun one => ?_⟩
        have marked := holds.2 one
        cases saved : save request snapshot with
        | none => simpa [saved] using marked
        | some written =>
            simpa [saved] using shot.keeps request snapshot written inFamily
              (seenBySnapshot (by simp [saved]) marked) saved

/-- When no request writes over a mark that it has not seen, a one-shot request
succeeds at most once, however the requests interleave. -/
theorem at_most_one (shot : OneShot save family wins) {initial : Record}
    {labels : List (Label Request)} {final : System Record Request}
    (requests : Machine.Along (step save) (Requests family) (start initial) labels)
    (seen : Machine.Along (step save) (SeenBefore save shot.Marked) (start initial) labels)
    (runs : Machine.run (step save) (start initial) labels = some final) :
    winCount wins final ≤ 1 := by
  suffices both : Throughout family final ∧ shot.Holds final from both.2.1
  have initially : Throughout family (start initial : System Record Request) ∧
      shot.Holds (start initial) :=
    ⟨start_throughout family initial, by simp [Holds, winCount, start]⟩
  refine Machine.invariant_of_run
    (fun system => Throughout family system ∧ shot.Holds system)
    ?_ initially (requests.and seen) runs
  intro system label next holds allowed stepped
  exact ⟨step_throughout holds.1 allowed.1 stepped,
    shot.step_holds holds.1 holds.2 allowed.2 stepped⟩

end OneShot

end TransactionService.Interleaving
