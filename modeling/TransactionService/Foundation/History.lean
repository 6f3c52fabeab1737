import TransactionService.Foundation.Machine

namespace TransactionService.History

/-! # Values with a past

A value on which operations act one after the other, kept together with all that
was done to it. What an operation answered is a function of its entry, so that
statements about answers become statements about the past. -/

variable {Value : Type u} {Operation : Type v} {Answer : Type w}

structure Entry (Value : Type u) (Operation : Type v) where
  found : Value
  operation : Operation

/-- A value, and the entries that led to it, latest first. -/
structure Recorded (Value : Type u) (Operation : Type v) where
  value : Value
  past : List (Entry Value Operation)

def start (value : Value) : Recorded Value Operation where
  value := value
  past := []

def next (apply : Operation → Value → Value) (recorded : Recorded Value Operation)
    (operation : Operation) : Recorded Value Operation where
  value := apply operation recorded.value
  past := { found := recorded.value, operation } :: recorded.past

def step (apply : Operation → Value → Value) (recorded : Recorded Value Operation)
    (operation : Operation) : Option (Recorded Value Operation) :=
  some (next apply recorded operation)

theorem past_foldl (apply : Operation → Value → Value)
    (recorded : Recorded Value Operation) (operations : List Operation) :
    (operations.foldl (next apply) recorded).past.reverse.map (·.operation) =
      recorded.past.reverse.map (·.operation) ++ operations := by
  induction operations generalizing recorded with
  | nil => simp
  | cons operation rest induction =>
      rw [List.foldl_cons, induction]
      simp [next]

/-! ## Invariants of the past -/

variable {apply : Operation → Value → Value}
  {allowed : Recorded Value Operation → Operation → Prop}
  {recorded : Recorded Value Operation}

theorem holds_throughout (holds : Recorded Value Operation → Prop)
    (keeps : ∀ recorded operation, holds recorded → allowed recorded operation →
      holds (next apply recorded operation))
    {initial final : Recorded Value Operation} {operations : List Operation}
    (initially : holds initial) (fromStart : initial.past = [])
    (along : Machine.Along (step apply) allowed initial operations)
    (runs : Machine.run (step apply) initial operations = some final) :
    holds final ∧ ∀ newer entry older, final.past = newer ++ entry :: older →
      holds { value := entry.found, past := older } := by
  apply Machine.invariant_of_run (fun recorded => holds recorded ∧
    ∀ newer entry older, recorded.past = newer ++ entry :: older →
      holds { value := entry.found, past := older }) _ _ along runs
  · intro recorded operation following holding permitted stepped
    rcases holding with ⟨now, before⟩
    cases stepped
    refine ⟨keeps recorded operation now permitted, ?_⟩
    intro newer entry older split
    cases newer with
    | nil =>
        cases split
        exact now
    | cons latest others =>
        exact before others entry older (List.cons.inj split).2
  · refine ⟨initially, ?_⟩
    intro newer entry older split
    rw [fromStart] at split
    cases newer <;> cases split

theorem holds_always (holds : Recorded Value Operation → Prop)
    (keeps : ∀ recorded operation, holds recorded → holds (next apply recorded operation))
    {initial final : Recorded Value Operation} {operations : List Operation}
    (initially : holds initial) (fromStart : initial.past = [])
    (runs : Machine.run (step apply) initial operations = some final) :
    holds final ∧ ∀ newer entry older, final.past = newer ++ entry :: older →
      holds { value := entry.found, past := older } := by
  apply holds_throughout holds ?_ initially fromStart
    (Machine.along_of_forall_mem (fun _ _ _ => trivial) initial) runs
  exact fun recorded operation holding _ => keeps recorded operation holding

/-! ## Properties of every state of a run -/

def Throughout (apply : Operation → Value → Value)
    (holds : Recorded Value Operation → Prop) :
    Recorded Value Operation → List Operation → Prop
  | recorded, [] => holds recorded
  | recorded, operation :: rest =>
      holds recorded ∧ Throughout apply holds (next apply recorded operation) rest

/-- When an operation keeps the property exactly if it is allowed, a run keeps it
exactly if all its operations are allowed. -/
theorem throughout_iff {holds : Recorded Value Operation → Prop}
    (invariant : Recorded Value Operation → Prop)
    (keeps : ∀ recorded operation, invariant recorded →
      invariant (next apply recorded operation))
    (exactly : ∀ recorded operation, invariant recorded → holds recorded →
      (holds (next apply recorded operation) ↔ allowed recorded operation))
    (operations : List Operation) (initially : invariant recorded)
    (holding : holds recorded) :
    Throughout apply holds recorded operations ↔
      Machine.Along (step apply) allowed recorded operations := by
  induction operations generalizing recorded with
  | nil => simp [Throughout, Machine.Along, holding]
  | cons operation rest induction =>
      have afterwards := keeps recorded operation initially
      have isExact := exactly recorded operation initially holding
      constructor
      · intro throughout
        have nextHolds : holds (next apply recorded operation) := by
          cases rest with
          | nil => exact throughout.2
          | cons _ _ => exact throughout.2.1
        refine ⟨isExact.mp nextHolds, fun following stepped => ?_⟩
        cases stepped
        exact (induction afterwards nextHolds).mp throughout.2
      · intro along
        have nextHolds := isExact.mpr along.1
        exact ⟨holding, (induction afterwards nextHolds).mpr (along.2 _ rfl)⟩

/-! ## The latest answer -/

section

variable {answer : Entry Value Operation → Option Answer}
  {past older : List (Entry Value Operation)} {entry other : Entry Value Operation}

/-- The entry is the latest in the past that has an answer; `older` is what came
before it. -/
inductive Latest (answer : Entry Value Operation → Option Answer) :
    List (Entry Value Operation) → Entry Value Operation →
      List (Entry Value Operation) → Prop
  | here {entry : Entry Value Operation} {older : List (Entry Value Operation)}
      (answered : (answer entry).isSome = true) : Latest answer (entry :: older) entry older
  | later {other entry : Entry Value Operation} {past older : List (Entry Value Operation)}
      (silent : answer other = none) (before : Latest answer past entry older) :
      Latest answer (other :: past) entry older

theorem Latest.split (latest : Latest answer past entry older) :
    ∃ newer, past = newer ++ entry :: older ∧ ∀ later ∈ newer, answer later = none := by
  induction latest with
  | here answered => exact ⟨[], rfl, fun _ member => (nomatch member)⟩
  | later silent before induction =>
      rcases induction with ⟨newer, rfl, quiet⟩
      refine ⟨_ :: newer, rfl, ?_⟩
      intro later member
      rcases List.mem_cons.mp member with rfl | member
      · exact silent
      · exact quiet later member

end

/-! ## Counting -/

theorem countP_cons_le_one {Item : Type w} {wins : Item → Bool} {item : Item}
    {items : List Item} (first : wins item = true → ∀ other ∈ items, wins other = false)
    (atMostOne : items.countP wins ≤ 1) : (item :: items).countP wins ≤ 1 := by
  rw [List.countP_cons]
  cases won : wins item with
  | false => simpa using atMostOne
  | true =>
      have none : items.countP wins = 0 :=
        List.countP_eq_zero.mpr fun other member => by simp [first won other member]
      simp [none]

end TransactionService.History
