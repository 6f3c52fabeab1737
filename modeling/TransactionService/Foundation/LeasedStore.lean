import TransactionService.Foundation.SharedStore

namespace TransactionService.LeasedStore

open SharedStore

/-! # A shared store that forgets

Every write comes with a time to live, which the writer measures from a horizon of the
record. A record whose deadline has passed is found by nobody, and the next step that
is about its key drops it. -/

/-- When a write read the clock for its time to live, and when it landed. -/
structure Landing where
  measured : Int
  landed : Int

/-- The time to live that a writer asks for, and the deadline that the store makes of
it; without one the record is kept for ever. -/
structure Terms (Record : Type v) where
  ttl : Int → Record → Int
  deadline : Int → Int → Option Int

/-- Time to live is what is left until the horizon of the record, and the store keeps a
record for that long, or for ever when nothing is left. -/
structure Terms.Measures {Record : Type v} (terms : Terms Record) (horizon : Record → Int) :
    Prop where
  ttl : ∀ measured record, terms.ttl measured record = horizon record - measured
  never : ∀ landed, terms.deadline landed 0 = none
  later : ∀ landed ttl, ttl ≠ 0 → terms.deadline landed ttl = some (landed + ttl)

structure State (Key : Type u) (Record : Type v) (Tag : Type w) (Task : Type x) where
  system : System Key Record Tag Task
  now : Int
  landings : Key → Option Landing

/-- A writer has read the clock `lag` before its write lands. -/
inductive Timed (Key : Type u) (Task : Type x) (Creation : Type y)
  | wait (elapsed : Nat)
  | act (lag : Nat) (label : Label Key Task Creation)

variable {Key : Type u} {Record : Type v} {Tag : Type w} {Task : Type x} {Creation : Type y}

def start (now : Int) : State Key Record Tag Task where
  system := SharedStore.start
  now
  landings _ := none

def Terms.isPast (terms : Terms Record) (now : Int) (landing : Landing) (record : Record) :
    Bool :=
  (terms.deadline landing.landed (terms.ttl landing.measured record)).any
    fun deadline => decide (deadline < now)

def forgotten (terms : Terms Record) (state : State Key Record Tag Task) (key : Key) : Bool :=
  match state.system.stored key, state.landings key with
  | some record, some landing => terms.isPast state.now landing record
  | _, _ => false

def find (terms : Terms Record) (state : State Key Record Tag Task) (key : Key) :
    Option Record :=
  if forgotten terms state key then none else state.system.stored key

section

variable [DecidableEq Key] [DecidableEq Tag]
  (protocol : Protocol Key Record Tag Task Creation) (terms : Terms Record)

def writtenKey (system : System Key Record Tag Task) : Label Key Task Creation → Option Key
  | .create creation => some (protocol.keyOf (protocol.make creation))
  | .put session =>
      match system.pending session with
      | some (_, .put record, _) => some (protocol.keyOf record)
      | _ => none
  | .swap session =>
      match system.pending session with
      | some (working, .guarded key _ _, _) => working.checked.map fun _ => key
      | _ => none
  | .commit session =>
      match system.pending session with
      | some (_, .guarded key expected _, _) =>
          (matching protocol system key expected).map fun _ => key
      | _ => none
  | _ => none

def settle (state : State Key Record Tag Task) (label : Label Key Task Creation) :
    System Key Record Tag Task :=
  match about protocol state.system label with
  | some key =>
      if forgotten terms state key then
        { state.system with stored := Function.update state.system.stored key none }
      else state.system
  | none => state.system

def act (state : State Key Record Tag Task) (lag : Nat) (label : Label Key Task Creation) :
    Option (State Key Record Tag Task) :=
  (SharedStore.step protocol (settle protocol terms state label) label).map fun next => {
    system := next
    now := state.now
    landings :=
      match writtenKey protocol (settle protocol terms state label) label with
      | none => state.landings
      | some key => Function.update state.landings key
          (some { measured := state.now - lag, landed := state.now }) }

/-- Records are dropped for no other reason. -/
def step (state : State Key Record Tag Task) :
    Timed Key Task Creation → Option (State Key Record Tag Task)
  | .wait elapsed => some { state with now := state.now + elapsed }
  | .act _ (.evict _) => none
  | .act lag label => act protocol terms state lag label

end

section

variable [DecidableEq Key] [DecidableEq Tag]
  {protocol : Protocol Key Record Tag Task Creation} {terms : Terms Record}
  {system next : System Key Record Tag Task}

/-! ## What a step writes -/

theorem step_stored {label : Label Key Task Creation}
    (stepped : SharedStore.step protocol system label = some next)
    (drops : ∀ key, label ≠ .evict key) (key : Key) :
    (writtenKey protocol system label = some key ∧ ∃ record, next.stored key = some record) ∨
      (writtenKey protocol system label ≠ some key ∧ next.stored key = system.stored key) := by
  have wrote : ∀ place record, writtenKey protocol system label = some place →
      next.stored = Function.update system.stored place (some record) →
      (writtenKey protocol system label = some key ∧
        ∃ record, next.stored key = some record) ∨
      (writtenKey protocol system label ≠ some key ∧
        next.stored key = system.stored key) := by
    intro place record written same
    by_cases own : key = place
    · subst own
      rw [same, Function.update_self]
      exact .inl ⟨written, record, rfl⟩
    · rw [same, Function.update_of_ne own]
      refine .inr ⟨fun other => own ?_, rfl⟩
      exact (Option.some.inj (written.symm.trans other)).symm
  have nothing : none ≠ some key := (Option.some_ne_none key).symm
  cases label with
  | create creation =>
      rcases step_create stepped with ⟨-, rfl⟩
      exact wrote _ _ rfl rfl
  | load session place task =>
      rcases step_load stepped with ⟨loaded, -, rfl⟩
      exact .inr ⟨nothing, rfl⟩
  | put session =>
      rcases step_put stepped with ⟨working, record, rest, found, writes, rfl⟩
      apply wrote (protocol.keyOf record) record _ rfl
      simp only [writtenKey, System.pending_of found writes]
  | compare session =>
      rcases step_compare stepped with ⟨_, _, _, _, _, -, -, ⟨_, -, rfl⟩ | rfl⟩
      · exact .inr ⟨nothing, rfl⟩
      · exact .inr ⟨nothing, rfl⟩
  | swap session =>
      rcases step_swap stepped with
        ⟨working, place, expected, update, rest, current, found, writes, isChecked, rfl⟩
      apply wrote place (update current) _ rfl
      simp only [writtenKey, System.pending_of found writes, isChecked, Option.map_some]
  | commit session =>
      rcases step_commit_cases stepped with
        ⟨working, place, expected, update, rest, found, writes,
          ⟨current, matches', rfl⟩ | ⟨matches', rfl⟩⟩
      · apply wrote place (update current) _ rfl
        simp only [writtenKey, System.pending_of found writes, matches', Option.map_some]
      · refine .inr ⟨?_, rfl⟩
        simp only [writtenKey, System.pending_of found writes, matches', Option.map_none]
        exact nothing
  | abandon session =>
      cases stepped
      exact .inr ⟨nothing, rfl⟩
  | evict place => exact absurd rfl (drops place)

/-! ## The store underneath -/

variable {state final : State Key Record Tag Task}

theorem settle_refines (label : Label Key Task Creation) :
    ∃ evictions : List Key,
      Machine.run (SharedStore.step protocol) state.system (evictions.map .evict) =
        some (settle protocol terms state label) := by
  unfold settle
  split
  · rename_i key _
    split
    · exact ⟨[key], rfl⟩
    · exact ⟨[], rfl⟩
  · exact ⟨[], rfl⟩

theorem step_act {lag : Nat} {label : Label Key Task Creation}
    (stepped : step protocol terms state (.act lag label) = some final) :
    (∀ key, label ≠ .evict key) ∧ final.now = state.now ∧
      SharedStore.step protocol (settle protocol terms state label) label =
        some final.system ∧
      final.landings =
        match writtenKey protocol (settle protocol terms state label) label with
        | none => state.landings
        | some key => Function.update state.landings key
            (some { measured := state.now - lag, landed := state.now }) := by
  have acted : (∀ key, label ≠ .evict key) ∧
      act protocol terms state lag label = some final := by
    cases label with
    | evict key => cases stepped
    | _ => exact ⟨nofun, stepped⟩
  rcases acted with ⟨keeps, acted⟩
  rcases Option.map_eq_some_iff.mp acted with ⟨next, moved, rfl⟩
  exact ⟨keeps, rfl, moved, rfl⟩

theorem act_refines {lag : Nat} {label : Label Key Task Creation}
    (stepped : step protocol terms state (.act lag label) = some final) :
    ∃ labels, Machine.run (SharedStore.step protocol) state.system labels =
        some final.system ∧
      ∀ creation, .create creation ∈ labels ↔ label = .create creation := by
  rcases step_act stepped with ⟨-, -, moved, -⟩
  rcases @settle_refines _ _ _ _ _ _ _ protocol terms state label with ⟨evictions, settled⟩
  refine ⟨evictions.map .evict ++ [label], Machine.run_concat settled moved, ?_⟩
  intro creation
  simp [eq_comm]

/-- A run of the store that forgets is one of the shared store, with evictions. -/
theorem run_refines {timed : List (Timed Key Task Creation)}
    (runs : Machine.run (step protocol terms) state timed = some final) :
    ∃ labels, Machine.run (SharedStore.step protocol) state.system labels =
        some final.system ∧
      ∀ creation, .create creation ∈ labels ↔
        ∃ lag, .act lag (.create creation) ∈ timed := by
  induction timed generalizing state with
  | nil =>
      cases runs
      exact ⟨[], rfl, by simp⟩
  | cons first rest induction =>
      rcases Machine.run_cons runs with ⟨middle, stepped, later⟩
      rcases induction later with ⟨labels, continues, creates⟩
      cases first with
      | wait elapsed =>
          cases stepped
          exact ⟨labels, continues, by simpa using creates⟩
      | act lag label =>
          rcases act_refines stepped with ⟨moved, moves, creating⟩
          refine ⟨moved ++ labels, Machine.run_append moves continues, ?_⟩
          intro creation
          rw [List.mem_append, creating, creates]
          constructor
          · intro either
            rcases either with rfl | ⟨other, member⟩
            · exact ⟨lag, List.mem_cons_self⟩
            · exact ⟨other, List.mem_cons_of_mem _ member⟩
          · intro someLag
            rcases someLag with ⟨other, member⟩
            rcases List.mem_cons.mp member with same | member
            · cases same
              exact .inl rfl
            · exact .inr ⟨other, member⟩

/-! ## How long a record is found -/

/-- A record with this horizon is past: the last write left some time, and it is over. -/
def RunOut (horizon now : Int) (landing : Landing) : Prop :=
  landing.measured ≠ horizon ∧ horizon + (landing.landed - landing.measured) < now

theorem RunOut.mono {horizon now later : Int} {landing : Landing}
    (isPast : RunOut horizon now landing) (passes : now ≤ later) :
    RunOut horizon later landing := by
  rcases isPast with ⟨left, past⟩
  exact ⟨left, by omega⟩

variable {Identity : Type z} {identity : Record → Identity} {horizon : Record → Int}

omit [DecidableEq Key] [DecidableEq Tag] in
theorem isPast_iff (measures : terms.Measures horizon) {now : Int} {landing : Landing}
    {record : Record} :
    terms.isPast now landing record = true ↔ RunOut (horizon record) now landing := by
  unfold Terms.isPast RunOut
  rw [measures.ttl]
  by_cases spent : landing.measured = horizon record
  · rw [spent, Int.sub_self, measures.never]
    simp
  · rw [measures.later _ _ (by omega)]
    have rearranged : landing.landed + (horizon record - landing.measured) =
        horizon record + (landing.landed - landing.measured) := by omega
    simp [spent, rearranged]

omit [DecidableEq Key] [DecidableEq Tag] in
theorem forgotten_iff {key : Key} :
    forgotten terms state key = true ↔ ∃ record landing,
      state.system.stored key = some record ∧ state.landings key = some landing ∧
        terms.isPast state.now landing record = true := by
  unfold forgotten
  split
  · rename_i record landing isStored isLanding
    simp [isStored, isLanding]
  · rename_i absent
    constructor
    · exact nofun
    · intro present
      rcases present with ⟨record, landing, isStored, isLanding, -⟩
      exact absurd isLanding (absent record landing isStored)

omit [DecidableEq Tag] in
theorem settle_created (label : Label Key Task Creation) :
    (settle protocol terms state label).created = state.system.created := by
  unfold settle
  split
  · split <;> rfl
  · rfl

omit [DecidableEq Tag] in
private theorem settle_stored (label : Label Key Task Creation) (key : Key) :
    (settle protocol terms state label).stored key = state.system.stored key ∨
      forgotten terms state key = true := by
  unfold settle
  split
  · rename_i place _
    split
    · rename_i past
      by_cases own : key = place
      · rw [own]
        exact .inr past
      · exact .inl (Function.update_of_ne own _ _)
    · exact .inl rfl
  · exact .inl rfl

def Leased (horizon : Record → Int) (state : State Key Record Tag Task) : Prop :=
  ∀ key original, state.system.created key = some original → ∃ landing,
    state.landings key = some landing ∧ landing.measured ≤ landing.landed ∧
      landing.landed ≤ state.now ∧
      (state.system.stored key = none → RunOut (horizon original) state.now landing)

def KeepsHorizon (horizon : Record → Int) (system : System Key Record Tag Task) : Prop :=
  ∀ key record, system.stored key = some record → ∃ original,
    system.created key = some original ∧ horizon record = horizon original

private theorem act_leased (measures : terms.Measures horizon)
    (keeps : KeepsHorizon horizon state.system) (leased : Leased horizon state)
    {lag : Nat} {label : Label Key Task Creation}
    (stepped : step protocol terms state (.act lag label) = some final) :
    Leased horizon final := by
  rcases step_act stepped with ⟨drops, sameNow, moved, landings⟩
  intro key original created
  rcases step_stored moved drops key with ⟨written, record, isStored⟩ | ⟨unwritten, same⟩
  · refine ⟨{ measured := state.now - lag, landed := state.now }, ?_, ?_, ?_, ?_⟩
    · rw [landings, written]
      exact Function.update_self ..
    · change state.now - (lag : Int) ≤ state.now
      omega
    · exact sameNow ▸ Int.le_refl _
    · intro absent
      rw [isStored] at absent
      cases absent
  · have earlier : state.system.created key = some original := by
      rcases step_created_cases moved with unchanged | ⟨creation, rfl, -, updated⟩
      · rw [unchanged, settle_created] at created
        exact created
      · have elsewhere : key ≠ protocol.keyOf (protocol.make creation) :=
          fun own => unwritten (congrArg some own.symm)
        rw [updated, Function.update_of_ne elsewhere, settle_created] at created
        exact created
    have landingSame : final.landings key = state.landings key := by
      rw [landings]
      split
      · rfl
      · rename_i place written
        refine Function.update_of_ne (fun own => unwritten ?_) _ _
        rw [written, own]
    rcases leased key original earlier with ⟨landing, isLanding, measured, landed, missing⟩
    refine ⟨landing, landingSame.trans isLanding, measured, sameNow ▸ landed, ?_⟩
    intro absent
    rw [sameNow]
    rw [same] at absent
    rcases @settle_stored _ _ _ _ _ _ protocol terms state label key with kept | past
    · exact missing (kept ▸ absent)
    · rcases forgotten_iff.mp past with ⟨record, other, isStored, isOther, isPast⟩
      cases isLanding.symm.trans isOther
      rcases keeps key record isStored with ⟨first, isFirst, sameHorizon⟩
      cases earlier.symm.trans isFirst
      rw [← sameHorizon]
      exact (isPast_iff measures).mp isPast

private theorem wait_leased (leased : Leased horizon state) {elapsed : Nat}
    (stepped : step protocol terms state (.wait elapsed) = some final) :
    Leased horizon final := by
  cases stepped
  intro key original created
  rcases leased key original created with ⟨landing, isLanding, measured, landed, missing⟩
  refine ⟨landing, isLanding, measured, ?_, ?_⟩
  · change landing.landed ≤ state.now + (elapsed : Int)
    omega
  · intro absent
    apply (missing absent).mono
    change state.now ≤ state.now + (elapsed : Int)
    omega

/-! ## Over whole runs -/

theorem keepsHorizon_of_run (framed : Framed protocol identity)
    (fixed : ∀ left right, identity left = identity right → horizon left = horizon right)
    {labels : List (Label Key Task Creation)}
    (runs : Machine.run (SharedStore.step protocol) SharedStore.start labels = some system) :
    KeepsHorizon horizon system := by
  intro key record isStored
  rcases (framed.sound_of_run runs).stored key record isStored with
    ⟨original, created, -, same⟩
  exact ⟨original, created, fixed record original same⟩

theorem leased_of_run (framed : Framed protocol identity)
    (fixed : ∀ left right, identity left = identity right → horizon left = horizon right)
    (measures : terms.Measures horizon) {began : Int}
    {timed : List (Timed Key Task Creation)}
    (runs : Machine.run (step protocol terms) (start began) timed = some state) :
    Leased horizon state := by
  let holds (state : State Key Record Tag Task) : Prop :=
    Leased horizon state ∧ ∃ labels, Machine.run (SharedStore.step protocol)
      SharedStore.start labels = some state.system
  have initially : holds (start began) := ⟨fun _ _ created => (nomatch created), [], rfl⟩
  refine (Machine.invariant_of_run holds ?_ initially
    (Machine.along_of_forall_mem (fun _ _ _ => trivial) _) runs).1
  intro current label next holding _ stepped
  rcases holding with ⟨leased, labels, reached⟩
  have reaches : ∃ later, Machine.run (SharedStore.step protocol) SharedStore.start later =
      some next.system := by
    have once : Machine.run (step protocol terms) current [label] = some next :=
      Option.bind_eq_some_iff.mpr ⟨next, stepped, rfl⟩
    rcases run_refines once with ⟨more, continues, -⟩
    exact ⟨labels ++ more, Machine.run_append reached continues⟩
  refine ⟨?_, reaches⟩
  cases label with
  | wait elapsed => exact wait_leased leased stepped
  | act lag label =>
      exact act_leased measures (keepsHorizon_of_run framed fixed reached) leased stepped

def CreatedIn (timed : List (Timed Key Task Creation)) (creation : Creation) : Prop :=
  ∃ lag, .act lag (.create creation) ∈ timed

/-- A record is found exactly while it is not past: not before its horizon, and after
it only by what the last write took to land, unless that write left no time at all. -/
theorem found_iff (framed : Framed protocol identity)
    (fixed : ∀ left right, identity left = identity right → horizon left = horizon right)
    (measures : terms.Measures horizon) {began : Int}
    {timed : List (Timed Key Task Creation)}
    (runs : Machine.run (step protocol terms) (start began) timed = some state)
    {creation : Creation} (created : CreatedIn timed creation) :
    ∃ landing, state.landings (protocol.keyOf (protocol.make creation)) = some landing ∧
      landing.measured ≤ landing.landed ∧ landing.landed ≤ state.now ∧
      ((∃ record, find terms state (protocol.keyOf (protocol.make creation)) = some record ∧
          identity record = identity (protocol.make creation)) ↔
        ¬ RunOut (horizon (protocol.make creation)) state.now landing) := by
  have leased := leased_of_run framed fixed measures runs
  rcases run_refines runs with ⟨labels, reached, creates⟩
  have isCreated : state.system.created (protocol.keyOf (protocol.make creation)) =
      some (protocol.make creation) := by
    have member := (creates creation).mpr created
    exact created_of_mem reached member
  have isSound := framed.sound_of_run reached
  rcases leased _ _ isCreated with ⟨landing, isLanding, measured, landed, missing⟩
  refine ⟨landing, isLanding, measured, landed, ?_⟩
  have same : ∀ record,
      state.system.stored (protocol.keyOf (protocol.make creation)) = some record →
        identity record = identity (protocol.make creation) := by
    intro record isStored
    rcases isSound.stored _ record isStored with ⟨original, isOriginal, -, same⟩
    cases isCreated.symm.trans isOriginal
    exact same
  constructor
  · intro found
    rcases found with ⟨record, isFound, -⟩
    unfold find at isFound
    split at isFound
    · cases isFound
    · rename_i present
      intro isPast
      apply present
      apply forgotten_iff.mpr
      refine ⟨record, landing, isFound, isLanding, (isPast_iff measures).mpr ?_⟩
      rw [fixed record _ (same record isFound)]
      exact isPast
  · intro inTime
    cases isStored : state.system.stored (protocol.keyOf (protocol.make creation)) with
    | none => exact absurd (missing isStored) inTime
    | some record =>
        refine ⟨record, ?_, same record isStored⟩
        unfold find
        rw [if_neg, isStored]
        intro past
        rcases forgotten_iff.mp past with ⟨other, lease, isOther, isLease, isPast⟩
        cases isStored.symm.trans isOther
        cases isLanding.symm.trans isLease
        have lapsed := (isPast_iff measures).mp isPast
        rw [fixed record _ (same record isStored)] at lapsed
        exact inTime lapsed

theorem found_created (framed : Framed protocol identity) {began : Int}
    {timed : List (Timed Key Task Creation)}
    (runs : Machine.run (step protocol terms) (start began) timed = some state)
    {key : Key} {record : Record} (found : find terms state key = some record) :
    ∃ creation, CreatedIn timed creation ∧ protocol.keyOf (protocol.make creation) = key ∧
      identity record = identity (protocol.make creation) := by
  have isStored : state.system.stored key = some record := by
    unfold find at found
    split at found
    · cases found
    · exact found
  rcases run_refines runs with ⟨labels, reached, creates⟩
  rcases framed.stored_of_run reached isStored with ⟨-, creation, member, place, same⟩
  exact ⟨creation, (creates creation).mp member, place, same⟩

end

end TransactionService.LeasedStore
