import TransactionService.Foundation.Machine

namespace TransactionService.SharedStore

/-! # Sessions over a shared store

A session loads one record and plans all its writes from it, so that they may be
built from a stale copy by the time they land. A plain write replaces the record
under its own key. A guarded write compares the tag of the record that is stored
by then and writes after that, in one step or in two between which other
sessions run. -/

inductive Write (Key : Type u) (Record : Type v) (Tag : Type w)
  | put (record : Record)
  | guarded (key : Key) (expected : Tag) (update : Record → Record)

/-- How records are keyed, tagged and created, and what a task is going to write
when it has loaded a record from under a key. -/
structure Protocol (Key : Type u) (Record : Type v) (Tag : Type w) (Task : Type x)
    (Creation : Type y) where
  keyOf : Record → Key
  tag : Record → Option Tag
  make : Creation → Record
  plan : Task → Key → Record → List (Write Key Record Tag)

/-- A task at work: what it loaded, the writes it has left, and the record that
passed the comparison of the first of them. -/
structure Session (Key : Type u) (Record : Type v) (Tag : Type w) (Task : Type x) where
  task : Task
  key : Key
  loaded : Record
  writes : List (Write Key Record Tag)
  checked : Option Record := none

structure System (Key : Type u) (Record : Type v) (Tag : Type w) (Task : Type x) where
  stored : Key → Option Record
  created : Key → Option Record
  sessions : Nat → Option (Session Key Record Tag Task)

inductive Label (Key : Type u) (Task : Type x) (Creation : Type y)
  | create (creation : Creation)
  | load (session : Nat) (key : Key) (task : Task)
  | put (session : Nat)
  | compare (session : Nat)
  | swap (session : Nat)
  | commit (session : Nat)
  /-- A session ends, or fails between two of its steps. -/
  | abandon (session : Nat)
  | evict (key : Key)

variable {Key : Type u} {Record : Type v} {Tag : Type w} {Task : Type x} {Creation : Type y}

def start : System Key Record Tag Task where
  stored _ := none
  created _ := none
  sessions _ := none

def Session.proceed (working : Session Key Record Tag Task)
    (rest : List (Write Key Record Tag)) : Session Key Record Tag Task :=
  { working with writes := rest, checked := none }

namespace System

def write [DecidableEq Key] (system : System Key Record Tag Task) (key : Key)
    (record : Record) : System Key Record Tag Task :=
  { system with stored := Function.update system.stored key (some record) }

def move (system : System Key Record Tag Task) (session : Nat)
    (working : Session Key Record Tag Task) : System Key Record Tag Task :=
  { system with sessions := Function.update system.sessions session (some working) }

def pending (system : System Key Record Tag Task) (session : Nat) :
    Option (Session Key Record Tag Task × Write Key Record Tag ×
      List (Write Key Record Tag)) :=
  match system.sessions session with
  | none => none
  | some working =>
      match working.writes with
      | [] => none
      | next :: rest => some (working, next, rest)

theorem pending_eq_some {system : System Key Record Tag Task} {session : Nat}
    {working : Session Key Record Tag Task} {next : Write Key Record Tag}
    {rest : List (Write Key Record Tag)}
    (isPending : system.pending session = some (working, next, rest)) :
    system.sessions session = some working ∧ working.writes = next :: rest := by
  unfold pending at isPending
  split at isPending
  · cases isPending
  · rename_i other found
    split at isPending
    · cases isPending
    · rename_i first later writes
      cases isPending
      exact ⟨found, writes⟩

theorem pending_of {system : System Key Record Tag Task} {session : Nat}
    {working : Session Key Record Tag Task} {next : Write Key Record Tag}
    {rest : List (Write Key Record Tag)} (found : system.sessions session = some working)
    (writes : working.writes = next :: rest) :
    system.pending session = some (working, next, rest) := by
  simp only [pending, found, writes]

end System

variable [DecidableEq Key] [DecidableEq Tag]

def matching (protocol : Protocol Key Record Tag Task Creation)
    (system : System Key Record Tag Task) (key : Key) (expected : Tag) : Option Record :=
  (system.stored key).filter fun record => decide (protocol.tag record = some expected)

/-- Only a key that was never used is created. -/
def step (protocol : Protocol Key Record Tag Task Creation)
    (system : System Key Record Tag Task) :
    Label Key Task Creation → Option (System Key Record Tag Task)
  | .create creation =>
      let record := protocol.make creation
      match system.created (protocol.keyOf record) with
      | some _ => none
      | none => some { system.write (protocol.keyOf record) record with
          created := Function.update system.created (protocol.keyOf record) (some record) }
  | .load session key task =>
      match system.sessions session, system.stored key with
      | none, some loaded => some (system.move session {
          task, key, loaded, writes := protocol.plan task key loaded })
      | _, _ => none
  | .put session =>
      match system.pending session with
      | some (working, .put record, rest) =>
          some ((system.write (protocol.keyOf record) record).move session
            (working.proceed rest))
      | _ => none
  | .compare session =>
      match system.pending session with
      | some (working, .guarded key expected _, rest) =>
          some (system.move session
            (match matching protocol system key expected with
              | some current => { working with checked := some current }
              | none => working.proceed rest))
      | _ => none
  | .swap session =>
      match system.pending session with
      | some (working, .guarded key _ update, rest) =>
          match working.checked with
          | some current =>
              some ((system.write key (update current)).move session (working.proceed rest))
          | none => none
      | _ => none
  | .commit session =>
      match system.pending session with
      | some (working, .guarded key expected update, rest) =>
          some ((match matching protocol system key expected with
              | some current => system.write key (update current)
              | none => system).move session (working.proceed rest))
      | _ => none
  | .abandon session => some { system with
      sessions := Function.update system.sessions session none }
  | .evict key => some { system with stored := Function.update system.stored key none }

section

variable {protocol : Protocol Key Record Tag Task Creation}
  {system next : System Key Record Tag Task} {session : Nat}

omit [DecidableEq Key] in
theorem matching_eq_some {key : Key} {expected : Tag} {current : Record}
    (found : matching protocol system key expected = some current) :
    system.stored key = some current ∧ protocol.tag current = some expected := by
  rcases Option.filter_eq_some_iff.mp found with ⟨isStored, same⟩
  exact ⟨isStored, of_decide_eq_true same⟩

/-! ## What one step does -/

theorem step_create {creation : Creation}
    (stepped : step protocol system (.create creation) = some next) :
    system.created (protocol.keyOf (protocol.make creation)) = none ∧
      next = { system.write (protocol.keyOf (protocol.make creation))
          (protocol.make creation) with
        created := Function.update system.created
          (protocol.keyOf (protocol.make creation)) (some (protocol.make creation)) } := by
  simp only [step] at stepped
  split at stepped
  · cases stepped
  · rename_i unused
    exact ⟨unused, (Option.some.inj stepped).symm⟩

theorem step_load {key : Key} {task : Task}
    (stepped : step protocol system (.load session key task) = some next) :
    ∃ loaded, system.stored key = some loaded ∧
      next = system.move session {
        task, key, loaded, writes := protocol.plan task key loaded } := by
  simp only [step] at stepped
  split at stepped
  · rename_i loaded free found
    exact ⟨loaded, found, (Option.some.inj stepped).symm⟩
  · cases stepped

theorem step_load_free {key : Key} {task : Task}
    (stepped : step protocol system (.load session key task) = some next) :
    system.sessions session = none := by
  simp only [step] at stepped
  split at stepped
  · assumption
  · cases stepped

theorem step_put (stepped : step protocol system (.put session) = some next) :
    ∃ working record rest, system.sessions session = some working ∧
      working.writes = .put record :: rest ∧
      next = (system.write (protocol.keyOf record) record).move session
        (working.proceed rest) := by
  simp only [step] at stepped
  split at stepped
  · rename_i working record rest isPending
    rcases System.pending_eq_some isPending with ⟨found, writes⟩
    exact ⟨working, record, rest, found, writes, (Option.some.inj stepped).symm⟩
  · cases stepped

theorem step_compare (stepped : step protocol system (.compare session) = some next) :
    ∃ working key expected update rest, system.sessions session = some working ∧
      working.writes = .guarded key expected update :: rest ∧
      ((∃ current, system.stored key = some current ∧
          next = system.move session { working with checked := some current }) ∨
        next = system.move session (working.proceed rest)) := by
  simp only [step] at stepped
  split at stepped
  · rename_i working key expected update rest isPending
    rcases System.pending_eq_some isPending with ⟨found, writes⟩
    refine ⟨working, key, expected, update, rest, found, writes, ?_⟩
    cases matches' : matching protocol system key expected with
    | some current =>
        rw [matches'] at stepped
        exact .inl ⟨current, (matching_eq_some matches').1, (Option.some.inj stepped).symm⟩
    | none =>
        rw [matches'] at stepped
        exact .inr (Option.some.inj stepped).symm
  · cases stepped

theorem step_compare_cases (stepped : step protocol system (.compare session) = some next) :
    ∃ working key expected update rest, system.sessions session = some working ∧
      working.writes = .guarded key expected update :: rest ∧
      ((∃ current, system.stored key = some current ∧
          protocol.tag current = some expected ∧
          next = system.move session { working with checked := some current }) ∨
        ((∀ current, system.stored key = some current →
            protocol.tag current ≠ some expected) ∧
          next = system.move session (working.proceed rest))) := by
  simp only [step] at stepped
  split at stepped
  · rename_i working key expected update rest isPending
    rcases System.pending_eq_some isPending with ⟨found, writes⟩
    refine ⟨working, key, expected, update, rest, found, writes, ?_⟩
    cases matches' : matching protocol system key expected with
    | some current =>
        rw [matches'] at stepped
        rcases matching_eq_some matches' with ⟨isStored, tagged⟩
        exact .inl ⟨current, isStored, tagged, (Option.some.inj stepped).symm⟩
    | none =>
        rw [matches'] at stepped
        refine .inr ⟨?_, (Option.some.inj stepped).symm⟩
        intro current isStored tagged
        simp [matching, isStored, tagged] at matches'
  · cases stepped

theorem step_swap (stepped : step protocol system (.swap session) = some next) :
    ∃ working key expected update rest current,
      system.sessions session = some working ∧
      working.writes = .guarded key expected update :: rest ∧
      working.checked = some current ∧
      next = (system.write key (update current)).move session (working.proceed rest) := by
  simp only [step] at stepped
  split at stepped
  · rename_i working key expected update rest isPending
    rcases System.pending_eq_some isPending with ⟨found, writes⟩
    split at stepped
    · rename_i current isChecked
      exact ⟨working, key, expected, update, rest, current, found, writes, isChecked,
        (Option.some.inj stepped).symm⟩
    · cases stepped
  · cases stepped

theorem step_commit_cases (stepped : step protocol system (.commit session) = some next) :
    ∃ working key expected update rest, system.sessions session = some working ∧
      working.writes = .guarded key expected update :: rest ∧
      ((∃ current, matching protocol system key expected = some current ∧
          next = (system.write key (update current)).move session
            (working.proceed rest)) ∨
        (matching protocol system key expected = none ∧
          next = system.move session (working.proceed rest))) := by
  simp only [step] at stepped
  split at stepped
  · rename_i working key expected update rest isPending
    rcases System.pending_eq_some isPending with ⟨found, writes⟩
    refine ⟨working, key, expected, update, rest, found, writes, ?_⟩
    cases matches' : matching protocol system key expected with
    | some current =>
        rw [matches'] at stepped
        exact .inl ⟨current, rfl, (Option.some.inj stepped).symm⟩
    | none =>
        rw [matches'] at stepped
        exact .inr ⟨rfl, (Option.some.inj stepped).symm⟩
  · cases stepped

theorem step_commit (stepped : step protocol system (.commit session) = some next) :
    ∃ working key expected update rest, system.sessions session = some working ∧
      working.writes = .guarded key expected update :: rest ∧
      ((∃ current, system.stored key = some current ∧
          protocol.tag current = some expected ∧
          next = (system.write key (update current)).move session
            (working.proceed rest)) ∨
        next = system.move session (working.proceed rest)) := by
  rcases step_commit_cases stepped with
    ⟨working, key, expected, update, rest, found, writes, outcome⟩
  refine ⟨working, key, expected, update, rest, found, writes, ?_⟩
  rcases outcome with ⟨current, matches', moved⟩ | ⟨-, moved⟩
  · rcases matching_eq_some matches' with ⟨isStored, tagged⟩
    exact .inl ⟨current, isStored, tagged, moved⟩
  · exact .inr moved

theorem step_commit_matching {working : Session Key Record Tag Task} {key : Key}
    {expected : Tag} {update : Record → Record} {rest : List (Write Key Record Tag)}
    {current : Record} (found : system.sessions session = some working)
    (writes : working.writes = .guarded key expected update :: rest)
    (isStored : system.stored key = some current)
    (tagged : protocol.tag current = some expected) :
    step protocol system (.commit session) =
      some ((system.write key (update current)).move session (working.proceed rest)) := by
  have matches' : matching protocol system key expected = some current :=
    Option.filter_eq_some_iff.mpr ⟨isStored, decide_eq_true tagged⟩
  simp only [step, System.pending_of found writes, matches']

theorem step_commit_stale {working : Session Key Record Tag Task} {key : Key}
    {expected : Tag} {update : Record → Record} {rest : List (Write Key Record Tag)}
    {current : Record} (found : system.sessions session = some working)
    (writes : working.writes = .guarded key expected update :: rest)
    (isStored : system.stored key = some current)
    (retagged : protocol.tag current ≠ some expected) :
    step protocol system (.commit session) =
      some (system.move session (working.proceed rest)) := by
  have stale : matching protocol system key expected = none := by
    simp [matching, isStored, retagged]
  simp only [step, System.pending_of found writes, stale]

/-! ## Properties of every record -/

def Write.Keeps (protocol : Protocol Key Record Tag Task Creation)
    (holds : Key → Record → Prop) (key : Key) : Write Key Record Tag → Prop
  | .put record => protocol.keyOf record = key ∧ holds key record
  | .guarded place _ update =>
      place = key ∧ ∀ current, holds key current → holds key (update current)

structure Session.Sound (protocol : Protocol Key Record Tag Task Creation)
    (holds : Key → Record → Prop) (working : Session Key Record Tag Task) : Prop where
  loaded : holds working.key working.loaded
  planned : working.writes <:+ protocol.plan working.task working.key working.loaded
  writes : ∀ next ∈ working.writes, next.Keeps protocol holds working.key
  checked : ∀ current, working.checked = some current → holds working.key current

/-- The property holds of every record that is stored, and will hold of every
record that a session is going to store. -/
structure Sound (protocol : Protocol Key Record Tag Task Creation)
    (holds : Key → Record → Prop) (system : System Key Record Tag Task) : Prop where
  stored : ∀ key record, system.stored key = some record → holds key record
  sessions : ∀ session working, system.sessions session = some working →
    working.Sound protocol holds

variable {holds : Key → Record → Prop} {working : Session Key Record Tag Task}

omit [DecidableEq Key] [DecidableEq Tag] in
theorem start_sound : Sound protocol holds (start : System Key Record Tag Task) where
  stored _ _ found := nomatch found
  sessions _ _ found := nomatch found

omit [DecidableEq Key] [DecidableEq Tag] in
theorem Session.Sound.proceed {first : Write Key Record Tag}
    {rest : List (Write Key Record Tag)} (sound : working.Sound protocol holds)
    (writes : working.writes = first :: rest) :
    (working.proceed rest).Sound protocol holds where
  loaded := sound.loaded
  planned := by
    have planned := sound.planned
    rw [writes] at planned
    exact (List.suffix_cons first rest).trans planned
  writes other member := by
    apply sound.writes other
    rw [writes]
    exact List.mem_cons_of_mem first member
  checked _ none := nomatch none

omit [DecidableEq Key] [DecidableEq Tag] in
theorem Session.Sound.head {first : Write Key Record Tag}
    {rest : List (Write Key Record Tag)} (sound : working.Sound protocol holds)
    (writes : working.writes = first :: rest) : first.Keeps protocol holds working.key := by
  apply sound.writes first
  rw [writes]
  exact List.mem_cons_self ..

omit [DecidableEq Tag] in
theorem Sound.write {key : Key} {record : Record} (sound : Sound protocol holds system)
    (keeps : holds key record) : Sound protocol holds (system.write key record) where
  stored other found isStored := by
    rcases Machine.update_cases isStored with ⟨rfl, new⟩ | ⟨-, old⟩
    · cases new
      exact keeps
    · exact sound.stored other found old
  sessions := sound.sessions

omit [DecidableEq Key] [DecidableEq Tag] in
theorem Sound.move (sound : Sound protocol holds system)
    (keeps : working.Sound protocol holds) :
    Sound protocol holds (system.move session working) where
  stored := sound.stored
  sessions other found isWorking := by
    rcases Machine.update_cases isWorking with ⟨-, new⟩ | ⟨-, old⟩
    · cases new
      exact keeps
    · exact sound.sessions other found old

def Admits (protocol : Protocol Key Record Tag Task Creation)
    (holds : Key → Record → Prop) (system : System Key Record Tag Task) :
    Label Key Task Creation → Prop
  | .create creation => holds (protocol.keyOf (protocol.make creation)) (protocol.make creation)
  | .load _ key task => ∀ loaded, system.stored key = some loaded → holds key loaded →
      ∀ next ∈ protocol.plan task key loaded, next.Keeps protocol holds key
  | _ => True

theorem step_sound {label : Label Key Task Creation}
    (sound : Sound protocol holds system) (admits : Admits protocol holds system label)
    (stepped : step protocol system label = some next) : Sound protocol holds next := by
  cases label with
  | create creation =>
      rcases step_create stepped with ⟨-, rfl⟩
      have written := sound.write admits
      exact ⟨written.stored, written.sessions⟩
  | load session key task =>
      rcases step_load stepped with ⟨loaded, found, rfl⟩
      have isLoaded := sound.stored key loaded found
      exact sound.move ⟨isLoaded, List.suffix_refl _, admits loaded found isLoaded,
        fun _ none => (nomatch none)⟩
  | put session =>
      rcases step_put stepped with ⟨working, record, rest, found, writes, rfl⟩
      have isWorking := sound.sessions session working found
      have keeps := isWorking.head writes
      have written : holds (protocol.keyOf record) record := by
        rw [keeps.1]
        exact keeps.2
      exact (sound.write written).move (isWorking.proceed writes)
  | compare session =>
      rcases step_compare stepped with
        ⟨working, key, expected, update, rest, found, writes, ⟨current, isStored, rfl⟩ | rfl⟩
      · have isWorking := sound.sessions session working found
        have place := (isWorking.head writes).1
        apply sound.move
        refine ⟨isWorking.loaded, isWorking.planned, isWorking.writes, ?_⟩
        intro other same
        cases same
        rw [← place]
        exact sound.stored key current isStored
      · exact sound.move ((sound.sessions session working found).proceed writes)
  | swap session =>
      rcases step_swap stepped with
        ⟨working, key, expected, update, rest, current, found, writes, isChecked, rfl⟩
      have isWorking := sound.sessions session working found
      have keeps := isWorking.head writes
      have written : holds key (update current) := by
        rw [keeps.1]
        exact keeps.2 current (isWorking.checked current isChecked)
      exact (sound.write written).move (isWorking.proceed writes)
  | commit session =>
      rcases step_commit stepped with
        ⟨working, key, expected, update, rest, found, writes, ⟨current, isStored, -, rfl⟩ | rfl⟩
      · have isWorking := sound.sessions session working found
        have keeps := isWorking.head writes
        have written : holds key (update current) := by
          have isCurrent := sound.stored key current isStored
          rw [keeps.1] at isCurrent ⊢
          exact keeps.2 current isCurrent
        exact (sound.write written).move (isWorking.proceed writes)
      · exact sound.move ((sound.sessions session working found).proceed writes)
  | abandon session =>
      cases stepped
      refine ⟨sound.stored, ?_⟩
      intro other found isWorking
      rcases Machine.update_cases isWorking with ⟨-, new⟩ | ⟨-, old⟩
      · cases new
      · exact sound.sessions other found old
  | evict key =>
      cases stepped
      refine ⟨?_, sound.sessions⟩
      intro other found isStored
      rcases Machine.update_cases isStored with ⟨-, new⟩ | ⟨-, old⟩
      · cases new
      · exact sound.stored other found old

/-- A property of all created records that what is planned keeps holds of every
stored record, however the sessions interleave. -/
theorem sound_of_run {labels : List (Label Key Task Creation)}
    (sound : Sound protocol holds system)
    (admits : Machine.Along (step protocol) (Admits protocol holds) system labels)
    (runs : Machine.run (step protocol) system labels = some next) :
    Sound protocol holds next :=
  Machine.invariant_of_run (Sound protocol holds)
    (fun _ _ _ holding allowed stepped => step_sound holding allowed stepped)
    sound admits runs

/-! ### Two properties at once -/

def Write.Preserves (holds : Record → Prop) : Write Key Record Tag → Prop
  | .put record => holds record
  | .guarded _ _ update => ∀ current, holds current → holds (update current)

omit [DecidableEq Key] [DecidableEq Tag] in
theorem Write.Keeps.and {other : Record → Prop} {key : Key} {next : Write Key Record Tag}
    (keeps : next.Keeps protocol holds key) (preserves : next.Preserves other) :
    next.Keeps protocol (fun key record => holds key record ∧ other record) key := by
  cases next with
  | put record => exact ⟨keeps.1, keeps.2, preserves⟩
  | guarded place expected update =>
      exact ⟨keeps.1, fun current both =>
        ⟨keeps.2 current both.1, preserves current both.2⟩⟩

/-! ## What was created -/

theorem step_created_cases {label : Label Key Task Creation}
    (stepped : step protocol system label = some next) :
    next.created = system.created ∨ ∃ creation, label = .create creation ∧
      system.created (protocol.keyOf (protocol.make creation)) = none ∧
      next.created = Function.update system.created
        (protocol.keyOf (protocol.make creation)) (some (protocol.make creation)) := by
  cases label with
  | create creation =>
      rcases step_create stepped with ⟨unused, rfl⟩
      exact .inr ⟨creation, rfl, unused, rfl⟩
  | load session key task =>
      rcases step_load stepped with ⟨loaded, -, rfl⟩
      exact .inl rfl
  | put session =>
      rcases step_put stepped with ⟨working, record, rest, -, -, rfl⟩
      exact .inl rfl
  | compare session =>
      rcases step_compare stepped with ⟨_, _, _, _, _, -, -, ⟨_, -, rfl⟩ | rfl⟩
      · exact .inl rfl
      · exact .inl rfl
  | swap session =>
      rcases step_swap stepped with ⟨_, _, _, _, _, _, -, -, -, rfl⟩
      exact .inl rfl
  | commit session =>
      rcases step_commit stepped with ⟨_, _, _, _, _, -, -, ⟨_, -, -, rfl⟩ | rfl⟩
      · exact .inl rfl
      · exact .inl rfl
  | abandon session =>
      cases stepped
      exact .inl rfl
  | evict key =>
      cases stepped
      exact .inl rfl

theorem step_created {label : Label Key Task Creation} {key : Key} {record : Record}
    (stepped : step protocol system label = some next)
    (created : system.created key = some record) : next.created key = some record := by
  rcases step_created_cases stepped with same | ⟨creation, -, unused, same⟩
  · rw [same]
    exact created
  · have different : key ≠ protocol.keyOf (protocol.make creation) := by
      intro used
      rw [← used, created] at unused
      cases unused
    rw [same, Function.update_of_ne different]
    exact created

theorem creates_along {labels : List (Label Key Task Creation)}
    (runs : Machine.run (step protocol) system labels = some next) :
    Machine.Along (step protocol)
      (fun _ label => ∀ creation, label = .create creation →
        next.created (protocol.keyOf (protocol.make creation)) =
          some (protocol.make creation)) system labels := by
  induction labels generalizing system with
  | nil => trivial
  | cons label labels induction =>
      rcases Machine.run_cons runs with ⟨middle, stepped, rest⟩
      refine ⟨?_, fun other otherwise => ?_⟩
      · rintro creation rfl
        rcases step_create stepped with ⟨-, same⟩
        have created : middle.created (protocol.keyOf (protocol.make creation)) =
            some (protocol.make creation) := by
          rw [same]
          exact Function.update_self ..
        apply Machine.invariant_of_run
          (fun system : System Key Record Tag Task =>
            system.created (protocol.keyOf (protocol.make creation)) =
              some (protocol.make creation))
          (fun _ _ _ holding _ moved => step_created moved holding) created
          (Machine.along_of_forall_mem (fun _ _ _ => trivial) middle) rest
      · cases stepped.symm.trans otherwise
        exact induction rest

theorem created_of_mem {labels : List (Label Key Task Creation)} {creation : Creation}
    (runs : Machine.run (step protocol) system labels = some next)
    (member : .create creation ∈ labels) :
    next.created (protocol.keyOf (protocol.make creation)) =
      some (protocol.make creation) :=
  Machine.Along.of_mem (creates_along runs) runs member creation rfl

theorem created_of_run {labels : List (Label Key Task Creation)} {key : Key}
    {record : Record} (runs : Machine.run (step protocol) system labels = some next)
    (created : next.created key = some record) :
    system.created key = some record ∨
      ∃ creation, .create creation ∈ labels ∧ protocol.make creation = record ∧
        protocol.keyOf record = key := by
  induction labels generalizing system with
  | nil =>
      cases runs
      exact .inl created
  | cons label labels induction =>
      rcases Machine.run_cons runs with ⟨middle, stepped, rest⟩
      rcases induction rest with earlier | ⟨creation, member, same⟩
      · rcases step_created_cases stepped with same | ⟨creation, rfl, -, same⟩
        · rw [same] at earlier
          exact .inl earlier
        · rw [same] at earlier
          rcases Machine.update_cases earlier with ⟨place, new⟩ | ⟨-, old⟩
          · cases new
            exact .inr ⟨creation, List.mem_cons_self .., rfl, place.symm⟩
          · exact .inl old
      · exact .inr ⟨creation, List.mem_cons_of_mem label member, same⟩

/-! ## Other keys -/

def about (protocol : Protocol Key Record Tag Task Creation)
    (system : System Key Record Tag Task) : Label Key Task Creation → Option Key
  | .create creation => some (protocol.keyOf (protocol.make creation))
  | .load _ key _ => some key
  | .put session => (system.sessions session).map (·.key)
  | .compare session => (system.sessions session).map (·.key)
  | .swap session => (system.sessions session).map (·.key)
  | .commit session => (system.sessions session).map (·.key)
  | .abandon session => (system.sessions session).map (·.key)
  | .evict key => some key

omit [DecidableEq Tag] in
theorem write_other {key other : Key} (record : Record) (elsewhere : some key ≠ some other) :
    (system.write key record).stored other = system.stored other :=
  Function.update_of_ne (fun same => elsewhere (congrArg some same.symm)) _ _

theorem step_other {label : Label Key Task Creation} {other : Key}
    (sound : Sound protocol holds system)
    (stepped : step protocol system label = some next)
    (elsewhere : about protocol system label ≠ some other) :
    next.stored other = system.stored other := by
  cases label with
  | create creation =>
      rcases step_create stepped with ⟨-, rfl⟩
      exact write_other _ elsewhere
  | load session key task =>
      rcases step_load stepped with ⟨loaded, -, rfl⟩
      rfl
  | put session =>
      rcases step_put stepped with ⟨working, record, rest, found, writes, rfl⟩
      have place := ((sound.sessions session working found).head writes).1
      apply write_other
      simpa [about, found, place] using elsewhere
  | compare session =>
      rcases step_compare stepped with ⟨_, _, _, _, _, -, -, ⟨_, -, rfl⟩ | rfl⟩
      · rfl
      · rfl
  | swap session =>
      rcases step_swap stepped with
        ⟨working, key, expected, update, rest, current, found, writes, -, rfl⟩
      have place := ((sound.sessions session working found).head writes).1
      apply write_other
      simpa [about, found, place] using elsewhere
  | commit session =>
      rcases step_commit stepped with
        ⟨working, key, expected, update, rest, found, writes, ⟨current, -, -, rfl⟩ | rfl⟩
      · have place := ((sound.sessions session working found).head writes).1
        apply write_other
        simpa [about, found, place] using elsewhere
      · rfl
  | abandon session =>
      cases stepped
      rfl
  | evict key =>
      cases stepped
      exact Function.update_of_ne (fun same => elsewhere (congrArg some same.symm)) _ _

/-! ## What records keep from their creation -/

variable {Identity : Type z} {identity : Record → Identity}

def Write.KeepsIdentity (identity : Record → Identity) (key : Key) (loaded : Record) :
    Write Key Record Tag → Prop
  | .put record => identity record = identity loaded
  | .guarded place _ update => place = key ∧
      ∀ current, identity current = identity loaded →
        identity (update current) = identity loaded

/-- The identity of a record tells its key, and no plan changes it. -/
structure Framed (protocol : Protocol Key Record Tag Task Creation)
    (identity : Record → Identity) : Prop where
  keyed : ∀ left right, identity left = identity right →
    protocol.keyOf left = protocol.keyOf right
  plans : ∀ task key loaded, protocol.keyOf loaded = key →
    ∀ next ∈ protocol.plan task key loaded, next.KeepsIdentity identity key loaded

def AsCreated (protocol : Protocol Key Record Tag Task Creation)
    (identity : Record → Identity) (system : System Key Record Tag Task) (key : Key)
    (record : Record) : Prop :=
  ∃ original, system.created key = some original ∧ protocol.keyOf original = key ∧
    identity record = identity original

namespace Framed

omit [DecidableEq Key] [DecidableEq Tag] in
theorem keyOf_eq (framed : Framed protocol identity) {key : Key} {record : Record}
    (created : AsCreated protocol identity system key record) :
    protocol.keyOf record = key := by
  rcases created with ⟨original, -, place, same⟩
  exact (framed.keyed record original same).trans place

omit [DecidableEq Key] [DecidableEq Tag] in
private theorem plans_keep (framed : Framed protocol identity) {task : Task} {key : Key}
    {loaded : Record} (isLoaded : AsCreated protocol identity system key loaded)
    {planned : Write Key Record Tag} (member : planned ∈ protocol.plan task key loaded) :
    planned.Keeps protocol (AsCreated protocol identity system) key := by
  have place := framed.keyOf_eq isLoaded
  have keeps := framed.plans task key loaded place planned member
  rcases isLoaded with ⟨original, created, originalPlace, same⟩
  cases planned with
  | put record =>
      have isCreated : AsCreated protocol identity system key record :=
        ⟨original, created, originalPlace, keeps.trans same⟩
      exact ⟨framed.keyOf_eq isCreated, isCreated⟩
  | guarded goes expected update =>
      refine ⟨keeps.1, ?_⟩
      intro current isCurrent
      rcases isCurrent with ⟨other, otherCreated, -, otherSame⟩
      cases created.symm.trans otherCreated
      have updated := keeps.2 current (otherSame.trans same.symm)
      exact ⟨original, created, originalPlace, updated.trans same⟩

theorem admits_along (framed : Framed protocol identity)
    {labels : List (Label Key Task Creation)}
    (runs : Machine.run (step protocol) system labels = some next) :
    Machine.Along (step protocol) (Admits protocol (AsCreated protocol identity next))
      system labels := by
  apply (creates_along runs).mono
  intro state label created
  cases label with
  | create creation => exact ⟨protocol.make creation, created creation rfl, rfl, rfl⟩
  | load session key task => exact fun _ _ isLoaded _ member => framed.plans_keep isLoaded member
  | _ => trivial

theorem sound_of_run (framed : Framed protocol identity)
    {labels : List (Label Key Task Creation)}
    (runs : Machine.run (step protocol) start labels = some system) :
    Sound protocol (AsCreated protocol identity system) system :=
  SharedStore.sound_of_run start_sound (framed.admits_along runs) runs

/-- Whatever is stored under a key was created there in the run, and only parts
outside the identity have changed since. -/
theorem stored_of_run (framed : Framed protocol identity)
    {labels : List (Label Key Task Creation)}
    (runs : Machine.run (step protocol) start labels = some system)
    {key : Key} {record : Record} (isStored : system.stored key = some record) :
    protocol.keyOf record = key ∧ ∃ creation, .create creation ∈ labels ∧
      protocol.keyOf (protocol.make creation) = key ∧
      identity record = identity (protocol.make creation) := by
  have asCreated := (framed.sound_of_run runs).stored key record isStored
  refine ⟨framed.keyOf_eq asCreated, ?_⟩
  rcases asCreated with ⟨original, created, place, same⟩
  rcases created_of_run runs created with earlier | ⟨creation, member, rfl, -⟩
  · cases earlier
  · exact ⟨creation, member, place, same⟩

end Framed

end

end TransactionService.SharedStore
