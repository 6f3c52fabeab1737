import TransactionService.Foundation.SharedStore

namespace TransactionService.SharedStore

/-! # Properties that rest on the guard

A guarded write lands on no record but one with the expected tag, so that is all it
has to keep a property on. -/

variable {Key : Type u} {Record : Type v} {Tag : Type w} {Task : Type x} {Creation : Type y}

/-- The write goes under this key, and keeps the property of the records that it can
land on. -/
def Write.KeepsTagged (protocol : Protocol Key Record Tag Task Creation)
    (holds : Key → Record → Prop) (key : Key) : Write Key Record Tag → Prop
  | .put record => protocol.keyOf record = key ∧ holds key record
  | .guarded place expected update =>
      place = key ∧ ∀ current, holds key current → protocol.tag current = some expected →
        holds key (update current)

def Session.Compared (protocol : Protocol Key Record Tag Task Creation)
    (working : Session Key Record Tag Task) (current : Record) : Prop :=
  ∀ place expected update rest, working.writes = .guarded place expected update :: rest →
    protocol.tag current = some expected

structure Session.Guarded (protocol : Protocol Key Record Tag Task Creation)
    (holds : Key → Record → Prop) (working : Session Key Record Tag Task) : Prop where
  writes : ∀ next ∈ working.writes, next.KeepsTagged protocol holds working.key
  checked : ∀ current, working.checked = some current →
    holds working.key current ∧ working.Compared protocol current

structure Guarded (protocol : Protocol Key Record Tag Task Creation)
    (holds : Key → Record → Prop) (system : System Key Record Tag Task) : Prop where
  stored : ∀ key record, system.stored key = some record → holds key record
  sessions : ∀ session working, system.sessions session = some working →
    working.Guarded protocol holds

variable {protocol : Protocol Key Record Tag Task Creation} {holds : Key → Record → Prop}
  {system next : System Key Record Tag Task} {working : Session Key Record Tag Task}
  {session : Nat}

theorem start_guarded : Guarded protocol holds (start : System Key Record Tag Task) where
  stored _ _ found := nomatch found
  sessions _ _ found := nomatch found

theorem Session.Guarded.proceed {first : Write Key Record Tag}
    {rest : List (Write Key Record Tag)} (guarded : working.Guarded protocol holds)
    (writes : working.writes = first :: rest) :
    (working.proceed rest).Guarded protocol holds where
  writes other member := by
    apply guarded.writes other
    rw [writes]
    exact List.mem_cons_of_mem first member
  checked _ none := nomatch none

theorem Session.Guarded.head {first : Write Key Record Tag}
    {rest : List (Write Key Record Tag)} (guarded : working.Guarded protocol holds)
    (writes : working.writes = first :: rest) :
    first.KeepsTagged protocol holds working.key := by
  apply guarded.writes first
  rw [writes]
  exact List.mem_cons_self

theorem Session.Guarded.compare {place : Key} {expected : Tag} {update : Record → Record}
    {rest : List (Write Key Record Tag)} {current : Record}
    (guarded : working.Guarded protocol holds)
    (writes : working.writes = .guarded place expected update :: rest)
    (isCurrent : holds working.key current) (tagged : protocol.tag current = some expected) :
    Session.Guarded protocol holds { working with checked := some current } where
  writes := guarded.writes
  checked other same := by
    cases same
    refine ⟨isCurrent, ?_⟩
    intro otherPlace otherExpected otherUpdate otherRest otherWrites
    cases writes.symm.trans otherWrites
    exact tagged

variable [DecidableEq Key]

theorem Guarded.write {key : Key} {record : Record} (guarded : Guarded protocol holds system)
    (isWritten : holds key record) : Guarded protocol holds (system.write key record) where
  stored other found isStored := by
    rcases Machine.update_cases isStored with ⟨rfl, new⟩ | ⟨-, old⟩
    · cases new
      exact isWritten
    · exact guarded.stored other found old
  sessions := guarded.sessions

omit [DecidableEq Key] in
theorem Guarded.move (guarded : Guarded protocol holds system)
    (isWorking : working.Guarded protocol holds) :
    Guarded protocol holds (system.move session working) where
  stored := guarded.stored
  sessions other found isFound := by
    rcases Machine.update_cases isFound with ⟨-, new⟩ | ⟨-, old⟩
    · cases new
      exact isWorking
    · exact guarded.sessions other found old

variable [DecidableEq Tag]

/-- Only records with the property are created, and what is planned from such a record
keeps it where it can land. -/
def AdmitsTagged (protocol : Protocol Key Record Tag Task Creation)
    (holds : Key → Record → Prop) (system : System Key Record Tag Task) :
    Label Key Task Creation → Prop
  | .create creation => holds (protocol.keyOf (protocol.make creation)) (protocol.make creation)
  | .load _ key task => ∀ loaded, system.stored key = some loaded → holds key loaded →
      ∀ next ∈ protocol.plan task key loaded, next.KeepsTagged protocol holds key
  | _ => True

theorem step_guarded {label : Label Key Task Creation}
    (guarded : Guarded protocol holds system)
    (admits : AdmitsTagged protocol holds system label)
    (stepped : step protocol system label = some next) : Guarded protocol holds next := by
  cases label with
  | create creation =>
      rcases step_create stepped with ⟨-, rfl⟩
      have written := guarded.write admits
      exact ⟨written.stored, written.sessions⟩
  | load session key task =>
      rcases step_load stepped with ⟨loaded, found, rfl⟩
      exact guarded.move ⟨admits loaded found (guarded.stored key loaded found),
        fun _ none => (nomatch none)⟩
  | put session =>
      rcases step_put stepped with ⟨working, record, rest, found, writes, rfl⟩
      have isWorking := guarded.sessions session working found
      rcases isWorking.head writes with ⟨place, isWritten⟩
      rw [← place] at isWritten
      exact (guarded.write isWritten).move (isWorking.proceed writes)
  | compare session =>
      rcases step_compare_cases stepped with
        ⟨working, key, expected, update, rest, found, writes,
          ⟨current, isStored, tagged, rfl⟩ | ⟨-, rfl⟩⟩
      · have isWorking := guarded.sessions session working found
        have isCurrent := guarded.stored key current isStored
        rw [(isWorking.head writes).1] at isCurrent
        exact guarded.move (isWorking.compare writes isCurrent tagged)
      · exact guarded.move ((guarded.sessions session working found).proceed writes)
  | swap session =>
      rcases step_swap stepped with
        ⟨working, key, expected, update, rest, current, found, writes, isChecked, rfl⟩
      have isWorking := guarded.sessions session working found
      rcases isWorking.head writes with ⟨place, keeps⟩
      rcases isWorking.checked current isChecked with ⟨isCurrent, compared⟩
      have isWritten := keeps current isCurrent (compared key expected update rest writes)
      rw [← place] at isWritten
      exact (guarded.write isWritten).move (isWorking.proceed writes)
  | commit session =>
      rcases step_commit stepped with
        ⟨working, key, expected, update, rest, found, writes,
          ⟨current, isStored, tagged, rfl⟩ | rfl⟩
      · have isWorking := guarded.sessions session working found
        rcases isWorking.head writes with ⟨place, keeps⟩
        have isCurrent := guarded.stored key current isStored
        rw [place] at isCurrent
        have isWritten := keeps current isCurrent tagged
        rw [← place] at isWritten
        exact (guarded.write isWritten).move (isWorking.proceed writes)
      · exact guarded.move ((guarded.sessions session working found).proceed writes)
  | abandon session =>
      cases stepped
      refine ⟨guarded.stored, ?_⟩
      intro other found isFound
      rcases Machine.update_cases isFound with ⟨-, new⟩ | ⟨-, old⟩
      · cases new
      · exact guarded.sessions other found old
  | evict key =>
      cases stepped
      refine ⟨?_, guarded.sessions⟩
      intro other found isStored
      rcases Machine.update_cases isStored with ⟨-, new⟩ | ⟨-, old⟩
      · cases new
      · exact guarded.stored other found old

/-- However the sessions interleave, a property of all created records holds of every
stored record when what is planned keeps it wherever it can land. -/
theorem guarded_of_run {labels : List (Label Key Task Creation)}
    (guarded : Guarded protocol holds system)
    (admits : Machine.Along (step protocol) (AdmitsTagged protocol holds) system labels)
    (runs : Machine.run (step protocol) system labels = some next) :
    Guarded protocol holds next :=
  Machine.invariant_of_run (Guarded protocol holds)
    (fun _ _ _ holding allowed stepped => step_guarded holding allowed stepped)
    guarded admits runs

end TransactionService.SharedStore
