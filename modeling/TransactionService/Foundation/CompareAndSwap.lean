import TransactionService.Foundation.Machine

namespace TransactionService.CompareAndSwap

/-! # Writers guarded by a tag on a shared record

A writer captures the tag of the record it loads. Each of its later updates
applies only while the record still carries that tag. -/

variable {Record : Type u} {Tag : Type v} {Job : Type w}

/-- What is left of a writer: the tag it captured and the updates it is still
going to commit, in order. -/
structure Writer (Record : Type u) (Tag : Type v) where
  expected : Tag
  updates : List (Record → Record)

/-- The tag of a record, and what a job decides to do with a record it loads. -/
structure Protocol (Record : Type u) (Tag : Type v) (Job : Type w) where
  tag : Record → Option Tag
  plan : Job → Record → Option (Writer Record Tag)

/-! ## Commits as single steps -/

structure System (Record : Type u) (Tag : Type v) where
  record : Record
  inFlight : Nat → Option (Writer Record Tag)

/-- A writer is abandoned when it fails between two of its updates. -/
inductive Label (Job : Type w)
  | load (thread : Nat) (job : Job)
  | commit (thread : Nat)
  | abandon (thread : Nat)

def start (record : Record) : System Record Tag where
  record := record
  inFlight := fun _ => none

def swap [DecidableEq Tag] (tag : Record → Option Tag) (expected : Tag)
    (update : Record → Record) (record : Record) : Record :=
  if tag record = some expected then update record else record

def remaining (expected : Tag) : List (Record → Record) → Option (Writer Record Tag)
  | [] => none
  | updates => some ⟨expected, updates⟩

def step [DecidableEq Tag] (protocol : Protocol Record Tag Job)
    (system : System Record Tag) : Label Job → Option (System Record Tag)
  | .load thread job =>
      match system.inFlight thread with
      | some _ => none
      | none => some { system with
          inFlight := Function.update system.inFlight thread
            (protocol.plan job system.record) }
  | .commit thread =>
      match system.inFlight thread with
      | none => none
      | some ⟨_, []⟩ => none
      | some ⟨expected, update :: rest⟩ => some {
          record := swap protocol.tag expected update system.record
          inFlight := Function.update system.inFlight thread (remaining expected rest) }
  | .abandon thread => some { system with
      inFlight := Function.update system.inFlight thread none }

section Atomic

variable [DecidableEq Tag] {protocol : Protocol Record Tag Job}

theorem step_load {system next : System Record Tag} {thread : Nat} {job : Job}
    (stepped : step protocol system (.load thread job) = some next) :
    next = { system with
      inFlight := Function.update system.inFlight thread
        (protocol.plan job system.record) } := by
  simp only [step] at stepped
  split at stepped
  · cases stepped
  · exact (Option.some.inj stepped).symm

theorem step_commit {system next : System Record Tag} {thread : Nat}
    (stepped : step protocol system (.commit thread) = some next) :
    ∃ expected update rest,
      system.inFlight thread = some ⟨expected, update :: rest⟩ ∧
      next = {
        record := swap protocol.tag expected update system.record
        inFlight := Function.update system.inFlight thread (remaining expected rest) } := by
  simp only [step] at stepped
  split at stepped
  · cases stepped
  · cases stepped
  · exact ⟨_, _, _, ‹_›, (Option.some.inj stepped).symm⟩

def OnlyLast (terminal : Record → Prop) : List (Record → Record) → Prop
  | [] => True
  | [_] => True
  | update :: next :: rest =>
      (∀ record, ¬ terminal (update record)) ∧ OnlyLast terminal (next :: rest)

/-- Only the last update of a writer can make the record terminal, and an
update that does so keeps the captured tag. -/
structure Disciplined (tag : Record → Option Tag) (terminal : Record → Prop)
    (writer : Writer Record Tag) : Prop where
  onlyLast : OnlyLast terminal writer.updates
  keepsTag : ∀ update ∈ writer.updates, ∀ record, terminal (update record) →
    tag (update record) = some writer.expected

omit [DecidableEq Tag] in
theorem Disciplined.remaining {tag : Record → Option Tag} {terminal : Record → Prop}
    {expected : Tag} {update : Record → Record} {rest : List (Record → Record)}
    (disciplined : Disciplined tag terminal ⟨expected, update :: rest⟩)
    {writer : Writer Record Tag}
    (left : CompareAndSwap.remaining expected rest = some writer) :
    Disciplined tag terminal writer := by
  cases rest with
  | nil => cases left
  | cons next later =>
      cases left
      exact ⟨disciplined.onlyLast.2, fun other member =>
        disciplined.keepsTag other (List.mem_cons_of_mem _ member)⟩

omit [DecidableEq Tag] in
private theorem remaining_expected {expected : Tag} {rest : List (Record → Record)}
    {writer : Writer Record Tag} (left : remaining expected rest = some writer) :
    writer.expected = expected := by
  cases rest with
  | nil => cases left
  | cons => cases left; rfl

/-- A commit that is about to make the record terminal is made by the only
writer in flight that captured the current tag. -/
def FinishesAlone (protocol : Protocol Record Tag Job) (terminal : Record → Prop)
    (system : System Record Tag) : Label Job → Prop
  | .load _ _ => True
  | .abandon _ => True
  | .commit thread => ∀ expected update rest,
      system.inFlight thread = some ⟨expected, update :: rest⟩ →
      protocol.tag system.record = some expected →
      terminal (update system.record) →
      ∀ other writer, other ≠ thread → system.inFlight other = some writer →
        writer.expected ≠ expected

/-- Every writer in flight is disciplined, and none can still commit once the
record is terminal. -/
structure Settled (protocol : Protocol Record Tag Job) (terminal : Record → Prop)
    (system : System Record Tag) : Prop where
  disciplined : ∀ thread writer, system.inFlight thread = some writer →
    Disciplined protocol.tag terminal writer
  superseded : terminal system.record → ∀ thread writer,
    system.inFlight thread = some writer →
      protocol.tag system.record ≠ some writer.expected

omit [DecidableEq Tag] in
theorem start_settled (protocol : Protocol Record Tag Job) (terminal : Record → Prop)
    (record : Record) : Settled protocol terminal (start record) where
  disciplined _ _ found := nomatch found
  superseded _ _ _ found := nomatch found

section

variable {terminal : Record → Prop} {system : System Record Tag}

omit [DecidableEq Tag] in
theorem Settled.load (settled : Settled protocol terminal system)
    (quiet : ∀ job record, terminal record → protocol.plan job record = none)
    (plans : ∀ job record writer, protocol.plan job record = some writer →
      Disciplined protocol.tag terminal writer)
    (thread : Nat) (job : Job) :
    Settled protocol terminal { system with
      inFlight := Function.update system.inFlight thread
        (protocol.plan job system.record) } where
  disciplined other writer found := by
    rcases Machine.update_cases found with ⟨-, planned⟩ | ⟨-, flying⟩
    · exact plans job system.record writer planned
    · exact settled.disciplined other writer flying
  superseded isTerminal other writer found := by
    rcases Machine.update_cases found with ⟨-, planned⟩ | ⟨-, flying⟩
    · rw [quiet job system.record isTerminal] at planned
      cases planned
    · exact settled.superseded isTerminal other writer flying

omit [DecidableEq Tag] in
theorem Settled.abandon (settled : Settled protocol terminal system) (thread : Nat) :
    Settled protocol terminal { system with
      inFlight := Function.update system.inFlight thread none } where
  disciplined other writer found := by
    rcases Machine.update_cases found with ⟨-, dropped⟩ | ⟨-, flying⟩
    · cases dropped
    · exact settled.disciplined other writer flying
  superseded isTerminal other writer found := by
    rcases Machine.update_cases found with ⟨-, dropped⟩ | ⟨-, flying⟩
    · cases dropped
    · exact settled.superseded isTerminal other writer flying

omit [DecidableEq Tag] in
private theorem Settled.disciplined_after (settled : Settled protocol terminal system)
    {thread : Nat} {expected : Tag} {update : Record → Record}
    {rest : List (Record → Record)}
    (flying : system.inFlight thread = some ⟨expected, update :: rest⟩)
    {other : Nat} {writer : Writer Record Tag}
    (found : Function.update system.inFlight thread (remaining expected rest) other =
      some writer) : Disciplined protocol.tag terminal writer := by
  rcases Machine.update_cases found with ⟨-, left⟩ | ⟨-, before⟩
  · exact (settled.disciplined thread _ flying).remaining left
  · exact settled.disciplined other writer before

theorem Settled.commit (settled : Settled protocol terminal system) {thread : Nat}
    {expected : Tag} {update : Record → Record} {rest : List (Record → Record)}
    (flying : system.inFlight thread = some ⟨expected, update :: rest⟩)
    (alone : FinishesAlone protocol terminal system (.commit thread)) :
    Settled protocol terminal {
      record := swap protocol.tag expected update system.record
      inFlight := Function.update system.inFlight thread (remaining expected rest) } where
  disciplined _ _ found := settled.disciplined_after flying found
  superseded isTerminal other writer found := by
    have mine := settled.disciplined thread _ flying
    by_cases matching : protocol.tag system.record = some expected
    · simp only [swap, if_pos matching] at isTerminal ⊢
      rw [mine.keepsTag update (List.mem_cons_self ..) _ isTerminal]
      rcases Machine.update_cases found with ⟨-, left⟩ | ⟨different, before⟩
      · cases rest with
        | nil => cases left
        | cons later more => exact absurd isTerminal (mine.onlyLast.1 _)
      · have apart := alone expected update rest flying matching isTerminal other writer
          different before
        exact fun equal => apart (Option.some.inj equal).symm
    · simp only [swap, if_neg matching] at isTerminal ⊢
      rcases Machine.update_cases found with ⟨-, left⟩ | ⟨-, before⟩
      · rw [remaining_expected left]
        exact matching
      · exact settled.superseded isTerminal other writer before

private theorem Settled.swap_eq (settled : Settled protocol terminal system) {thread : Nat}
    {expected : Tag} {update : Record → Record} {rest : List (Record → Record)}
    (flying : system.inFlight thread = some ⟨expected, update :: rest⟩)
    (isTerminal : terminal system.record) :
    swap protocol.tag expected update system.record = system.record := by
  have superseded := settled.superseded isTerminal thread _ flying
  exact if_neg superseded

end

/-- A step keeps `Settled`, and leaves a terminal record as it is. -/
theorem step_settled {terminal : Record → Prop}
    (quiet : ∀ job record, terminal record → protocol.plan job record = none)
    (plans : ∀ job record writer, protocol.plan job record = some writer →
      Disciplined protocol.tag terminal writer)
    {system next : System Record Tag} {label : Label Job}
    (settled : Settled protocol terminal system)
    (alone : FinishesAlone protocol terminal system label)
    (stepped : step protocol system label = some next) :
    Settled protocol terminal next ∧
      (terminal system.record → next.record = system.record) := by
  cases label with
  | load thread job =>
      rcases step_load stepped with rfl
      exact ⟨settled.load quiet plans thread job, fun _ => rfl⟩
  | abandon thread =>
      cases stepped
      exact ⟨settled.abandon thread, fun _ => rfl⟩
  | commit thread =>
      rcases step_commit stepped with ⟨expected, update, rest, flying, rfl⟩
      exact ⟨settled.commit flying alone, settled.swap_eq flying⟩

/-- A terminal record never changes again, however loads and commits
interleave, when every commit that makes the record terminal is made alone. -/
theorem terminal_absorbing {terminal : Record → Prop}
    (quiet : ∀ job record, terminal record → protocol.plan job record = none)
    (plans : ∀ job record writer, protocol.plan job record = some writer →
      Disciplined protocol.tag terminal writer)
    {initial : Record} {earlier later : List (Label Job)}
    {middle final : System Record Tag}
    (alone : Machine.Along (step protocol) (FinishesAlone protocol terminal)
      (start initial) (earlier ++ later))
    (reaches : Machine.run (step protocol) (start initial) earlier = some middle)
    (continues : Machine.run (step protocol) middle later = some final)
    (isTerminal : terminal middle.record) : final.record = middle.record := by
  have settled : Settled protocol terminal middle :=
    Machine.invariant_of_run _
      (fun _ _ _ holds allowed stepped =>
        (step_settled quiet plans holds allowed stepped).1)
      (start_settled protocol terminal initial) alone.left reaches
  refine Machine.relation_of_run (Settled protocol terminal)
    (fun before after => terminal before.record → after.record = before.record)
    (fun _ _ => rfl) ?_ ?_ settled (alone.right reaches) continues isTerminal
  · intro first second third left right firstTerminal
    have same := left firstTerminal
    rw [right (same ▸ firstTerminal), same]
  · intro system label next holds allowed stepped
    exact step_settled quiet plans holds allowed stepped

end Atomic

/-! ## The two halves of a commit as separate steps

Here every caller expects the same tag. Reading with the check, and writing,
are separate steps. -/

namespace Split

inductive Phase (Record : Type u)
  | waiting
  | checked (current : Record)
  | committed (written : Record)
  | stale
  | notFound
  | failed

structure System (Record : Type u) where
  stored : Option Record
  phase : Nat → Phase Record

inductive Label
  | read (caller : Nat)
  | write (caller : Nat) (accepted : Bool)

def start (stored : Option Record) : System Record where
  stored := stored
  phase := fun _ => .waiting

/-- What a caller that finds `stored` does next. -/
def check [DecidableEq Tag] (tag : Record → Option Tag) (expected : Tag) :
    Option Record → Phase Record
  | none => .notFound
  | some current => if tag current = some expected then .checked current else .stale

/-- `accepted` is what the store answers to the write. -/
def step [DecidableEq Tag] (tag : Record → Option Tag) (expected : Tag)
    (updates : Nat → Record → Record) (system : System Record) :
    Label → Option (System Record)
  | .read caller =>
      match system.phase caller with
      | .waiting => some { system with
          phase := Function.update system.phase caller
            (check tag expected system.stored) }
      | _ => none
  | .write caller accepted =>
      match system.phase caller with
      | .checked current =>
          if accepted then some {
            stored := some (updates caller current)
            phase := Function.update system.phase caller
              (.committed (updates caller current)) }
          else some { system with
            phase := Function.update system.phase caller .failed }
      | _ => none

structure Exclusive (system : System Record) : Prop where
  unique : ∀ first second left right,
    system.phase first = .committed left → system.phase second = .committed right →
      first = second
  stored : ∀ caller written, system.phase caller = .committed written →
    system.stored = some written

def LandsOnExpected (tag : Record → Option Tag) (expected : Tag)
    (system : System Record) : Label → Prop
  | .read _ => True
  | .write _ false => True
  | .write _ true => ∃ record, system.stored = some record ∧ tag record = some expected

section

variable [DecidableEq Tag] {tag : Record → Option Tag} {expected : Tag}
  {updates : Nat → Record → Record}

theorem step_read {system next : System Record} {caller : Nat}
    (stepped : step tag expected updates system (.read caller) = some next) :
    system.phase caller = .waiting ∧
      next = { system with
        phase := Function.update system.phase caller
          (check tag expected system.stored) } := by
  simp only [step] at stepped
  split at stepped
  · exact ⟨‹_›, (Option.some.inj stepped).symm⟩
  · cases stepped

theorem step_accepted {system next : System Record} {caller : Nat}
    (stepped : step tag expected updates system (.write caller true) = some next) :
    ∃ current, system.phase caller = .checked current ∧ next = {
      stored := some (updates caller current)
      phase := Function.update system.phase caller
        (.committed (updates caller current)) } := by
  simp only [step] at stepped
  split at stepped
  · exact ⟨_, ‹_›, (Option.some.inj stepped).symm⟩
  · cases stepped

theorem step_refused {system next : System Record} {caller : Nat}
    (stepped : step tag expected updates system (.write caller false) = some next) :
    (∃ current, system.phase caller = .checked current) ∧
      next = { system with phase := Function.update system.phase caller .failed } := by
  simp only [step] at stepped
  split at stepped
  · exact ⟨⟨_, ‹_›⟩, (Option.some.inj stepped).symm⟩
  · cases stepped

private theorem check_ne_committed (stored : Option Record) (written : Record) :
    check tag expected stored ≠ .committed written := by
  cases stored with
  | none => simp [check]
  | some current => by_cases matching : tag current = some expected <;> simp [check, matching]

theorem check_eq_checked {stored : Option Record} {current : Record}
    (checked : check tag expected stored = .checked current) :
    stored = some current ∧ tag current = some expected := by
  cases stored with
  | none => simp [check] at checked
  | some record =>
      by_cases matching : tag record = some expected
      · simp only [check, if_pos matching, Phase.checked.injEq] at checked
        exact ⟨congrArg some checked, checked ▸ matching⟩
      · simp [check, matching] at checked

theorem step_committed {system next : System Record} {label : Label}
    (stepped : step tag expected updates system label = some next)
    {caller : Nat} {written : Record}
    (committed : system.phase caller = .committed written) :
    next.phase caller = .committed written := by
  have untouched : ∀ other phase, system.phase other ≠ .committed written →
      Function.update system.phase other phase caller = .committed written := by
    intro other phase different
    have apart : caller ≠ other := fun same => different (same ▸ committed)
    rw [Function.update_of_ne apart, committed]
  cases label with
  | read other =>
      rcases step_read stepped with ⟨waiting, rfl⟩
      exact untouched other _ (by simp [waiting])
  | write other accepted =>
      cases accepted with
      | true =>
          rcases step_accepted stepped with ⟨current, checked, rfl⟩
          exact untouched other _ (by simp [checked])
      | false =>
          rcases step_refused stepped with ⟨⟨current, checked⟩, rfl⟩
          exact untouched other _ (by simp [checked])

theorem run_committed {system final : System Record} {labels : List Label}
    (runs : Machine.run (step tag expected updates) system labels = some final)
    {caller : Nat} {written : Record}
    (committed : system.phase caller = .committed written) :
    final.phase caller = .committed written := by
  induction labels generalizing system with
  | nil => cases runs; exact committed
  | cons label labels induction =>
      rcases Machine.run_cons runs with ⟨next, stepped, rest⟩
      exact induction rest (step_committed stepped committed)

/-- As long as nobody committed, whoever passed the check did so on the record
that is still stored. -/
def Unspent (tag : Record → Option Tag) (expected : Tag) (system : System Record) :
    Prop :=
  (∀ caller written, system.phase caller ≠ .committed written) →
    ∀ caller current, system.phase caller = .checked current →
      system.stored = some current ∧ tag current = some expected

theorem step_unspent {system next : System Record} {label : Label}
    (unspent : Unspent tag expected system)
    (stepped : step tag expected updates system label = some next) :
    Unspent tag expected next := by
  intro nobody
  have nobodyBefore : ∀ caller written, system.phase caller ≠ .committed written :=
    fun caller written committed =>
      nobody caller written (step_committed stepped committed)
  have before := unspent nobodyBefore
  intro caller current checked
  cases label with
  | read other =>
      rcases step_read stepped with ⟨_, rfl⟩
      rcases Machine.update_cases checked with ⟨-, new⟩ | ⟨-, old⟩
      · exact check_eq_checked new
      · exact before caller current old
  | write other accepted =>
      cases accepted with
      | true =>
          rcases step_accepted stepped with ⟨read, _, rfl⟩
          exact absurd (Function.update_self ..) (nobody other (updates other read))
      | false =>
          rcases step_refused stepped with ⟨_, rfl⟩
          rcases Machine.update_cases checked with ⟨-, new⟩ | ⟨-, old⟩
          · cases new
          · exact before caller current old

/-- What a run keeps when its accepted writes land on the expected tag: a
committed record is the stored one and carries another tag. -/
structure Spent (tag : Record → Option Tag) (expected : Tag)
    (system : System Record) : Prop where
  exclusive : Exclusive system
  retagged : ∀ caller written, system.phase caller = .committed written →
    tag written ≠ some expected
  matched : ∀ caller current, system.phase caller = .checked current →
    tag current = some expected

omit [DecidableEq Tag] in
/-- A caller may go on to any phase that is not `committed`. -/
theorem Spent.move {system : System Record} (spent : Spent tag expected system)
    (caller : Nat) {phase : Phase Record}
    (uncommitted : ∀ written, phase ≠ .committed written)
    (matching : ∀ current, phase = .checked current → tag current = some expected) :
    Spent tag expected { system with
      phase := Function.update system.phase caller phase } := by
  have before : ∀ other written,
      Function.update system.phase caller phase other = .committed written →
        system.phase other = .committed written := by
    intro other written committed
    rcases Machine.update_cases committed with ⟨-, new⟩ | ⟨-, old⟩
    · exact absurd new (uncommitted written)
    · exact old
  refine ⟨⟨?_, ?_⟩, ?_, ?_⟩
  · intro first second left right one two
    exact spent.exclusive.unique first second left right (before first left one)
      (before second right two)
  · intro other written committed
    exact spent.exclusive.stored other written (before other written committed)
  · intro other written committed
    exact spent.retagged other written (before other written committed)
  · intro other current checked
    rcases Machine.update_cases checked with ⟨-, new⟩ | ⟨-, old⟩
    · exact matching current new
    · exact spent.matched other current old

omit [DecidableEq Tag] in
theorem Spent.nobody {system : System Record} (spent : Spent tag expected system)
    {record : Record} (stored : system.stored = some record)
    (matching : tag record = some expected) (caller : Nat) (written : Record) :
    system.phase caller ≠ .committed written := by
  intro committed
  have same := spent.exclusive.stored caller written committed
  rw [stored] at same
  exact spent.retagged caller written committed (Option.some.inj same ▸ matching)

omit [DecidableEq Tag] in
theorem Spent.commit {system : System Record} (spent : Spent tag expected system)
    (nobody : ∀ caller written, system.phase caller ≠ .committed written)
    (caller : Nat) {written : Record} (retagged : tag written ≠ some expected) :
    Spent tag expected {
      stored := some written
      phase := Function.update system.phase caller (.committed written) } := by
  have only : ∀ other last,
      Function.update system.phase caller (.committed written) other = .committed last →
        other = caller ∧ last = written := by
    intro other last committed
    rcases Machine.update_cases committed with ⟨same, new⟩ | ⟨-, old⟩
    · exact ⟨same, (Phase.committed.inj new).symm⟩
    · exact absurd old (nobody other last)
  refine ⟨⟨?_, ?_⟩, ?_, ?_⟩
  · intro first second left right one two
    exact (only first left one).1.trans (only second right two).1.symm
  · intro other last committed
    exact congrArg some (only other last committed).2.symm
  · intro other last committed
    rw [(only other last committed).2]
    exact retagged
  · intro other current checked
    rcases Machine.update_cases checked with ⟨-, new⟩ | ⟨-, old⟩
    · cases new
    · exact spent.matched other current old

theorem step_spent
    (fresh : ∀ caller record, tag record = some expected →
      tag (updates caller record) ≠ some expected)
    {system next : System Record} {label : Label} (spent : Spent tag expected system)
    (lands : LandsOnExpected tag expected system label)
    (stepped : step tag expected updates system label = some next) :
    Spent tag expected next := by
  cases label with
  | read caller =>
      rcases step_read stepped with ⟨-, rfl⟩
      exact spent.move caller (check_ne_committed system.stored)
        (fun _ checked => (check_eq_checked checked).2)
  | write caller accepted =>
      cases accepted with
      | true =>
          rcases step_accepted stepped with ⟨current, checked, rfl⟩
          rcases lands with ⟨record, stored, matching⟩
          exact spent.commit (spent.nobody stored matching) caller
            (fresh caller current (spent.matched caller current checked))
      | false =>
          rcases step_refused stepped with ⟨-, rfl⟩
          exact spent.move caller (fun _ same => (nomatch same)) (fun _ same => (nomatch same))

omit [DecidableEq Tag] in
theorem start_spent (stored : Option Record) : Spent tag expected (start stored) where
  exclusive := ⟨fun _ _ _ _ committed => (nomatch committed),
    fun _ _ committed => (nomatch committed)⟩
  retagged _ _ committed := nomatch committed
  matched _ _ checked := nomatch checked

omit [DecidableEq Tag] in
theorem start_unspent (stored : Option Record) : Unspent tag expected (start stored) :=
  fun _ _ _ checked => nomatch checked

private theorem along_of_exclusive {system final : System Record} {labels : List Label}
    (unspent : Unspent tag expected system)
    (runs : Machine.run (step tag expected updates) system labels = some final)
    (exclusive : Exclusive final) :
    Machine.Along (step tag expected updates) (LandsOnExpected tag expected)
      system labels := by
  induction labels generalizing system with
  | nil => trivial
  | cons label labels induction =>
      rcases Machine.run_cons runs with ⟨next, stepped, rest⟩
      refine ⟨?_, fun other otherStepped => ?_⟩
      · cases label with
        | read caller => trivial
        | write caller accepted =>
            cases accepted with
            | false => trivial
            | true =>
                rcases step_accepted stepped with ⟨current, checked, rfl⟩
                by_cases nobody : ∀ earlier written,
                    system.phase earlier ≠ .committed written
                · rcases unspent nobody caller current checked with ⟨stored, matching⟩
                  exact ⟨current, stored, matching⟩
                · simp only [ne_eq, not_forall, not_not] at nobody
                  rcases nobody with ⟨earlier, written, committed⟩
                  have kept := run_committed rest (step_committed stepped committed)
                  have mine : final.phase caller =
                      .committed (updates caller current) :=
                    run_committed rest (Function.update_self ..)
                  have same := exclusive.unique earlier caller _ _ kept mine
                  rw [same, checked] at committed
                  cases committed
      · cases stepped.symm.trans otherStepped
        exact induction (step_unspent unspent stepped) rest

/-- Callers that all expect the same tag and each install another one end with
an exclusive outcome exactly when every accepted write landed on the expected
tag. -/
theorem exclusive_iff
    (fresh : ∀ caller record, tag record = some expected →
      tag (updates caller record) ≠ some expected)
    {stored : Option Record} {labels : List Label} {final : System Record}
    (runs : Machine.run (step tag expected updates) (start stored) labels =
      some final) :
    Exclusive final ↔
      Machine.Along (step tag expected updates) (LandsOnExpected tag expected)
        (start stored) labels := by
  constructor
  · exact along_of_exclusive (start_unspent stored) runs
  · intro along
    have spent : Spent tag expected final :=
      Machine.invariant_of_run _
        (fun _ _ _ holds lands stepped => step_spent fresh holds lands stepped)
        (start_spent stored) along runs
    exact spent.exclusive

end

end Split

end TransactionService.CompareAndSwap
