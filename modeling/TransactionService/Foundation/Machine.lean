import Mathlib.Logic.Function.Basic

namespace TransactionService.Machine

/-! # Runs of a labelled machine

A machine is a partial step function: the label carries everything the outside
world decides. The rules here reduce a statement about runs to one about
steps. -/

variable {State : Type u} {Label : Type v}

/-- Take the steps in order; `none` when one of them is not enabled. -/
def run (step : State → Label → Option State) : State → List Label → Option State
  | state, [] => some state
  | state, label :: labels => (step state label).bind fun next => run step next labels

/-- Every step of the run meets `allowed` in the state it is taken from. -/
def Along (step : State → Label → Option State) (allowed : State → Label → Prop) :
    State → List Label → Prop
  | _, [] => True
  | state, label :: labels =>
      allowed state label ∧
        ∀ next, step state label = some next → Along step allowed next labels

theorem update_cases {Place : Type u} {Value : Type v} [DecidableEq Place]
    {function : Place → Value} {place other : Place} {value found : Value}
    (finds : Function.update function place value other = found) :
    (other = place ∧ value = found) ∨ (other ≠ place ∧ function other = found) := by
  by_cases same : other = place
  · rw [same, Function.update_self] at finds
    exact .inl ⟨same, finds⟩
  · rw [Function.update_of_ne same] at finds
    exact .inr ⟨same, finds⟩

variable {step : State → Label → Option State} {allowed : State → Label → Prop}

theorem run_cons {state final : State} {label : Label} {labels : List Label}
    (runs : run step state (label :: labels) = some final) :
    ∃ next, step state label = some next ∧ run step next labels = some final :=
  Option.bind_eq_some_iff.mp runs

theorem run_concat {state middle final : State} {labels : List Label} {label : Label}
    (runs : run step state labels = some middle) (stepped : step middle label = some final) :
    run step state (labels ++ [label]) = some final := by
  induction labels generalizing state with
  | nil =>
      cases runs
      exact Option.bind_eq_some_iff.mpr ⟨final, stepped, rfl⟩
  | cons first rest induction =>
      rcases run_cons runs with ⟨next, moved, continued⟩
      exact Option.bind_eq_some_iff.mpr ⟨next, moved, induction continued⟩

theorem run_append {state middle final : State} {first second : List Label}
    (runs : run step state first = some middle)
    (continues : run step middle second = some final) :
    run step state (first ++ second) = some final := by
  induction first generalizing state with
  | nil =>
      cases runs
      exact continues
  | cons label rest induction =>
      rcases run_cons runs with ⟨next, stepped, later⟩
      exact Option.bind_eq_some_iff.mpr ⟨next, stepped, induction later⟩

theorem along_of_forall_mem {labels : List Label}
    (always : ∀ label ∈ labels, ∀ state, allowed state label) (state : State) :
    Along step allowed state labels := by
  induction labels generalizing state with
  | nil => trivial
  | cons label labels induction =>
      refine ⟨always label (List.mem_cons_self ..) state, fun next _ => ?_⟩
      exact induction (fun other member => always other (List.mem_cons_of_mem _ member)) next

theorem Along.and {other : State → Label → Prop} :
    ∀ {state : State} {labels : List Label},
      Along step allowed state labels → Along step other state labels →
      Along step (fun state label => allowed state label ∧ other state label)
        state labels
  | _, [], _, _ => trivial
  | _, _ :: _, left, right =>
      ⟨⟨left.1, right.1⟩, fun next stepped =>
        (left.2 next stepped).and (right.2 next stepped)⟩

theorem Along.mono {other : State → Label → Prop}
    (implies : ∀ state label, allowed state label → other state label) :
    ∀ {state : State} {labels : List Label},
      Along step allowed state labels → Along step other state labels
  | _, [], _ => trivial
  | _, _ :: _, along =>
      ⟨implies _ _ along.1, fun next stepped => (along.2 next stepped).mono implies⟩

theorem Along.left {state : State} {first second : List Label}
    (along : Along step allowed state (first ++ second)) :
    Along step allowed state first := by
  induction first generalizing state with
  | nil => trivial
  | cons label labels induction =>
      exact ⟨along.1, fun next stepped => induction (along.2 next stepped)⟩

theorem Along.right {state middle : State} {first second : List Label}
    (along : Along step allowed state (first ++ second))
    (reaches : run step state first = some middle) :
    Along step allowed middle second := by
  induction first generalizing state with
  | nil =>
      cases reaches
      exact along
  | cons label labels induction =>
      rcases run_cons reaches with ⟨next, stepped, rest⟩
      exact induction (along.2 next stepped) rest

theorem Along.of_mem {holds : Label → Prop} {state final : State} {labels : List Label}
    {label : Label} (along : Along step (fun _ label => holds label) state labels)
    (runs : run step state labels = some final) (member : label ∈ labels) : holds label := by
  induction labels generalizing state with
  | nil => cases member
  | cons first rest induction =>
      rcases run_cons runs with ⟨next, stepped, later⟩
      rcases List.mem_cons.mp member with rfl | member
      · exact along.1
      · exact induction (along.2 next stepped) later member

/-- A property that every allowed step keeps holds at the end of every run. -/
theorem invariant_of_run (holds : State → Prop)
    (keeps : ∀ state label next, holds state → allowed state label →
      step state label = some next → holds next)
    {state final : State} {labels : List Label} (initially : holds state)
    (along : Along step allowed state labels)
    (runs : run step state labels = some final) : holds final := by
  induction labels generalizing state with
  | nil =>
      cases runs
      exact initially
  | cons label labels induction =>
      rcases run_cons runs with ⟨next, stepped, rest⟩
      exact induction (keeps state label next initially along.1 stepped)
        (along.2 next stepped) rest

/-- A relation that is reflexive, transitive and respected by every allowed
step of a state meeting the invariant relates the ends of every run. -/
theorem relation_of_run (holds : State → Prop) (relates : State → State → Prop)
    (reflexive : ∀ state, relates state state)
    (transitive : ∀ {first second third}, relates first second →
      relates second third → relates first third)
    (keeps : ∀ state label next, holds state → allowed state label →
      step state label = some next → holds next ∧ relates state next)
    {state final : State} {labels : List Label} (initially : holds state)
    (along : Along step allowed state labels)
    (runs : run step state labels = some final) : relates state final := by
  induction labels generalizing state with
  | nil =>
      cases runs
      exact reflexive _
  | cons label labels induction =>
      rcases run_cons runs with ⟨next, stepped, rest⟩
      rcases keeps state label next initially along.1 stepped with ⟨nextHolds, related⟩
      exact transitive related (induction nextHolds (along.2 next stepped) rest)

/-! ## Runs that use work up -/

section

variable {holds : State → Prop} {internal : Label → Prop} {work : State → Nat}

def UsesUp (step : State → Label → Option State) (holds : State → Prop)
    (internal : Label → Prop) (work : State → Nat) : Prop :=
  ∀ state label next, holds state → internal label → step state label = some next →
    holds next ∧ work next < work state

def Stuck (step : State → Label → Option State) (internal : Label → Prop)
    (state : State) : Prop :=
  ∀ label, internal label → step state label = none

theorem UsesUp.run (uses : UsesUp step holds internal work) {state final : State}
    {labels : List Label} (initially : holds state)
    (internals : ∀ label ∈ labels, internal label)
    (runs : Machine.run step state labels = some final) :
    holds final ∧ work final + labels.length ≤ work state := by
  induction labels generalizing state with
  | nil =>
      cases runs
      exact ⟨initially, Nat.le_refl _⟩
  | cons label labels induction =>
      rcases run_cons runs with ⟨next, stepped, rest⟩
      rcases uses state label next initially (internals label List.mem_cons_self) stepped with
        ⟨nextHolds, less⟩
      rcases induction nextHolds
        (fun other member => internals other (List.mem_cons_of_mem _ member)) rest with
        ⟨finalHolds, bound⟩
      refine ⟨finalHolds, ?_⟩
      rw [List.length_cons]
      omega

/-- Left alone, the machine gets stuck. By induction on the work that is left. -/
theorem UsesUp.exists_stuck (uses : UsesUp step holds internal work) {state : State}
    (initially : holds state) :
    ∃ labels final, (∀ label ∈ labels, internal label) ∧
      Machine.run step state labels = some final ∧ Stuck step internal final := by
  generalize isLeft : work state = left
  induction left using Nat.strongRecOn generalizing state with
  | _ left induction =>
      by_cases stuck : Stuck step internal state
      · exact ⟨[], state, fun _ member => (nomatch member), rfl, stuck⟩
      · rcases Classical.not_forall.mp stuck with ⟨label, moves⟩
        rcases Classical.not_imp.mp moves with ⟨isInternal, enabled⟩
        rcases Option.ne_none_iff_exists'.mp enabled with ⟨next, stepped⟩
        rcases uses state label next initially isInternal stepped with ⟨nextHolds, less⟩
        rcases induction (work next) (isLeft ▸ less) nextHolds rfl with
          ⟨labels, final, internals, runs, isStuck⟩
        refine ⟨label :: labels, final, ?_, ?_, isStuck⟩
        · intro other member
          rcases List.mem_cons.mp member with rfl | later
          · exact isInternal
          · exact internals other later
        · exact Option.bind_eq_some_iff.mpr ⟨next, stepped, runs⟩

end

theorem along_congr {condition other : State → Label → Prop} (holds : State → Prop)
    (keeps : ∀ state label next, holds state → allowed state label →
      step state label = some next → holds next)
    (same : ∀ state label, holds state → (condition state label ↔ other state label))
    {state : State} {labels : List Label} (initially : holds state)
    (along : Along step allowed state labels) :
    Along step condition state labels ↔ Along step other state labels := by
  induction labels generalizing state with
  | nil => exact Iff.rfl
  | cons label labels induction =>
      apply and_congr (same state label initially)
      apply forall_congr'
      intro next
      apply imp_congr_right
      intro stepped
      exact induction (keeps state label next initially along.1 stepped)
        (along.2 next stepped)

/-- Names that are drawn at most once can be given their values one step after
the other. -/
theorem exists_assignment {Name : Type w} {Value : Type x} [DecidableEq Name]
    [Nonempty Value] (step : State → Label → Option State) (name : Label → Option Name)
    (good : State → Label → Value → Prop)
    (available : ∀ state label, ∃ value, good state label value) (state : State)
    (labels : List Label) (distinct : (labels.filterMap name).Nodup) :
    ∃ assignment : Name → Value,
      Along step (fun state label => ∀ drawn, name label = some drawn →
        good state label (assignment drawn)) state labels := by
  induction labels generalizing state with
  | nil => exact ⟨fun _ => Classical.arbitrary Value, trivial⟩
  | cons label labels induction =>
      have later : ∃ assignment : Name → Value, ∀ next, step state label = some next →
          Along step (fun state label => ∀ drawn, name label = some drawn →
            good state label (assignment drawn)) next labels := by
        have tail : (labels.filterMap name).Nodup := by
          cases named : name label with
          | none => simpa [named] using distinct
          | some drawn =>
              rw [List.filterMap_cons_some named] at distinct
              exact (List.nodup_cons.mp distinct).2
        cases moved : step state label with
        | none => exact ⟨fun _ => Classical.arbitrary Value, fun _ stuck => (nomatch stuck)⟩
        | some next =>
            rcases induction next tail with ⟨assignment, along⟩
            refine ⟨assignment, ?_⟩
            intro other same
            cases same
            exact along
      rcases later with ⟨assignment, rest⟩
      cases named : name label with
      | none =>
          refine ⟨assignment, ?_, rest⟩
          intro drawn impossible
          rw [named] at impossible
          cases impossible
      | some drawn =>
          rcases available state label with ⟨value, isGood⟩
          rw [List.filterMap_cons_some named] at distinct
          have fresh := (List.nodup_cons.mp distinct).1
          refine ⟨Function.update assignment drawn value, ?_, ?_⟩
          · intro other same
            cases named.symm.trans same
            rw [Function.update_self]
            exact isGood
          · intro next stepped
            have apart : Along step (fun _ label => name label ≠ some drawn) next labels := by
              apply along_of_forall_mem
              intro other member _ same
              exact fresh (List.mem_filterMap.mpr ⟨other, member, same⟩)
            apply ((rest next stepped).and apart).mono
            intro middle other both found isFound
            have different : found ≠ drawn := fun same => both.2 (same ▸ isFound)
            rw [Function.update_of_ne different]
            exact both.1 found isFound

end TransactionService.Machine
