import TransactionService.World.Steps

namespace TransactionService.Finality

open World

/-! # Complete is final

What later steps may still do to an exchange that has been completed. -/

section

variable {runtime : Runtime} {config : Config}

/-- A completed exchange keeps its state and results until it is evicted. -/
def Final : Slot → Slot → Prop
  | .vacant, _ => True
  | .evicted, after => after = .evicted
  | .stored exchange, after =>
      exchange.state = .complete →
        after = .evicted ∨
          ∃ kept, after = .stored kept ∧ kept.state = .complete ∧
            kept.results = exchange.results

theorem final_refl (slot : Slot) : Final slot slot := by
  cases slot with
  | vacant => trivial
  | evicted => rfl
  | stored exchange => exact fun complete => .inr ⟨exchange, rfl, complete, rfl⟩

theorem final_trans {first second third : Slot} (before : Final first second)
    (after : Final second third) : Final first third := by
  cases first with
  | vacant => trivial
  | evicted =>
      cases before
      exact after
  | stored exchange =>
      intro complete
      rcases before complete with rfl | ⟨kept, rfl, stillComplete, results⟩
      · exact .inl after
      · rcases after stillComplete with evicted | ⟨last, isLast, lastComplete, same⟩
        · exact .inl evicted
        · exact .inr ⟨last, isLast, lastComplete, same.trans results⟩

def Settled (slot : Slot) : Prop :=
  ∀ detail task, slot = .stored (.verify detail) → detail.state = .complete →
    detail.vars.verifyTask = some task → task.status.isTerminal = true

/-- Only a settled task may be left behind by a submission that completes the
exchange. -/
def LeftSettled (working : ExchangeDetailVerify) (result : PresentationVerificationResult)
    (task : VerifyTask) : Prop :=
  Outcome.Acceptable working result → task.status.isTerminal = true

/-! ## One step -/

theorem settled_of_not_complete {detail : ExchangeDetailVerify}
    (ongoing : detail.state ≠ .complete) : Settled (.stored (.verify detail)) := by
  intro other task same complete
  cases same
  exact absurd complete ongoing

theorem settled_of_terminal {detail : ExchangeDetailVerify} {task : VerifyTask}
    (hasTask : detail.vars.verifyTask = some task)
    (terminal : task.status.isTerminal = true) : Settled (.stored (.verify detail)) := by
  intro other last same _ isLast
  cases same
  cases hasTask.symm.trans isLast
  exact terminal

private theorem change_settled {world : World} {exchangeId workflowId : String}
    {endpoint : Endpoint} {answers : Answers} {before after : Exchange}
    (leaves : LeavesTask runtime config LeftSettled world
      (.request exchangeId workflowId endpoint answers))
    (found : world.slots exchangeId = .stored before)
    (addressed : endpoint.takesPresentation = true → before.workflowId.text = workflowId)
    (change : Change runtime config answers endpoint before after)
    (settled : Settled (.stored before)) : Settled (.stored after) := by
  cases before with
  | verify detail =>
      rcases change_verify change with ⟨next, rfl, changed⟩
      cases changed with
      | activated pending => exact settled_of_not_complete (by simp)
      | rebound state =>
          intro other task same complete hasTask
          cases same
          exact settled detail task rfl complete hasTask
      | untouched => exact settled
      | retried active hasTask pending again =>
          apply settled_of_not_complete
          change detail.state ≠ .complete
          simp [active]
      | gaveUp active hasTask pending => exact settled_of_terminal rfl rfl
      | finalized same atOnce applied =>
          intro other task isStored complete hasTask
          cases isStored
          rcases Outcome.applyVerificationResults_state applied with
            ⟨-, acceptable⟩ | ⟨invalid, -⟩
          · exact finalized_leaves leaves found addressed same atOnce applied hasTask
              acceptable
          · cases complete.symm.trans invalid
      | queued same applied =>
          rcases withSyncResults_ok config answers applied with ⟨finalized, -, rfl⟩
          apply settled_of_not_complete
          change ExchangeState.active ≠ .complete
          decide
  | didAuth detail =>
      intro other task same
      have workflow := change_workflowId change
      rw [Slot.stored.inj same] at workflow
      cases workflow
  | claim detail =>
      intro other task same
      have workflow := change_workflowId change
      rw [Slot.stored.inj same] at workflow
      cases workflow

private theorem worker_settled {answers : Answers} {detail : ExchangeDetailVerify}
    {task : VerifyTask} {after : Exchange} (ongoing : detail.state ≠ .complete)
    (stores : WorkerStores runtime config answers detail task after) :
    Settled (.stored after) := by
  cases stores with
  | running => exact settled_of_not_complete ongoing
  | failed message => exact settled_of_not_complete ongoing
  | settled hasResults passed => exact settled_of_terminal rfl rfl

theorem slotStep_final {world : World} {event : Event} {exchangeId : String} {slot : Slot}
    (leaves : LeavesTask runtime config LeftSettled world event)
    (settled : Settled (world.slots exchangeId))
    (stepped : SlotStep runtime config event exchangeId (world.slots exchangeId) slot) :
    Settled slot ∧ Final (world.slots exchangeId) slot := by
  generalize found : world.slots exchangeId = before at stepped settled
  cases stepped with
  | unchanged => exact ⟨settled, final_refl _⟩
  | created isOwn =>
      refine ⟨?_, trivial⟩
      intro detail task same complete
      have pending := congrArg Exchange.state (Slot.stored.inj same)
      rw [createExchange_state] at pending
      cases pending.trans complete
  | evicted => exact ⟨fun _ _ same => (nomatch same), fun _ => .inl rfl⟩
  | changed isRequest addressed change =>
      subst isRequest
      refine ⟨change_settled leaves found addressed change settled, fun complete => ?_⟩
      rcases change.complete_kept complete with ⟨stillComplete, results⟩
      exact .inr ⟨_, rfl, stillComplete, results⟩
  | worked isWork hasTask unsettled stores =>
      -- the worker only looks at unsettled tasks, and a completed exchange has none
      have ongoing : _ ≠ ExchangeState.complete := fun complete => by
        rw [settled _ _ rfl complete hasTask] at unsettled
        cases unsettled
      exact ⟨worker_settled ongoing stores, fun complete => absurd complete ongoing⟩

/-! ## Runs -/

theorem settled_of_run {events : List Event} {final : World}
    (along : Machine.Along (step runtime config) (LeavesTask runtime config LeftSettled)
      start events)
    (runs : Machine.run (step runtime config) start events = some final) :
    EverySlot Settled final :=
  everySlot_of_run (fun _ _ same => (nomatch same))
    (fun _ _ _ _ leaves settled stepped => (slotStep_final leaves settled stepped).1)
    along runs

/-- In every run in which no acceptable submission is finalized over an unsettled
task, a completed exchange is never changed again. -/
theorem complete_is_final {earlier later : List Event} {middle final : World}
    (along : Machine.Along (step runtime config) (LeavesTask runtime config LeftSettled)
      start (earlier ++ later))
    (reaches : Machine.run (step runtime config) start earlier = some middle)
    (continues : Machine.run (step runtime config) middle later = some final)
    (exchangeId : String) :
    Final (middle.slots exchangeId) (final.slots exchangeId) :=
  slots_related_of_run Final final_refl final_trans
    (fun _ _ _ _ leaves settled stepped => slotStep_final leaves settled stepped)
    (settled_of_run along.left reaches) (along.right reaches) continues exchangeId

end

/-! ## A submission over a queued task -/

def badgeRuntime : Runtime :=
  { Runtime.plain with
    isOpenBadgeCredential := fun credential =>
      ((credential.bind (·.field "type")).toList.flatMap Json.arrayOf).any fun type =>
        type.asString? = some "OpenBadgeCredential" }

def badge : Json :=
  .obj [
    ("@context", .arr [.str "https://www.w3.org/2018/credentials/v1"]),
    ("type", .arr [.str "VerifiableCredential", .str "OpenBadgeCredential"]),
    ("issuer", .str "did:example:issuer"),
    ("credentialSubject", .obj [])]

def verifiedResult (credential : Json) : PresentationVerificationResult where
  verified := true
  presentationResults := []
  credentialResults := [
    { verified := true, verifiableCredential := some credential, results := [] }]

/-- The verifier accepts every presentation of the credential; `openBadges` is its
verdict in the Open Badges pass. -/
def answersFor (minted : String) (credential : Json) (openBadges : Bool) : Answers where
  clock _ := 0
  randomUUID number := if number = 0 then minted else "challenge-1"
  randomBytes := "random"
  verifyPresentation _ := .ok (verifiedResult credential)
  verifyCredential _ call := .ok {
    verified := openBadges
    verifiableCredential := some call.credential
    results := [] }
  callService _ _ := none
  accepted _ := true

def createVerify : Event :=
  .create
    (.verify {
      exchangeHost := "http://localhost:4004"
      vprContext := []
      vprCredentialType := ["VerifiableCredential"]
      vprClaims := [] })
    (answersFor "exchange-1" badge true)

def submit (credential : Json) : Event :=
  .request "exchange-1" "verify" (.participate (presentationWith credential))
    (answersFor "attempt-1" credential true)

/-- The badge is settled before anything else is submitted. -/
theorem complete_is_final_in_turn :
    ∃ middle final,
      Machine.run (step badgeRuntime {}) start
        [createVerify, submit badge, .work (answersFor "unused" badge true)] =
          some middle ∧
      Machine.run (step badgeRuntime {}) middle [submit sampleCredential] = some final ∧
      (∃ exchange, middle.slots "exchange-1" = .stored exchange ∧
        exchange.state = .complete) ∧
      Final (middle.slots "exchange-1") (final.slots "exchange-1") := by
  have ran : ∃ middle, Machine.run (step badgeRuntime {}) start
      [createVerify, submit badge, .work (answersFor "unused" badge true)] =
        some middle ∧
      (∃ exchange, middle.slots "exchange-1" = .stored exchange ∧
        exchange.state = .complete) ∧
      ∃ final, Machine.run (step badgeRuntime {}) middle [submit sampleCredential] =
        some final :=
    ⟨_, rfl, ⟨_, rfl, rfl⟩, _, rfl⟩
  rcases ran with ⟨middle, reaches, complete, final, continues⟩
  refine ⟨middle, final, reaches, continues, complete,
    complete_is_final ?_ reaches continues _⟩
  refine ⟨leavesTask_of_isUnburdened rfl, fun _ first => ?_⟩
  cases first
  refine ⟨leavesTask_of_isUnburdened rfl, fun _ second => ?_⟩
  cases second
  refine ⟨leavesTask_of_isUnburdened rfl, fun _ third => ?_⟩
  cases third
  exact ⟨leavesTask_of_isUnburdened rfl, fun _ _ => trivial⟩

theorem completed_exchange_invalidated :
    ∃ middle final,
      Machine.run (step badgeRuntime {}) start
        [createVerify, submit badge, submit sampleCredential] = some middle ∧
      Machine.run (step badgeRuntime {}) middle [.work (answersFor "unused" badge false)] =
        some final ∧
      ¬ Final (middle.slots "exchange-1") (final.slots "exchange-1") := by
  refine ⟨_, _, rfl, rfl, fun isFinal => ?_⟩
  rcases isFinal rfl with evicted | ⟨kept, isKept, complete, -⟩
  · cases evicted
  · cases isKept
    cases complete

end TransactionService.Finality
