import TransactionService.Foundation.SharedStore
import TransactionService.Routes.Identity
import TransactionService.Routes.SingleUse

namespace TransactionService.Sessions

open SharedStore SingleUse

/-! # The whole store under interleaving

Requests and worker runs as sessions: what they load, and what they write from
it while others run. -/

inductive Task
  | request (request : StoreRequest)
  | work (answers : Answers)

structure Creation where
  data : CreateData
  answers : Answers

abbrev ExchangeWrite := Write String Exchange String
abbrev ExchangeSession := Session String Exchange String Task
abbrev ExchangeSystem := SharedStore.System String Exchange String Task
abbrev ExchangeLabel := SharedStore.Label String Task Creation

section

variable (runtime : Runtime) (config : Config)

/-- The guarded write of a sweep: the record it made from the loaded one, over
the attempt it saw. -/
def sweepWrites (answers : Answers) (loaded : Exchange) : List ExchangeWrite :=
  match planSweep config answers loaded with
  | none => []
  | some plan =>
      [.guarded loaded.exchangeId plan.expectedAttemptId fun _ => .verify plan.next]

def workerWrites (answers : Answers) (exchangeId : String) (loaded : Exchange) :
    List ExchangeWrite :=
  match planWorker runtime config answers (some loaded) with
  | .error _ => []
  | .ok plan => [
      .guarded exchangeId plan.expectedAttemptId plan.running,
      .guarded exchangeId plan.expectedAttemptId plan.final]

/-- All requests but the sweeping reads write the record back plainly. -/
def requestWrites (request : StoreRequest) (loaded : Exchange) : List ExchangeWrite :=
  match written runtime config request loaded with
  | none => []
  | some record =>
      if request.endpoint.sweeps then sweepWrites config request.answers loaded
      else [.put record]

def writes : Task → String → Exchange → List ExchangeWrite
  | .request request, _, loaded => requestWrites runtime config request loaded
  | .work answers, exchangeId, loaded => workerWrites runtime config answers exchangeId loaded

def exchangeProtocol : SharedStore.Protocol String Exchange String Task Creation where
  keyOf := Exchange.exchangeId
  tag := readVerifyTaskAttemptId
  make creation := createExchange config creation.answers creation.data
  plan := writes runtime config

def sessionStep : ExchangeSystem → ExchangeLabel → Option ExchangeSystem :=
  SharedStore.step (exchangeProtocol runtime config)

/-! ## Sessions that nothing interrupts -/

def landed (stored : Exchange) (planned : List ExchangeWrite) : Exchange :=
  planned.foldl (fun current next => match next with
    | .put record => record
    | .guarded _ expected update =>
        if readVerifyTaskAttemptId current = some expected then update current
        else current) stored

variable {runtime config}

theorem sweepWrites_eq {answers : Answers} {loaded : Exchange} {plan : SweepPlan}
    (planned : planSweep config answers loaded = some plan) :
    sweepWrites config answers loaded =
      [.guarded loaded.exchangeId plan.expectedAttemptId fun _ => .verify plan.next] := by
  rw [sweepWrites, planned]

/-- A request that is alone stores what it writes. -/
theorem request_alone (request : StoreRequest) (loaded : Exchange) :
    landed loaded (requestWrites runtime config request loaded) =
      (written runtime config request loaded).getD loaded := by
  cases saved : written runtime config request loaded with
  | none => simp [requestWrites, saved, landed]
  | some record =>
      cases sweeps : request.endpoint.sweeps with
      | false => simp [requestWrites, saved, sweeps, landed]
      | true =>
          rcases serve_swept sweeps saved with ⟨exchange, plan, found, planned, rfl⟩
          cases found
          have attempt : readVerifyTaskAttemptId loaded = some plan.expectedAttemptId := by
            rcases planSweep_eq_some config request.answers planned with
              ⟨exchange, task, rfl, -, hasTask, -, -, ⟨-, rfl⟩ | ⟨-, rfl⟩⟩
            · exact readVerifyTaskAttemptId_verify hasTask
            · exact readVerifyTaskAttemptId_verify hasTask
          simp [requestWrites, saved, sweeps, sweepWrites_eq planned, landed, attempt]

/-- A worker run that is alone stores what it writes. -/
theorem work_alone {answers : Answers} (exchangeId : String) (loaded : Exchange)
    (accepts : ∀ write, answers.accepted write = true) :
    landed loaded (workerWrites runtime config answers exchangeId loaded) =
      (processVerifyTask runtime config answers (some loaded)).saved.getD loaded := by
  cases planned : planWorker runtime config answers (some loaded) with
  | error outcome => simp [workerWrites, processVerifyTask, planned, landed]
  | ok plan =>
      rcases (planWorker_eq_ok runtime config answers).mp planned with
        ⟨exchange, task, found, hasTask, unsettled, rfl⟩
      cases found
      have attempt := readVerifyTaskAttemptId_verify hasTask
      have kept : readVerifyTaskAttemptId
          (.verify (runningExchange answers exchange task)) = some task.attemptId := rfl
      rw [processVerifyTask_eq runtime config answers hasTask unsettled]
      simp [workerWrites, planned, landed, accepts,
        planFor_expectedAttemptId, planFor_running, attempt, kept]

end

end TransactionService.Sessions
