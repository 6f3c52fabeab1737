import Mathlib.Logic.Function.Basic
import TransactionService.Foundation.Machine
import TransactionService.Routes

namespace TransactionService

/-! # The service as a machine

Requests and worker runs that are each carried out to completion before the
next one starts. -/

/-- What the store holds under one exchange id. An id that has been used is
never handed out again. -/
inductive Slot
  | vacant
  | stored (exchange : Exchange)
  | evicted

def Slot.record : Slot → Option Exchange
  | .stored exchange => some exchange
  | _ => none

/-- The store, and the ids waiting for the worker, next one first. -/
structure World where
  slots : String → Slot
  queue : List String

inductive Event
  | create (data : CreateData) (answers : Answers)
  | expire (exchangeId : String)
  | request (exchangeId workflowId : String) (endpoint : Endpoint) (answers : Answers)
  | work (answers : Answers)

namespace World

def start : World where
  slots _ := .vacant
  queue := []

def write (world : World) (saved : Option Exchange) : World :=
  match saved with
  | none => world
  | some exchange => { world with
      slots := Function.update world.slots exchange.exchangeId (.stored exchange) }

def enqueuedIds (calls : List Call) : List String :=
  calls.filterMap fun call => match call with
    | .enqueueVerifyTask exchangeId => some exchangeId
    | _ => none

def after (world : World) (action : Handler α) : World :=
  let written := world.write action.saved
  { written with queue := written.queue ++ enqueuedIds action.calls }

def isVacant : Slot → Bool
  | .vacant => true
  | _ => false

/-- Creation needs an unused id, and the worker a waiting one. -/
def step (runtime : Runtime) (config : Config) (world : World) : Event → Option World
  | .create data answers =>
      let exchange := createExchange config answers data
      if isVacant (world.slots exchange.exchangeId) then
        some (world.after (saveExchange answers exchange))
      else none
  | .expire exchangeId =>
      match world.slots exchangeId with
      | .stored _ => some { world with
          slots := Function.update world.slots exchangeId .evicted }
      | _ => none
  | .request exchangeId workflowId endpoint answers =>
      some (world.after (serve runtime config answers workflowId endpoint
        (world.slots exchangeId).record))
  | .work answers =>
      match world.queue with
      | [] => none
      | exchangeId :: rest =>
          some ({ world with queue := rest }.after
            (processVerifyTask runtime config answers (world.slots exchangeId).record))

end World

end TransactionService
