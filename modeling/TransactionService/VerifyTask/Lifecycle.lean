import TransactionService.Service

namespace TransactionService

/-! # The life cycle of a verify task

`lib/verify-task/verify-task.ts`. `now` is the reading of the clock a helper
takes, `attemptId` the UUID it mints. -/

def newVerifyTask (now : Timestamp) (attemptId : String)
    (openBadgesCredentialIndices : List Nat) (deadlineMs maxAttempts : Int) :
    VerifyTask where
  attemptId := attemptId
  queuedAt := now
  deadlineAt := now + deadlineMs
  attempt := 1
  maxAttempts := maxAttempts
  openBadgesCredentialIndices := openBadgesCredentialIndices
  status := .queued

def bumpAttempt (now : Timestamp) (attemptId : String) (task : VerifyTask)
    (deadlineMs : Int) : VerifyTask :=
  { task with
    attemptId
    queuedAt := now
    deadlineAt := now + deadlineMs
    attempt := task.attempt + 1
    status := .queued
    startedAt := none
    lastError := none }

def markRunning (now : Timestamp) (task : VerifyTask) : VerifyTask :=
  { task with startedAt := some now, status := .running }

def markSucceeded (task : VerifyTask) : VerifyTask :=
  { task with status := .succeeded }

def markFailed (now : Timestamp) (task : VerifyTask) (message : String) : VerifyTask :=
  { task with status := .failed, lastError := some { message, timestamp := now } }

def markGaveUp (task : VerifyTask) : VerifyTask :=
  { task with status := .gaveUp }

/-- The worker leaves a task in one of these statuses alone. -/
def VerifyTaskStatus.isTerminal : VerifyTaskStatus → Bool
  | .succeeded => true
  | .gaveUp => true
  | _ => false

/-- The sweep looks at a task in one of these statuses. -/
def VerifyTaskStatus.isPending : VerifyTaskStatus → Bool
  | .queued => true
  | .running => true
  | _ => false

def withVerifyTask (exchange : ExchangeDetailVerify) (task : VerifyTask) :
    ExchangeDetailVerify :=
  { exchange with vars := { exchange.vars with verifyTask := some task } }

end TransactionService
