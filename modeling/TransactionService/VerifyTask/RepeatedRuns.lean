import TransactionService.VerifyTask.Concurrency
import TransactionService.VerifyTask.MergeLaw

namespace TransactionService.RepeatedRuns

open MergeLaw

/-! # Running the worker again

The queue may hand one exchange to the worker any number of times. Apart from
its timestamps, the record that a run leaves is the one that a run would leave
when it is started from there. -/

def timelessTask (task : VerifyTask) : VerifyTask :=
  { task with
    startedAt := none
    lastError := task.lastError.map fun error => { error with timestamp := 0 } }

def timelessDetail (exchange : ExchangeDetailVerify) : ExchangeDetailVerify :=
  { exchange with
    vars := { exchange.vars with
      verifyTask := exchange.vars.verifyTask.map timelessTask } }

def timeless : Exchange → Exchange :=
  Exchange.mapVerify timelessDetail

/-- The verifier answers, or throws, as a function of its argument. -/
def AnswersAs (verify : VerifyCredentialCall →
    Except String (CredentialVerificationResult CoreCheckResult)) (answers : Answers) : Prop :=
  ∀ made call, answers.verifyCredential made call = verify call

def Stores (answers : Answers) : Prop :=
  ∀ write, answers.accepted write = true

def TaskTerminal (stored : Option Exchange) : Prop :=
  ∃ exchange task, stored = some (.verify exchange) ∧
    exchange.vars.verifyTask = some task ∧ task.status.isTerminal = true

section

variable (runtime : Runtime) (config : Config)

def storedOnce (answers : Answers) (stored : Option Exchange) : Option Exchange :=
  (processVerifyTask runtime config answers stored).saved.or stored

def storedAfter (runs : List Answers) (stored : Option Exchange) : Option Exchange :=
  runs.foldl (fun stored answers => storedOnce runtime config answers stored) stored

def callsAlong : List Answers → Option Exchange → List Call
  | [], _ => []
  | answers :: runs, stored =>
      (processVerifyTask runtime config answers stored).calls ++
        callsAlong runs (storedOnce runtime config answers stored)

/-! ## Two attempts at one task

Attempts that differ in their status and their start verify and merge the same. -/

private theorem openBadgesPass_congr {verify : VerifyCredentialCall →
      Except String (CredentialVerificationResult CoreCheckResult)}
    {answers other : Answers} (answersAs : AnswersAs verify answers)
    (otherAs : AnswersAs verify other) (exchange : ExchangeDetailVerify) (task : VerifyTask)
    (made otherMade : Nat) (base : VerificationResult) (indices : List Nat) :
    openBadgesPass runtime config answers (withVerifyTask exchange task) made base indices =
      openBadgesPass runtime config other exchange otherMade base indices := by
  induction indices generalizing made otherMade base with
  | nil => rfl
  | cons index rest induction =>
      cases present : base.credentialResults[index]?.bind presentCredential with
      | none =>
          simp only [openBadgesPass, present]
          exact induction made otherMade base
      | some credential =>
          have sameCall : openBadgesCallFor runtime config (withVerifyTask exchange task)
              credential = openBadgesCallFor runtime config exchange credential := rfl
          simp only [openBadgesPass, present, sameCall]
          rw [answersAs, otherAs]
          congr 1
          funext obResult
          exact induction _ _ _

private theorem withVerifyTask_self {exchange : ExchangeDetailVerify} {task : VerifyTask}
    (hasTask : exchange.vars.verifyTask = some task) :
    withVerifyTask exchange task = exchange := by
  unfold withVerifyTask
  rw [← hasTask]

def PassFails (answers : Answers) (exchange : ExchangeDetailVerify) (task : VerifyTask) :
    Prop :=
  ∀ base, exchange.vars.results = some base → ∀ merged,
    (openBadgesPass runtime config answers exchange 0 base
      task.openBadgesCredentialIndices).result ≠ .ok merged

def finishedRecord (answers : Answers) (exchange : ExchangeDetailVerify)
    (task : VerifyTask) : Exchange :=
  (planFor runtime config answers exchange task).final
    (.verify (runningExchange answers exchange task))

/-- A later attempt finishes as the first one does. An error that it starts from
matters only when the pass finishes: a failure puts its own error in place. -/
theorem finishedRecord_timeless {verify : VerifyCredentialCall →
      Except String (CredentialVerificationResult CoreCheckResult)}
    {answers other : Answers} (answersAs : AnswersAs verify answers)
    (otherAs : AnswersAs verify other) (exchange : ExchangeDetailVerify) (task : VerifyTask)
    (status : VerifyTaskStatus) (startedAt : Option Timestamp) (lastError : Option TaskError)
    (sameError : lastError = task.lastError ∨ PassFails runtime config other exchange task) :
    timeless (finishedRecord runtime config answers
        (withVerifyTask exchange { task with status, startedAt, lastError })
        { task with status, startedAt, lastError }) =
      timeless (finishedRecord runtime config other exchange task) := by
  have samePass := fun base => openBadgesPass_congr runtime config answersAs otherAs exchange
    { task with status, startedAt, lastError } 0 0 base task.openBadgesCredentialIndices
  have sameResults : (withVerifyTask exchange
      { task with status, startedAt, lastError }).vars.results = exchange.vars.results := rfl
  unfold finishedRecord planFor
  rw [sameResults]
  cases found : exchange.vars.results with
  | none => rfl
  | some base =>
      dsimp only
      rw [samePass base]
      cases passed : (openBadgesPass runtime config other exchange 0 base
        task.openBadgesCredentialIndices).result with
      | error message => rfl
      | ok merged =>
          rcases sameError with rfl | fails
          · rfl
          · exact absurd passed (fails base found merged)

/-! ## One run -/

theorem storedOnce_eq (answers : Answers) {exchange : ExchangeDetailVerify} {task : VerifyTask}
    (hasTask : exchange.vars.verifyTask = some task)
    (unsettled : task.status.isTerminal = false) :
    storedOnce runtime config answers (some (.verify exchange)) =
      if answers.accepted 0 then
        if answers.accepted 1 then some (finishedRecord runtime config answers exchange task)
        else some (.verify (runningExchange answers exchange task))
      else some (.verify exchange) := by
  unfold storedOnce
  rw [processVerifyTask_eq runtime config answers hasTask unsettled]
  dsimp only
  split
  · split <;> rfl
  · rfl

theorem processVerifyTask_idle (answers : Answers) {stored : Option Exchange}
    (idle : ∀ exchange task, stored = some (.verify exchange) →
      exchange.vars.verifyTask = some task → task.status.isTerminal = true) :
    (processVerifyTask runtime config answers stored).calls = [] ∧
      storedOnce runtime config answers stored = stored := by
  unfold storedOnce processVerifyTask
  cases planned : planWorker runtime config answers stored with
  | error outcome => exact ⟨rfl, rfl⟩
  | ok plan =>
      rcases (planWorker_eq_ok runtime config answers).mp planned with
        ⟨exchange, task, found, hasTask, unsettled, -⟩
      rw [idle exchange task found hasTask] at unsettled
      cases unsettled

theorem idle_or_unsettled (stored : Option Exchange) :
    (∀ exchange task, stored = some (.verify exchange) →
      exchange.vars.verifyTask = some task → task.status.isTerminal = true) ∨
    ∃ exchange task, stored = some (.verify exchange) ∧
      exchange.vars.verifyTask = some task ∧ task.status.isTerminal = false := by
  by_cases unsettled : ∃ exchange task, stored = some (.verify exchange) ∧
      exchange.vars.verifyTask = some task ∧ task.status.isTerminal = false
  · exact .inr unsettled
  · left
    intro exchange task found hasTask
    rw [← Bool.not_eq_false]
    exact fun isUnsettled => unsettled ⟨exchange, task, found, hasTask, isUnsettled⟩

/-! ## Where every run is heading -/

section

variable (verify : VerifyCredentialCall →
  Except String (CredentialVerificationResult CoreCheckResult))

def steadyAnswers : Answers :=
  { Answers.plain with verifyCredential := fun _ call => verify call }

/-- What a run leaves that nothing holds up, timestamps apart. -/
def destination (stored : Option Exchange) : Option Exchange :=
  (storedOnce runtime config (steadyAnswers verify) stored).map timeless

variable {verify}

theorem steadyAnswers_as : AnswersAs verify (steadyAnswers verify) :=
  fun _ _ => rfl

theorem destination_unsettled {exchange : ExchangeDetailVerify} {task : VerifyTask}
    (hasTask : exchange.vars.verifyTask = some task)
    (unsettled : task.status.isTerminal = false) :
    destination runtime config verify (some (.verify exchange)) =
      some (timeless (finishedRecord runtime config (steadyAnswers verify) exchange task)) := by
  unfold destination
  rw [storedOnce_eq runtime config (steadyAnswers verify) hasTask unsettled]
  rfl

theorem finishedRecord_steady {answers other : Answers} (answersAs : AnswersAs verify answers)
    (otherAs : AnswersAs verify other) {exchange : ExchangeDetailVerify} {task : VerifyTask}
    (hasTask : exchange.vars.verifyTask = some task) :
    timeless (finishedRecord runtime config answers exchange task) =
      timeless (finishedRecord runtime config other exchange task) := by
  have same := finishedRecord_timeless runtime config answersAs otherAs exchange task
    task.status task.startedAt task.lastError (.inl rfl)
  rwa [withVerifyTask_self hasTask] at same

theorem storedOnce_arrives {answers : Answers} (answersAs : AnswersAs verify answers)
    (stores : Stores answers) (stored : Option Exchange) :
    (storedOnce runtime config answers stored).map timeless =
      destination runtime config verify stored := by
  rcases idle_or_unsettled stored with idle | ⟨exchange, task, rfl, hasTask, unsettled⟩
  · unfold destination
    rw [(processVerifyTask_idle runtime config answers idle).2,
      (processVerifyTask_idle runtime config (steadyAnswers verify) idle).2]
  · rw [destination_unsettled runtime config hasTask unsettled,
      storedOnce_eq runtime config answers hasTask unsettled, if_pos (stores 0),
      if_pos (stores 1), Option.map_some,
      finishedRecord_steady runtime config answersAs steadyAnswers_as hasTask]

private theorem destination_storedOnce {answers : Answers} (answersAs : AnswersAs verify answers)
    (stored : Option Exchange) :
    destination runtime config verify (storedOnce runtime config answers stored) =
      destination runtime config verify stored := by
  rcases idle_or_unsettled stored with idle | ⟨exchange, task, rfl, hasTask, unsettled⟩
  · rw [(processVerifyTask_idle runtime config answers idle).2]
  · rw [storedOnce_eq runtime config answers hasTask unsettled]
    split
    · split
      · rw [destination_unsettled runtime config hasTask unsettled,
          ← finishedRecord_steady runtime config answersAs steadyAnswers_as hasTask]
        rcases planFor_final_cases runtime config answers exchange task with
          ⟨message, isFailure, fails⟩ | ⟨base, merged, -, -, isSettled⟩
        · have finished : finishedRecord runtime config answers exchange task =
              .verify (withVerifyTask exchange (markFailed (answers.clock 1) task message)) := by
            unfold finishedRecord
            rw [isFailure]
            rfl
          rw [finished, destination_unsettled runtime config rfl rfl, ← finished]
          exact congrArg some (finishedRecord_timeless runtime config steadyAnswers_as answersAs
            exchange task _ _ _ (.inr fails))
        · have finished : finishedRecord runtime config answers exchange task =
              .verify (settledExchange exchange task merged) := by
            unfold finishedRecord
            rw [isSettled]
          rw [finished]
          unfold destination
          rw [(processVerifyTask_idle runtime config (steadyAnswers verify) ?_).2]
          · rfl
          · rintro _ _ ⟨⟩ ⟨⟩
            rfl
      · rw [destination_unsettled runtime config rfl rfl,
          destination_unsettled runtime config hasTask unsettled]
        exact congrArg some (finishedRecord_timeless runtime config steadyAnswers_as
          steadyAnswers_as exchange task _ _ _ (.inl rfl))
    · rfl

theorem destination_storedAfter {runs : List Answers}
    (answersAs : ∀ answers ∈ runs, AnswersAs verify answers) (stored : Option Exchange) :
    destination runtime config verify (storedAfter runtime config runs stored) =
      destination runtime config verify stored := by
  induction runs generalizing stored with
  | nil => rfl
  | cons answers runs induction =>
      have later := induction (fun other member => answersAs other (List.mem_cons_of_mem _ member))
        (storedOnce runtime config answers stored)
      exact later.trans (destination_storedOnce runtime config
        (answersAs answers (List.mem_cons_self ..)) stored)

end

/-! ## After a terminal task -/

theorem terminal_stays {stored : Option Exchange} (terminal : TaskTerminal stored)
    (runs : List Answers) :
    callsAlong runtime config runs stored = [] ∧
      storedAfter runtime config runs stored = stored := by
  rcases terminal with ⟨exchange, task, rfl, hasTask, isTerminal⟩
  induction runs with
  | nil => exact ⟨rfl, rfl⟩
  | cons answers runs induction =>
      have idle := @processVerifyTask_idle runtime config answers (some (.verify exchange))
        (by
          rintro _ found ⟨⟩ hasFound
          cases hasTask.symm.trans hasFound
          exact isTerminal)
      simp only [callsAlong, storedAfter, List.foldl_cons, idle.1, idle.2, List.nil_append]
      exact induction

/-! ## What is merged -/

section

variable (verify : VerifyCredentialCall →
  Except String (CredentialVerificationResult CoreCheckResult))

/-- The stored results, or what one pass over the indices makes of them: the verifier's
answers to the calls of the exchange, merged in. -/
def MergedAtMostOnce (exchange : ExchangeDetailVerify) (base : VerificationResult)
    (indices : List Nat) (results : Option VerificationResult) : Prop :=
  results = some base ∨
    ∃ answered, answersTo (steadyAnswers verify) 0
        (askedCalls runtime config exchange base indices) = .ok answered ∧
      results = some (mergeAll base answered)

/-- The exchange asks what the first one asked, and only a terminal task has anything
merged in. -/
structure MergeStands (first : ExchangeDetailVerify) (base : VerificationResult)
    (indices : List Nat) (exchange : ExchangeDetailVerify) : Prop where
  asks : openBadgesCallFor runtime config exchange = openBadgesCallFor runtime config first
  merged : MergedAtMostOnce runtime config verify first base indices exchange.vars.results
  unmerged : ∀ task, exchange.vars.verifyTask = some task →
    task.openBadgesCredentialIndices = indices ∧
      (task.status.isTerminal = false → exchange.vars.results = some base)

variable {verify}

private theorem answersTo_as {answers other : Answers} (answersAs : AnswersAs verify answers)
    (otherAs : AnswersAs verify other) (made otherMade : Nat)
    (calls : List (Nat × VerifyCredentialCall)) :
    answersTo answers made calls = answersTo other otherMade calls := by
  induction calls generalizing made otherMade with
  | nil => rfl
  | cons asked rest induction =>
      simp only [answersTo]
      rw [answersAs, otherAs, induction (made + 1) (otherMade + 1)]

private theorem mergeStands_storedOnce {answers : Answers} (answersAs : AnswersAs verify answers)
    {first : ExchangeDetailVerify} {base : VerificationResult} {indices : List Nat}
    {exchange : ExchangeDetailVerify}
    (stands : MergeStands runtime config verify first base indices exchange) :
    ∃ after, storedOnce runtime config answers (some (.verify exchange)) =
        some (.verify after) ∧
      MergeStands runtime config verify first base indices after := by
  unfold storedOnce
  cases writes : (processVerifyTask runtime config answers (some (.verify exchange))).saved with
  | none => exact ⟨exchange, rfl, stands⟩
  | some record =>
      rcases processVerifyTask_saved runtime config answers writes with
        ⟨_, task, ⟨⟩, hasTask, unsettled, change⟩
      rcases stands.unmerged task hasTask with ⟨sameIndices, isBase⟩
      have hasBase := isBase unsettled
      cases change with
      | running =>
          refine ⟨_, rfl, stands.asks, .inl hasBase, ?_⟩
          rintro _ ⟨⟩
          exact ⟨sameIndices, fun _ => hasBase⟩
      | failed message =>
          refine ⟨_, rfl, stands.asks, .inl hasBase, ?_⟩
          rintro _ ⟨⟩
          exact ⟨sameIndices, fun _ => hasBase⟩
      | settled hasResults passed =>
          cases hasBase.symm.trans hasResults
          rcases openBadgesPass_mergeAll runtime config answers exchange passed with
            ⟨answered, isAnswered, rfl⟩
          have sameCalls : askedCalls runtime config exchange base
              task.openBadgesCredentialIndices =
                askedCalls runtime config first base indices := by
            unfold askedCalls
            rw [stands.asks, sameIndices]
          rw [sameCalls, answersTo_as answersAs steadyAnswers_as 0 0] at isAnswered
          refine ⟨_, rfl, stands.asks, .inr ⟨answered, isAnswered, rfl⟩, ?_⟩
          rintro _ ⟨⟩
          exact ⟨sameIndices, fun unsettled => (nomatch unsettled)⟩

private theorem mergeStands_storedAfter {runs : List Answers}
    (answersAs : ∀ answers ∈ runs, AnswersAs verify answers)
    {first : ExchangeDetailVerify} {base : VerificationResult} {indices : List Nat}
    {exchange : ExchangeDetailVerify}
    (stands : MergeStands runtime config verify first base indices exchange) :
    ∃ after, storedAfter runtime config runs (some (.verify exchange)) =
        some (.verify after) ∧
      MergeStands runtime config verify first base indices after := by
  induction runs generalizing exchange with
  | nil => exact ⟨exchange, rfl, stands⟩
  | cons answers runs induction =>
      have later := fun other member => answersAs other (List.mem_cons_of_mem _ member)
      rcases mergeStands_storedOnce runtime config
        (answersAs answers (List.mem_cons_self ..)) stands with ⟨next, stored, nextStands⟩
      rcases induction later nextStands with ⟨after, finished, afterStands⟩
      refine ⟨after, ?_, afterStands⟩
      simp only [storedAfter, List.foldl_cons, stored]
      exact finished

end

/-! ## Any number of runs -/

/-- After one run or more, of which the store has let the first and the last
write, the record is the one after the first, timestamps apart. A terminal task
is not verified again, and the results have been merged into at most once. -/
theorem repeated_runs {verify : VerifyCredentialCall →
      Except String (CredentialVerificationResult CoreCheckResult)}
    {first : Answers} {more : List Answers}
    (answersAs : ∀ answers ∈ first :: more, AnswersAs verify answers)
    (firstStores : Stores first) (lastStores : ∀ last ∈ more.getLast?, Stores last)
    (stored : Option Exchange) :
    (storedAfter runtime config (first :: more) stored).map timeless =
        (storedAfter runtime config [first] stored).map timeless ∧
    (∀ before later, first :: more = before ++ later →
      TaskTerminal (storedAfter runtime config before stored) →
      callsAlong runtime config later (storedAfter runtime config before stored) = []) ∧
    ∀ exchange task base, stored = some (.verify exchange) →
      exchange.vars.verifyTask = some task → exchange.vars.results = some base →
      ∃ after, storedAfter runtime config (first :: more) stored = some (.verify after) ∧
        MergedAtMostOnce runtime config verify exchange base
          task.openBadgesCredentialIndices after.vars.results := by
  refine ⟨?_, ?_, ?_⟩
  · have once : (storedAfter runtime config [first] stored).map timeless =
        destination runtime config verify stored :=
      storedOnce_arrives runtime config (answersAs first (List.mem_cons_self ..)) firstStores
        stored
    rw [once]
    rcases List.eq_nil_or_concat more with rfl | ⟨middle, last, rfl⟩
    · exact once
    · have lastAs : AnswersAs verify last := answersAs last (by simp)
      have split : storedAfter runtime config (first :: middle.concat last) stored =
          storedOnce runtime config last
            (storedAfter runtime config (first :: middle) stored) := by
        simp [storedAfter]
      rw [split, storedOnce_arrives runtime config lastAs (lastStores last (by simp))]
      apply destination_storedAfter runtime config
      intro answers member
      apply answersAs answers
      rw [List.concat_eq_append, ← List.cons_append]
      exact List.mem_append_left [last] member
  · intro before later _ terminal
    exact (terminal_stays runtime config terminal later).1
  · rintro exchange task base rfl hasTask hasBase
    have stands : MergeStands runtime config verify exchange base
        task.openBadgesCredentialIndices exchange := by
      refine ⟨rfl, .inl hasBase, ?_⟩
      intro found hasFound
      cases hasTask.symm.trans hasFound
      exact ⟨rfl, fun _ => hasBase⟩
    rcases mergeStands_storedAfter runtime config answersAs stands with
      ⟨after, finished, afterStands⟩
    exact ⟨after, finished, afterStands.merged⟩

end

/-! ### Two runs after one submission -/

def badgePasses (_ : VerifyCredentialCall) :
    Except String (CredentialVerificationResult CoreCheckResult) :=
  .ok { verified := true, verifiableCredential := none, results := [] }

def passingAt (now : Timestamp) : Answers :=
  { steadyAnswers badgePasses with clock := fun _ => now }

theorem second_run_changes_nothing :
    (storedAfter .plain {} [passingAt 1, passingAt 2]
        (some (.verify Concurrency.queuedExchange))).map timeless =
      (storedAfter .plain {} [passingAt 1]
        (some (.verify Concurrency.queuedExchange))).map timeless ∧
    callsAlong .plain {} [passingAt 2] (storedAfter .plain {} [passingAt 1]
      (some (.verify Concurrency.queuedExchange))) = [] := by
  have answersAs : ∀ answers ∈ [passingAt 1, passingAt 2], AnswersAs badgePasses answers := by
    intro answers member
    rcases List.mem_cons.mp member with rfl | member
    · exact fun _ _ => rfl
    · cases List.mem_singleton.mp member
      exact fun _ _ => rfl
  have lastStores : ∀ last ∈ [passingAt 2].getLast?, Stores last := by
    rintro _ ⟨⟩
    exact fun _ => rfl
  rcases repeated_runs .plain {} answersAs (fun _ => rfl) lastStores
    (some (.verify Concurrency.queuedExchange)) with ⟨same, unasked, -⟩
  exact ⟨same, unasked [passingAt 1] [passingAt 2] rfl ⟨_, _, rfl, rfl, rfl⟩⟩

end TransactionService.RepeatedRuns
