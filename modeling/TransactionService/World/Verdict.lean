import TransactionService.Foundation.GuardedStore
import TransactionService.Routes.Completion
import TransactionService.VerifyTask.Finalization
import TransactionService.World.CommitFrame

namespace TransactionService.Verdict

open SharedStore SingleUse Sessions Completion Finalization CommitFrame

/-! # What stands behind a completed exchange

Submissions, sweeps and worker runs write over each other, each from the copy that it
has loaded. An exchange is stored as complete only with the evidence for it. -/

/-! ## Evidence -/

def unanswered (detail : ExchangeDetailVerify) : ExchangeDetailVerify :=
  { detail with
    state := .pending
    vars := { detail.vars with results := none, verifyTask := none, oid4vp := none } }

/-- The presentation that a request submits to a verify exchange; over OID4VP it is
bound to the client id of the exchange. -/
def Submits (runtime : Runtime) (detail : ExchangeDetailVerify) :
    Endpoint → Json → Prop
  | .participate data, presentation => presentation = data
  | .directPost body, presentation => ∃ posted parsed, body = some posted ∧
      parseDirectPost (coerceBody runtime posted) = some parsed ∧
      firstPresentation parsed.vpToken = some presentation ∧
      bindsAudience presentation (clientIdForExchange detail) = true
  | _, _ => False

section

variable (runtime : Runtime) (config : Config) (labels : List ExchangeLabel)

/-- A request has submitted a presentation to the exchange, which the verifier was
asked about under the challenge of the exchange and for which it gave the result. -/
inductive Submitted (detail : ExchangeDetailVerify)
    (result : PresentationVerificationResult) : Prop
  | mk {session : Nat} {workflowId : String} {endpoint : Endpoint} {answers : Answers}
      {presentation : Json}
      (requested : .load session detail.exchangeId
        (.request { workflowId, endpoint, answers }) ∈ labels)
      (submits : Submits runtime detail endpoint presentation)
      (answered : answers.verifyPresentation (verifyCallFor runtime config detail
        (preparePresentation runtime presentation).result) = .ok result) :
      Submitted detail result

/-- Every credential of the presentation was verified at once, when none of them is an
Open Badges credential; or else all that are, by a worker run that covers them. The
others then stand as the verifier has reported them, verified or not. -/
inductive Checked (detail : ExchangeDetailVerify)
    (result : PresentationVerificationResult) : Prop
  | atOnce
      (noOpenBadges :
        identifyOpenBadgesCredentialIndices runtime result.credentialResults = [])
      (verified : ∀ credentialResult ∈ result.credentialResults,
        credentialResult.verified = true) :
      Checked detail result
  | byWorker {session : Nat} {answers : Answers} {indices : List Nat}
      (worked : .load session detail.exchangeId (.work answers) ∈ labels)
      (covers : ∀ index ∈
        identifyOpenBadgesCredentialIndices runtime result.credentialResults,
          index ∈ indices)
      (verified : OpenBadgesVerified answers (openBadgesCallFor runtime config detail) 0
        (openBadgesCredentials result.credentialResults indices)) :
      Checked detail result

/-- The stored results show the credentials that the verifier was given, and those of
them that meet the claims of the exchange. No verdict is better than the verifier's. -/
structure Reports (detail : ExchangeDetailVerify) (results : VerificationResult)
    (result : PresentationVerificationResult) : Prop where
  credentials : ∀ position : Nat,
    results.credentialResults[position]?.bind presentCredential =
      result.credentialResults[position]?.bind presentCredential
  matched : validateClaims detail.vars.vprClaims (storedCredentialResults result) =
    .ok (results.matchedCredentials, results.claimsValidation)
  verified : results.verified = true → result.verified = true
  credentialVerified : ∀ position, MergeLaw.flagAt results position = some true →
    result.credentialResults[position]?.map (·.verified) = some true

inductive Authenticated (detail : ExchangeDetailDidAuth) : Prop
  | mk {session : Nat} {workflowId : String} {data : Json} {answers : Answers}
      {holder : String} {compatLog : Option (List CheckResult)}
      (requested : .load session detail.exchangeId
        (.request { workflowId, endpoint := .participate data, answers }) ∈ labels)
      (proven : Proven runtime answers data detail.vars.challenge holder)
      (shown : detail.vars.results = some { holder, compatLog }) :
      Authenticated detail

inductive Issued (detail : ExchangeDetailClaim) : Prop
  | mk {session : Nat} {request : StoreRequest} {issuance : HolderAgreement.IssuanceRequest}
      {loaded : ExchangeDetailClaim} {proof : HolderAgreement.KeyProof} {did : String}
      {signedCredential : Json} {compatLog : Option (List CheckResult)}
      (requested : .load session detail.exchangeId (.request request) ∈ labels)
      (submits : issuanceOf request.endpoint = some issuance)
      (same : identityOf (.claim loaded) = identityOf (.claim detail))
      (offered : HolderAgreement.keyProofOf runtime request.answers loaded issuance =
        some proof)
      (issued : IssuedOn runtime config request.answers proof did signedCredential)
      (shown : detail.vars.results =
        some { verifiableCredential := [signedCredential], compatLog }) :
      Issued detail

def Evidence : Exchange → Prop
  | .didAuth detail => Authenticated runtime labels detail
  | .claim detail => Issued runtime config labels detail
  | .verify detail => ∃ results result, detail.vars.results = some results ∧
      results.verified = true ∧
      Submitted runtime config labels (unanswered detail) result ∧
      Reports (unanswered detail) results result ∧
      Checked runtime config labels (unanswered detail) result

/-! ## What is kept of every record -/

/-- The results of a verify exchange go back to one submission, whose Open Badges
credentials the task of the exchange names. -/
structure Backed (detail : ExchangeDetailVerify) (results : VerificationResult)
    (result : PresentationVerificationResult) : Prop where
  submitted : Submitted runtime config labels (unanswered detail) result
  reports : Reports (unanswered detail) results result
  assigned : ∀ task, detail.vars.verifyTask = some task →
    ∀ index ∈ identifyOpenBadgesCredentialIndices runtime result.credentialResults,
      index ∈ task.openBadgesCredentialIndices
  checked : detail.state = .complete → results.verified = true ∧
    Checked runtime config labels (unanswered detail) result

structure Upheld (detail : ExchangeDetailVerify) : Prop where
  unread : detail.vars.results = none →
    detail.vars.verifyTask = none ∧ detail.state ≠ .complete
  backed : ∀ results, detail.vars.results = some results →
    ∃ result, Backed runtime config labels detail results result

/-- A record keeps the evidence that it is going to need. -/
def Earned : Exchange → Prop
  | .didAuth detail => detail.state = .complete → Authenticated runtime labels detail
  | .claim detail => detail.state = .complete → Issued runtime config labels detail
  | .verify detail => Upheld runtime config labels detail

end

section

variable {runtime : Runtime} {config : Config} {labels : List ExchangeLabel}

private theorem Earned.evidence {record : Exchange} (earned : Earned runtime config labels record)
    (complete : record.state = .complete) : Evidence runtime config labels record := by
  cases record with
  | didAuth detail => exact earned complete
  | claim detail => exact earned complete
  | verify detail =>
      cases isRead : detail.vars.results with
      | none => exact absurd complete (earned.unread isRead).2
      | some results =>
          rcases earned.backed results isRead with ⟨result, backed⟩
          rcases backed.checked complete with ⟨verified, checked⟩
          exact ⟨results, result, isRead, verified, backed.submitted, backed.reports, checked⟩

private theorem createExchange_earned (answers : Answers) (data : CreateData) :
    Earned runtime config labels (createExchange config answers data) := by
  cases data with
  | didAuth data => exact nofun
  | claim data => exact nofun
  | verify data =>
      exact ⟨fun _ => ⟨rfl, nofun⟩, fun results isRead => (nomatch isRead)⟩

theorem Upheld.congr {detail next : ExchangeDetailVerify}
    (upheld : Upheld runtime config labels detail)
    (same : unanswered next = unanswered detail)
    (results : next.vars.results = detail.vars.results)
    (task : next.vars.verifyTask = detail.vars.verifyTask)
    (state : next.state = .complete → detail.state = .complete) :
    Upheld runtime config labels next where
  unread none := by
    rcases upheld.unread (results ▸ none) with ⟨noTask, ongoing⟩
    exact ⟨task.trans noTask, fun complete => ongoing (state complete)⟩
  backed kept isRead := by
    rcases upheld.backed kept (results ▸ isRead) with ⟨result, backed⟩
    refine ⟨result, ?_⟩
    constructor
    · rw [same]
      exact backed.submitted
    · rw [same]
      exact backed.reports
    · rw [task]
      exact backed.assigned
    · rw [same]
      exact fun complete => backed.checked (state complete)

/-! ## Submissions -/

theorem submittedResult_answered {answers : Answers} {data : Json}
    {exchange : ExchangeDetailVerify} {result : PresentationVerificationResult}
    (answered : submittedResult runtime config answers data exchange = some result) :
    answers.verifyPresentation (verifyCallFor runtime config exchange
      (preparePresentation runtime data).result) = .ok result := by
  unfold submittedResult at answered
  split at answered
  · cases answered
  · rename_i prepared ready
    rw [preparePresentationForVerify_ok runtime config ready] at answered
    generalize answers.verifyPresentation _ = answer at answered ⊢
    cases answer with
    | error message => cases answered
    | ok given => exact congrArg Except.ok (Option.some.inj answered)

theorem applied_reports {working stored : ExchangeDetailVerify}
    {result : PresentationVerificationResult} {log : List CheckResult} {debug : Bool}
    (applied : applyVerificationResults working result log debug = .ok stored) :
    unanswered stored = unanswered working ∧
      stored.vars.verifyTask = working.vars.verifyTask ∧
      ∃ results, stored.vars.results = some results ∧ results.verified = result.verified ∧
        Reports (unanswered working) results result := by
  rcases applyVerificationResults_ok applied with
    ⟨results, verified, -, credentials, validated, -, rfl⟩
  refine ⟨rfl, rfl, results, rfl, verified, ?_, validated, fun holds => verified ▸ holds, ?_⟩
  · intro position
    rw [credentials, storedCredentialResults, List.getElem?_map]
    cases result.credentialResults[position]? <;> rfl
  · intro position flag
    rw [MergeLaw.flagAt, credentials, storedCredentialResults, List.getElem?_map,
      Option.map_map] at flag
    exact flag

theorem submission_upheld {answers : Answers} {data : Json}
    {working : ExchangeDetailVerify} {record : Exchange}
    (stores : SubmissionStores runtime config answers data working record)
    (submitted : ∀ result, submittedResult runtime config answers data working = some result →
      Submitted runtime config labels (unanswered working) result) :
    Earned runtime config labels record := by
  cases stores with
  | @finalized result log debug stored accepted answered noOpenBadges applied =>
      rcases applied_reports applied with ⟨same, -, results, isRead, verified, reports⟩
      refine ⟨fun none => (nomatch none.symm.trans isRead), ?_⟩
      intro kept isKept
      cases isRead.symm.trans isKept
      refine ⟨result, ?_⟩
      constructor
      · rw [same]
        exact submitted result answered
      · rw [same]
        exact reports
      · intro task hasTask index member
        rw [noOpenBadges] at member
        cases member
      · intro complete
        rcases Outcome.applyVerificationResults_state applied with
          ⟨-, acceptable⟩ | ⟨invalid, -⟩
        · exact ⟨verified.trans acceptable.verified,
            .atOnce noOpenBadges acceptable.credentials⟩
        · cases complete.symm.trans invalid
  | @queued result log debug stored accepted answered openBadges applied =>
      rcases withSyncResults_ok config answers applied with ⟨finalized, finished, rfl⟩
      rcases applied_reports finished with ⟨same, -, results, isRead, verified, reports⟩
      have kept : unanswered (withVerifyTask { finalized with state := .active }
          (newVerifyTask (answers.clock 0) (answers.randomUUID 0)
            (identifyOpenBadgesCredentialIndices runtime result.credentialResults)
            config.verifyTaskDeadlineMs config.verifyTaskMaxAttempts)) =
          unanswered working := same
      refine ⟨fun none => (nomatch none.symm.trans isRead), ?_⟩
      intro other isOther
      cases isRead.symm.trans isOther
      refine ⟨result, ?_⟩
      constructor
      · rw [kept]
        exact submitted result answered
      · rw [kept]
        exact reports
      · intro task hasTask index member
        cases hasTask
        exact member
      · exact nofun

/-! ## Sweeps -/

private theorem retried_upheld {answers : Answers} {detail : ExchangeDetailVerify}
    {task : VerifyTask}
    (upheld : Upheld runtime config labels detail)
    (hasTask : detail.vars.verifyTask = some task) :
    Upheld runtime config labels (retryPlan config answers detail task).next where
  unread none := by
    cases hasTask.symm.trans (upheld.unread none).1
  backed results isRead := by
    rcases upheld.backed results isRead with ⟨result, backed⟩
    refine ⟨result, backed.submitted, backed.reports, ?_, backed.checked⟩
    intro bumped isBumped
    cases isBumped
    exact backed.assigned task hasTask

private theorem gaveUp_upheld {detail : ExchangeDetailVerify} {task : VerifyTask}
    (upheld : Upheld runtime config labels detail)
    (hasTask : detail.vars.verifyTask = some task) :
    Upheld runtime config labels (gaveUpExchange detail task) where
  unread none := by cases none
  backed results isRead := by
    cases isBase : detail.vars.results with
    | none => cases hasTask.symm.trans (upheld.unread isBase).1
    | some base =>
        rcases upheld.backed base isBase with ⟨result, backed⟩
        simp only [gaveUpExchange, isBase, appendAllResult, Option.some.injEq] at isRead
        subst isRead
        refine ⟨result, backed.submitted, ?_, ?_, ?_⟩
        · refine ⟨backed.reports.credentials, backed.reports.matched, ?_,
            backed.reports.credentialVerified⟩
          intro positive
          cases positive
        · intro given isGiven
          cases isGiven
          exact backed.assigned task hasTask
        · intro complete
          cases complete

private theorem swept_upheld {answers : Answers} {loaded : Exchange} {plan : SweepPlan}
    (earned : Earned runtime config labels loaded)
    (planned : planSweep config answers loaded = some plan) :
    Earned runtime config labels (.verify plan.next) := by
  rcases planSweep_eq_some config answers planned with
    ⟨detail, task, rfl, -, hasTask, -, -, ⟨-, rfl⟩ | ⟨-, rfl⟩⟩
  · exact retried_upheld earned hasTask
  · exact gaveUp_upheld earned hasTask

/-! ## Requests -/

section

variable {session : Nat} {exchangeId : String} {request : StoreRequest} {next : Exchange}

private theorem didAuth_request_earned {detail : ExchangeDetailDidAuth}
    (place : detail.exchangeId = exchangeId)
    (requested : .load session exchangeId (.request request) ∈ labels)
    (saved : written runtime config request (.didAuth detail) = some next) :
    Earned runtime config labels next := by
  cases next with
  | didAuth after =>
      intro complete
      cases didAuth_completes saved complete with
      | authenticated submits proven =>
          rcases request with ⟨workflowId, endpoint, answers⟩
          subst submits
          subst place
          exact .mk requested proven rfl
  | claim after => cases World.change_workflowId (written_change saved)
  | verify after => cases World.change_workflowId (written_change saved)

theorem Issued.congr {detail after : ExchangeDetailClaim}
    (issued : Issued runtime config labels detail)
    (same : identityOf (.claim after) = identityOf (.claim detail))
    (results : after.vars.results = detail.vars.results) :
    Issued runtime config labels after := by
  have place : after.exchangeId = detail.exchangeId := congrArg Identity.exchangeId same
  cases issued with
  | mk requested submits earlier offered issued shown =>
      rw [← place] at requested
      exact .mk requested submits (earlier.trans same.symm) offered issued
        (results.trans shown)

private theorem claim_request_earned {detail : ExchangeDetailClaim}
    (earned : Earned runtime config labels (.claim detail))
    (place : detail.exchangeId = exchangeId)
    (requested : .load session exchangeId (.request request) ∈ labels)
    (saved : written runtime config request (.claim detail) = some next) :
    Earned runtime config labels next := by
  have change := written_change saved
  cases next with
  | claim after =>
      intro complete
      by_cases isComplete : detail.state = .complete
      · have results := (change.complete_kept isComplete).2
        exact (earned isComplete).congr change.identity (Exchange.Results.claim.inj results)
      · have stays : after.exchangeId = exchangeId :=
          (congrArg Identity.exchangeId change.identity).trans place
        have same := change.identity
        generalize isAfter : Exchange.claim after = stored at saved same
        cases claim_completes saved isComplete (isAfter ▸ complete) with
        | issued submits offered issued =>
            cases isAfter
            rw [← stays] at requested
            exact .mk requested submits same.symm offered issued rfl
  | didAuth after => cases World.change_workflowId change
  | verify after => cases World.change_workflowId change

private theorem verify_request_earned {detail : ExchangeDetailVerify}
    (earned : Earned runtime config labels (.verify detail))
    (place : detail.exchangeId = exchangeId)
    (requested : .load session exchangeId (.request request) ∈ labels)
    (saved : written runtime config request (.verify detail) = some next) :
    Earned runtime config labels next := by
  subst place
  rcases request with ⟨workflowId, endpoint, answers⟩
  cases written_change saved with
  | activated pending => exact Upheld.congr earned rfl rfl rfl nofun
  | submitted ongoing nonempty stores =>
      apply submission_upheld stores
      intro result answered
      exact .mk requested rfl (submittedResult_answered answered)
  | swept planned => exact swept_upheld earned planned
  | requested =>
      rcases ensureOid4vpState_cases answers detail with same | ⟨fresh, same⟩
      · rw [same]
        exact earned
      · rw [same]
        exact Upheld.congr earned rfl rfl rfl id
  | answered ongoing accepted stores =>
      rcases acceptDirectPost_ok runtime accepted with
        ⟨posted, parsed, rfl, schema, consumed, first, binds⟩
      rcases consumeOid4vpResponse_ok consumed with ⟨_, -, -, -, rfl⟩
      apply submission_upheld stores
      intro result answered
      exact .mk requested ⟨posted, parsed, rfl, schema, first, binds⟩
        (submittedResult_answered answered)

private theorem request_earned {loaded : Exchange} (earned : Earned runtime config labels loaded)
    (place : loaded.exchangeId = exchangeId)
    (requested : .load session exchangeId (.request request) ∈ labels)
    (saved : written runtime config request loaded = some next) :
    Earned runtime config labels next := by
  cases loaded with
  | didAuth detail => exact didAuth_request_earned place requested saved
  | claim detail => exact claim_request_earned earned place requested saved
  | verify detail => exact verify_request_earned earned place requested saved

end

/-! ## The worker -/

private theorem Reports.merge {detail : ExchangeDetailVerify} {base : VerificationResult}
    {result : PresentationVerificationResult} (reports : Reports detail base result)
    (index : Nat) (obResult : CredentialVerificationResult CoreCheckResult) :
    Reports detail (mergeOpenBadgesResultsAt base index obResult) result where
  credentials position :=
    (MergeLaw.merge_presentCredential base index obResult position).trans
      (reports.credentials position)
  matched := by
    rcases MergeLaw.merge_frame base index obResult with ⟨-, claims, -, matched⟩
    rw [claims, matched]
    exact reports.matched
  verified positive := by
    rw [MergeLaw.merge_verified, Bool.and_eq_true] at positive
    exact reports.verified positive.1
  credentialVerified position flag := by
    rw [MergeLaw.merge_credential] at flag
    rcases Option.map_eq_some_iff.mp flag with ⟨before, wasFlag, both⟩
    rw [Bool.and_eq_true] at both
    exact reports.credentialVerified position (both.1 ▸ wasFlag)

theorem Reports.mergeAll {detail : ExchangeDetailVerify} {base : VerificationResult}
    {result : PresentationVerificationResult} (reports : Reports detail base result)
    (answered : List MergeLaw.Answered) :
    Reports detail (MergeLaw.mergeAll base answered) result := by
  induction answered generalizing base with
  | nil => exact reports
  | cons entry rest induction => exact induction (reports.merge entry.1 entry.2)

theorem Reports.openBadgesCredentials {detail : ExchangeDetailVerify}
    {results : VerificationResult} {result : PresentationVerificationResult}
    (reports : Reports detail results result) (indices : List Nat) :
    openBadgesCredentials results.credentialResults indices =
      openBadgesCredentials result.credentialResults indices :=
  List.filterMap_congr fun index _ => reports.credentials index

private theorem settled_upheld {session : Nat} {answers : Answers} {detail : ExchangeDetailVerify}
    {task : VerifyTask} {base merged : VerificationResult}
    (upheld : Upheld runtime config labels detail)
    (hasTask : detail.vars.verifyTask = some task) (isRead : detail.vars.results = some base)
    (worked : .load session detail.exchangeId (.work answers) ∈ labels)
    (passed : (openBadgesPass runtime config answers detail 0 base
      task.openBadgesCredentialIndices).result = .ok merged) :
    Upheld runtime config labels (settledExchange detail task merged) where
  unread none := nomatch none
  backed results isResults := by
    cases isResults
    rcases upheld.backed base isRead with ⟨result, backed⟩
    refine ⟨result, backed.submitted, ?_, ?_, ?_⟩
    · rcases MergeLaw.openBadgesPass_mergeAll runtime config answers detail passed with
        ⟨answered, -, rfl⟩
      exact backed.reports.mergeAll answered
    · intro succeeded isSucceeded
      cases isSucceeded
      exact backed.assigned task hasTask
    · intro complete
      have verified : merged.verified = true := by
        cases flag : merged.verified with
        | true => rfl
        | false => simp [settledExchange, flag] at complete
      have others := ((openBadgesPass_verified 0 base _).mp ⟨merged, passed, verified⟩).2
      rw [backed.reports.openBadgesCredentials] at others
      exact ⟨verified, .byWorker worked (backed.assigned task hasTask) others⟩

private theorem marked_upheld {detail : ExchangeDetailVerify} {task next : VerifyTask}
    (upheld : Upheld runtime config labels detail)
    (hasTask : detail.vars.verifyTask = some task)
    (indices : next.openBadgesCredentialIndices = task.openBadgesCredentialIndices) :
    Upheld runtime config labels (withVerifyTask detail next) where
  unread none := by
    cases hasTask.symm.trans (upheld.unread none).1
  backed results isRead := by
    rcases upheld.backed results isRead with ⟨result, backed⟩
    refine ⟨result, backed.submitted, backed.reports, ?_, backed.checked⟩
    intro marked isMarked
    cases isMarked
    rw [indices]
    exact backed.assigned task hasTask

/-! ## Runs -/

/-- What holds of every record of a run that ends in `final`. -/
def Held (runtime : Runtime) (config : Config) (labels : List ExchangeLabel)
    (final : ExchangeSystem) (lasting : String → VerifyTask) (exchangeId : String)
    (record : Exchange) : Prop :=
  Traced runtime config final lasting exchangeId record ∧
    Earned runtime config labels record

section

variable {final : ExchangeSystem} {lasting : String → VerifyTask} {exchangeId : String}
  {session : Nat} {loaded : Exchange}

def Earns (runtime : Runtime) (config : Config) (labels : List ExchangeLabel)
    (final : ExchangeSystem) (lasting : String → VerifyTask) (exchangeId : String) :
    ExchangeWrite → Prop
  | .put record => Earned runtime config labels record
  | .guarded _ expected update => ∀ current,
      Held runtime config labels final lasting exchangeId current →
      readVerifyTaskAttemptId current = some expected →
      Earned runtime config labels (update current)

private theorem Earns.keepsTagged {write : ExchangeWrite}
    (earns : Earns runtime config labels final lasting exchangeId write)
    (keeps : write.Keeps (exchangeProtocol runtime config)
      (Traced runtime config final lasting) exchangeId) :
    write.KeepsTagged (exchangeProtocol runtime config)
      (Held runtime config labels final lasting) exchangeId := by
  cases write with
  | put record => exact ⟨keeps.1, keeps.2, earns⟩
  | guarded place expected update =>
      refine ⟨keeps.1, ?_⟩
      intro current held tagged
      exact ⟨keeps.2 current held.1, earns current held tagged⟩

theorem mark_earned {detail : ExchangeDetailVerify} {task next : VerifyTask}
    {current : Exchange}
    (isLoaded : Traced runtime config final lasting exchangeId (.verify detail))
    (hasTask : detail.vars.verifyTask = some task)
    (isCurrent : Held runtime config labels final lasting exchangeId current)
    (tagged : readVerifyTaskAttemptId current = some task.attemptId)
    (indices : next.openBadgesCredentialIndices = task.openBadgesCredentialIndices) :
    Earned runtime config labels
      (current.mapVerify fun detail => withVerifyTask detail next) := by
  rcases attempt_of_tag tagged with ⟨stored, other, rfl, hasOther, attempt⟩
  have lasts : lastingTask task = lastingTask other := by
    rw [isLoaded.2 task hasTask, isCurrent.1.2 other hasOther, attempt]
  have named := congrArg VerifyTask.openBadgesCredentialIndices lasts
  exact marked_upheld isCurrent.2 hasOther (indices.trans named)

private theorem worker_earns {answers : Answers} {write : ExchangeWrite}
    (held : Held runtime config labels final lasting exchangeId loaded)
    (place : loaded.exchangeId = exchangeId)
    (worked : .load session exchangeId (.work answers) ∈ labels)
    (member : write ∈ workerWrites runtime config answers exchangeId loaded) :
    Earns runtime config labels final lasting exchangeId write := by
  unfold workerWrites at member
  split at member
  · cases member
  · rename_i plan planned
    rcases (planWorker_eq_ok runtime config answers).mp planned with
      ⟨detail, task, found, hasTask, -, rfl⟩
    cases found
    subst place
    have attempt := planFor_expectedAttemptId runtime config answers detail task
    rcases List.mem_cons.mp member with rfl | last
    · intro current isCurrent tagged
      rw [planFor_running_eq]
      exact mark_earned held.1 hasTask isCurrent (tagged.trans (congrArg some attempt)) rfl
    · cases List.mem_singleton.mp last
      intro current isCurrent tagged
      rcases planFor_final_cases runtime config answers detail task with
        ⟨message, isFailure, -⟩ | ⟨base, merged, isRead, passed, isSettled⟩
      · rw [isFailure]
        exact mark_earned held.1 hasTask isCurrent (tagged.trans (congrArg some attempt)) rfl
      · rw [isSettled]
        exact settled_upheld held.2 hasTask isRead worked passed

private theorem request_earns {request : StoreRequest} {write : ExchangeWrite}
    (held : Held runtime config labels final lasting exchangeId loaded)
    (place : loaded.exchangeId = exchangeId)
    (requested : .load session exchangeId (.request request) ∈ labels)
    (member : write ∈ requestWrites runtime config request loaded) :
    Earns runtime config labels final lasting exchangeId write := by
  unfold requestWrites at member
  split at member
  · cases member
  · rename_i record saved
    have earned := request_earned held.2 place requested saved
    split at member
    · rename_i sweeps
      rcases serve_swept sweeps saved with ⟨exchange, plan, found, planned, rfl⟩
      cases found
      rw [sweepWrites_eq planned] at member
      cases List.mem_singleton.mp member
      exact fun _ _ _ => earned
    · cases List.mem_singleton.mp member
      exact earned

end

theorem admitsTagged_along {final : ExchangeSystem}
    (distinct : (labels.filterMap drawnAttemptId).Nodup)
    (runs : Machine.run (sessionStep runtime config) SharedStore.start labels = some final) :
    ∃ lasting, Machine.Along (sessionStep runtime config)
      (AdmitsTagged (exchangeProtocol runtime config)
        (Held runtime config labels final lasting)) SharedStore.start labels := by
  rcases CommitFrame.admits_along distinct runs with ⟨lasting, admits⟩
  have taken : Machine.Along (sessionStep runtime config)
      (fun _ label => label ∈ labels) SharedStore.start labels :=
    Machine.along_of_forall_mem (fun _ member _ => member) _
  refine ⟨lasting, (admits.and taken).mono ?_⟩
  intro system label both
  rcases both with ⟨admitted, member⟩
  cases label with
  | create creation => exact ⟨admitted, createExchange_earned _ _⟩
  | load session exchangeId task =>
      intro loaded isStored held write planned
      have place := IdentityFrame.exchange_framed.keyOf_eq held.1.1
      apply Earns.keepsTagged ?_ (admitted loaded isStored held.1 write planned)
      cases task with
      | request request => exact request_earns held place member planned
      | work answers => exact worker_earns held place member planned
  | _ => trivial

/-- However submissions, other requests, sweeps and worker runs interleave, an exchange
is stored as complete only with its evidence: a request of this very run has submitted a
presentation to this exchange, and the verifier accepted it under the challenge of the
exchange. A credential was then signed for the holder who had made the proof; of a
presentation that was to be verified, every Open Badges credential has been verified
too, and the stored results show its credentials. -/
theorem complete_was_verified {system : ExchangeSystem}
    (distinct : (labels.filterMap drawnAttemptId).Nodup)
    (runs : Machine.run (sessionStep runtime config) SharedStore.start labels = some system)
    {exchangeId : String} {record : Exchange}
    (isStored : system.stored exchangeId = some record)
    (complete : record.state = .complete) : Evidence runtime config labels record := by
  rcases admitsTagged_along distinct runs with ⟨lasting, admits⟩
  have guarded := guarded_of_run start_guarded admits runs
  exact (guarded.stored exchangeId record isStored).2.evidence complete

end

/-! ### A completed exchange that is written back -/

def badgeWork : Task :=
  .work (Finality.answersFor "" Finality.badge true)

/-- An authorization request puts back the copy that it loaded before the worker was
done, so that another run has to complete the exchange. -/
def completedTwice : List ExchangeLabel :=
  untilRunning ++ [.load 2 "exchange-1" (.request authorizationRequest), .commit 1, .put 2,
    .load 3 "exchange-1" badgeWork, .commit 3, .commit 3]

theorem complete_was_verified_again :
    ∃ system record, Machine.run (sessionStep Finality.badgeRuntime {}) SharedStore.start
        completedTwice = some system ∧
      system.stored "exchange-1" = some record ∧
      Evidence Finality.badgeRuntime {} completedTwice record := by
  have ran : ∃ system record, Machine.run (sessionStep Finality.badgeRuntime {})
      SharedStore.start completedTwice = some system ∧
      system.stored "exchange-1" = some record ∧ record.state = .complete :=
    ⟨_, _, rfl, rfl, rfl⟩
  rcases ran with ⟨system, record, runs, isStored, complete⟩
  exact ⟨system, record, runs, isStored,
    complete_was_verified (by decide) runs isStored complete⟩

end TransactionService.Verdict
