import TransactionService.VerifyTask.MergeLaw

namespace TransactionService.MergePolicies

/-! # What the two merge policies do to a credential result

Summaries are merged with the stored one winning, checks with the incoming
registry checks winning. What a summary says of its checks, and what the flag
says of all of them, survives only where the two policies agree. -/

/-! ## Checks and the summary they belong to -/

/-- An id belongs to a summary as `failureDetail` has it. -/
def belongsTo (summary : SuiteSummary) (id : String) : Bool :=
  id == summary.id || Text.startsWith (summary.id ++ ".") id

/-- `ui/verification/helpers.ts`: the checks that belong to a summary. -/
def failureDetail (credentialResult : CredentialVerificationResult CheckResult)
    (summary : SuiteSummary) : List CheckResult :=
  credentialResult.results.filter fun check => belongsTo summary check.id

def isQuiet (summary : SuiteSummary) : Bool :=
  summary.status == "success" || summary.status == "skipped"

def Coherent (credentialResult : CredentialVerificationResult CheckResult) : Prop :=
  ∀ summary ∈ credentialResult.summary, isQuiet summary = true →
    ∀ check ∈ failureDetail credentialResult summary, check.outcome.isFailure = false

/-- The same of a result of verifier-core, where a check without an id belongs
to no summary. -/
def CoreCoherent (obResult : CredentialVerificationResult CoreCheckResult) : Prop :=
  ∀ summary ∈ obResult.summary, isQuiet summary = true →
    ∀ check ∈ obResult.results, ∀ id, check.id = some id → belongsTo summary id = true →
      check.outcome.isFailure = false

/-! ## What a merge keeps -/

def keepsStored (check : CheckResult) : Bool :=
  !isTrustRegistryCheck check

def keepsIncoming (existing : List CheckResult) (check : CheckResult) : Bool :=
  isTrustRegistryCheck check || !((existing.filter keepsStored).map (·.id)).contains check.id

private theorem mem_mergeResults {existing incoming : List CheckResult} {check : CheckResult} :
    check ∈ mergeResults existing incoming ↔
      (check ∈ existing ∧ keepsStored check = true) ∨
        (check ∈ incoming ∧ keepsIncoming existing check = true) := by
  unfold mergeResults keepsIncoming
  cases isRegistry : isTrustRegistryCheck check with
  | false =>
      simp [List.mem_append, List.mem_filter, isRegistry, keepsStored]
  | true =>
      simp [List.mem_append, List.mem_filter, isRegistry, keepsStored]

def addedSummaries (prev : CredentialVerificationResult CheckResult)
    (obResult : CredentialVerificationResult CoreCheckResult) : List SuiteSummary :=
  unseenSummaries (prev.summary.map (·.id)) obResult.summary

private theorem mem_of_mem_unseenSummaries {seen : List String} {incoming : List SuiteSummary}
    {summary : SuiteSummary} (unseen : summary ∈ unseenSummaries seen incoming) :
    summary ∈ incoming := by
  induction incoming generalizing seen with
  | nil => cases unseen
  | cons first rest induction =>
      unfold unseenSummaries at unseen
      split at unseen
      · exact List.mem_cons_of_mem _ (induction unseen)
      · rcases List.mem_cons.mp unseen with rfl | later
        · exact List.mem_cons_self
        · exact List.mem_cons_of_mem _ (induction later)

private theorem openBadgesCheckResult_id {check : CoreCheckResult} {id : String}
    (own : Text.given check.id = some id) :
    check.id = some id ∧ (openBadgesCheckResult check).id = id := by
  refine ⟨(Option.filter_eq_some_iff.mp own).1, ?_⟩
  simp [openBadgesCheckResult, own]

section

variable (prev : CredentialVerificationResult CheckResult)
  (obResult : CredentialVerificationResult CoreCheckResult)

theorem forall_mergedResults (property : CheckResult → Prop) :
    (∀ check ∈ (mergeCredentialResult prev obResult).results, property check) ↔
      (∀ check ∈ prev.results, keepsStored check = true → property check) ∧
      (∀ check ∈ obResult.results,
        keepsIncoming prev.results (openBadgesCheckResult check) = true →
          property (openBadgesCheckResult check)) := by
  simp only [mergeCredentialResult, mem_mergeResults, List.mem_map]
  constructor
  · intro holds
    exact ⟨fun check member kept => holds check (.inl ⟨member, kept⟩),
      fun check member kept => holds _ (.inr ⟨⟨check, member, rfl⟩, kept⟩)⟩
  · rintro ⟨stored, incoming⟩ check (⟨member, kept⟩ | ⟨⟨core, member, rfl⟩, kept⟩)
    · exact stored check member kept
    · exact incoming core member kept

/-! ## Coherence -/

/-- The two policies agree about every suite that reports no failure. -/
structure SuitesAgree : Prop where
  /-- No incoming failure belongs to a suite stored as quiet. -/
  stored : ∀ summary ∈ prev.summary, isQuiet summary = true →
    ∀ check ∈ obResult.results,
      keepsIncoming prev.results (openBadgesCheckResult check) = true →
      check.outcome.isFailure = true →
      belongsTo summary (openBadgesCheckResult check).id = false
  /-- No stored failure belongs to a quiet suite that only the incoming result has. -/
  added : ∀ summary ∈ addedSummaries prev obResult, isQuiet summary = true →
    ∀ check ∈ prev.results, keepsStored check = true →
      check.outcome.isFailure = true → belongsTo summary check.id = false
  /-- No incoming failure without an id is given one of an added quiet suite. -/
  named : ∀ summary ∈ addedSummaries prev obResult, isQuiet summary = true →
    ∀ check ∈ obResult.results,
      keepsIncoming prev.results (openBadgesCheckResult check) = true →
      check.outcome.isFailure = true → Text.given check.id = none →
      belongsTo summary (openBadgesCheckResult check).id = false

def QuietAbout (summary : SuiteSummary) (check : CheckResult) : Prop :=
  check.outcome.isFailure = true → belongsTo summary check.id = false

theorem coherent_iff (credentialResult : CredentialVerificationResult CheckResult) :
    Coherent credentialResult ↔
      ∀ summary ∈ credentialResult.summary, isQuiet summary = true →
        ∀ check ∈ credentialResult.results, QuietAbout summary check := by
  unfold Coherent failureDetail QuietAbout
  constructor
  · intro coherent summary member quiet check found failed
    by_contra belongs
    have belongs : belongsTo summary check.id = true := eq_true_of_ne_false belongs
    have passed := coherent summary member quiet check (List.mem_filter.mpr ⟨found, belongs⟩)
    exact absurd (failed.symm.trans passed) (by decide)
  · intro quietAbout summary member quiet check kept
    rcases List.mem_filter.mp kept with ⟨found, belongs⟩
    by_contra failed
    have other := quietAbout summary member quiet check found (eq_true_of_ne_false failed)
    exact absurd (belongs.symm.trans other) (by decide)

theorem CoreCoherent.quietAbout {obResult : CredentialVerificationResult CoreCheckResult}
    (coherent : CoreCoherent obResult) {summary : SuiteSummary}
    (member : summary ∈ obResult.summary) (quiet : isQuiet summary = true)
    {check : CoreCheckResult} (found : check ∈ obResult.results) {id : String}
    (own : Text.given check.id = some id) :
    QuietAbout summary (openBadgesCheckResult check) := by
  intro failed
  rcases openBadgesCheckResult_id own with ⟨hasId, storedId⟩
  by_contra belongs
  rw [storedId] at belongs
  have passed := coherent summary member quiet check found id hasId
    (eq_true_of_ne_false belongs)
  exact absurd (failed.symm.trans passed) (by decide)

variable {prev obResult}

theorem mergeCredentialResult_coherent_iff (storedCoherent : Coherent prev)
    (coreCoherent : CoreCoherent obResult) :
    Coherent (mergeCredentialResult prev obResult) ↔ SuitesAgree prev obResult := by
  have summaries : (mergeCredentialResult prev obResult).summary =
      prev.summary ++ addedSummaries prev obResult := rfl
  rw [coherent_iff, summaries]
  simp only [forall_mergedResults]
  constructor
  · intro quietAbout
    have ofStored := fun summary member => quietAbout summary (List.mem_append_left _ member)
    have ofAdded := fun summary member => quietAbout summary (List.mem_append_right _ member)
    exact {
      stored := fun summary member quiet => (ofStored summary member quiet).2
      added := fun summary member quiet => (ofAdded summary member quiet).1
      named := fun summary member quiet check found kept failed _ =>
        (ofAdded summary member quiet).2 check found kept failed }
  · intro agree summary member quiet
    rcases List.mem_append.mp member with stored | added
    · have before := (coherent_iff prev).mp storedCoherent summary stored quiet
      exact ⟨fun check found _ => before check found, agree.stored summary stored quiet⟩
    · refine ⟨agree.added summary added quiet, ?_⟩
      intro check found kept
      cases own : Text.given check.id with
      | none => exact fun failed => agree.named summary added quiet check found kept failed own
      | some id =>
          exact coreCoherent.quietAbout (mem_of_mem_unseenSummaries added) quiet found own

/-! ## The flag -/

def isFatalFailure (outcome : CheckOutcome) (fatal : Option Bool) : Bool :=
  outcome.isFailure && fatal == some true

def Explained (credentialResult : CredentialVerificationResult CheckResult) : Prop :=
  credentialResult.verified = false ↔
    ∃ check ∈ credentialResult.results, isFatalFailure check.outcome check.fatal = true

def CoreExplained (obResult : CredentialVerificationResult CoreCheckResult) : Prop :=
  obResult.verified = false ↔
    ∃ check ∈ obResult.results, isFatalFailure check.outcome check.fatal = true

/-- The fatal failures of the two results are not all among the checks that the
merge drops. -/
def KeepsAFatalFailure (prev : CredentialVerificationResult CheckResult)
    (obResult : CredentialVerificationResult CoreCheckResult) : Prop :=
  (∃ check ∈ prev.results, keepsStored check = true ∧
      isFatalFailure check.outcome check.fatal = true) ∨
    (∃ check ∈ obResult.results,
      keepsIncoming prev.results (openBadgesCheckResult check) = true ∧
        isFatalFailure check.outcome check.fatal = true)

def NoFatalFailure (prev : CredentialVerificationResult CheckResult)
    (obResult : CredentialVerificationResult CoreCheckResult) : Prop :=
  (∀ check ∈ prev.results, isFatalFailure check.outcome check.fatal = false) ∧
    (∀ check ∈ obResult.results, isFatalFailure check.outcome check.fatal = false)

theorem fatalFailure_merged_iff :
    (∃ check ∈ (mergeCredentialResult prev obResult).results,
      isFatalFailure check.outcome check.fatal = true) ↔
      KeepsAFatalFailure prev obResult := by
  have all := forall_mergedResults prev obResult
    fun check => ¬ isFatalFailure check.outcome check.fatal = true
  constructor
  · intro some
    by_contra dropped
    have noneKept := not_or.mp dropped
    rcases some with ⟨check, member, fatal⟩
    refine all.mpr ⟨?_, ?_⟩ check member fatal
    · exact fun stored found kept failed => noneKept.1 ⟨stored, found, kept, failed⟩
    · exact fun core found kept failed => noneKept.2 ⟨core, found, kept, failed⟩
  · intro kept
    by_contra absent
    have noneLeft := all.mp fun check member fatal => absent ⟨check, member, fatal⟩
    rcases kept with ⟨check, found, kept, fatal⟩ | ⟨check, found, kept, fatal⟩
    · exact noneLeft.1 check found kept fatal
    · exact noneLeft.2 check found kept fatal

theorem KeepsAFatalFailure.not_verified (storedExplained : Explained prev)
    (coreExplained : CoreExplained obResult) (kept : KeepsAFatalFailure prev obResult) :
    (mergeCredentialResult prev obResult).verified = false := by
  rw [mergeCredentialResult, Bool.and_eq_false_iff]
  rcases kept with ⟨check, found, -, fatal⟩ | ⟨check, found, -, fatal⟩
  · exact .inl (storedExplained.mpr ⟨check, found, fatal⟩)
  · exact .inr (coreExplained.mpr ⟨check, found, fatal⟩)

theorem verified_merged_iff (storedExplained : Explained prev)
    (coreExplained : CoreExplained obResult) :
    (mergeCredentialResult prev obResult).verified = true ↔ NoFatalFailure prev obResult := by
  have stored : prev.verified = true ↔
      ∀ check ∈ prev.results, isFatalFailure check.outcome check.fatal = false := by
    rw [← Bool.not_eq_false, not_congr storedExplained]
    simp
  have incoming : obResult.verified = true ↔
      ∀ check ∈ obResult.results, isFatalFailure check.outcome check.fatal = false := by
    rw [← Bool.not_eq_false, not_congr coreExplained]
    simp
  rw [mergeCredentialResult, Bool.and_eq_true, stored, incoming]
  rfl

theorem mergeCredentialResult_explained_iff (storedExplained : Explained prev)
    (coreExplained : CoreExplained obResult) :
    Explained (mergeCredentialResult prev obResult) ↔
      KeepsAFatalFailure prev obResult ∨ NoFatalFailure prev obResult := by
  have verified := verified_merged_iff storedExplained coreExplained
  rw [Explained, fatalFailure_merged_iff]
  constructor
  · intro explained
    cases flag : (mergeCredentialResult prev obResult).verified with
    | false => exact .inl (explained.mp flag)
    | true => exact .inr (verified.mp flag)
  · rintro (kept | noFatal)
    · exact iff_of_true (kept.not_verified storedExplained coreExplained) kept
    · have passed := verified.mpr noFatal
      refine ⟨fun failed => absurd (passed.symm.trans failed) (by decide), ?_⟩
      intro kept
      have failed := kept.not_verified storedExplained coreExplained
      exact absurd (passed.symm.trans failed) (by decide)

end

/-! ## The result at an index -/

section

variable (base : VerificationResult) (index : Nat)
  (obResult : CredentialVerificationResult CoreCheckResult)

def Produces (property : CredentialVerificationResult CheckResult → Prop) : Prop :=
  ∃ produced, (mergeOpenBadgesResultsAt base index obResult).credentialResults[index]? =
    some produced ∧ property produced

variable {base index}

theorem produces_iff {prev : CredentialVerificationResult CheckResult}
    (found : base.credentialResults[index]? = some prev)
    (property : CredentialVerificationResult CheckResult → Prop) :
    Produces base index obResult property ↔
      property (mergeCredentialResult prev obResult) := by
  have inside := (List.getElem?_eq_some_iff.mp found).1
  rw [Produces, MergeLaw.merge_of_inRange base index obResult found,
    List.getElem?_set_self inside]
  simp

/-- Summaries stay coherent with the checks exactly when the two merge policies
agree about the quiet suites. -/
theorem merge_coherent_iff {prev : CredentialVerificationResult CheckResult}
    (found : base.credentialResults[index]? = some prev)
    (storedCoherent : Coherent prev) (coreCoherent : CoreCoherent obResult) :
    Produces base index obResult Coherent ↔ SuitesAgree prev obResult :=
  (produces_iff obResult found Coherent).trans
    (mergeCredentialResult_coherent_iff storedCoherent coreCoherent)

def registeredResult : CredentialVerificationResult CheckResult where
  verified := true
  verifiableCredential := some (.obj [])
  results := [{
    id := "trust.registry.issuer-registered"
    outcome := .success "issuer registered" none none }]
  summary := [{ id := "trust.registry", status := "success" }]

def unregisteredBadge : CredentialVerificationResult CoreCheckResult where
  verified := false
  verifiableCredential := some (.obj [])
  results := [{
    id := some "trust.registry.issuer-registered"
    outcome := .failure [{
      type := "registry", title := "Issuer not registered", detail := "not found" }]
    fatal := some true }]
  summary := [{ id := "trust.registry", status := "failure" }]

def resultsOf (credentialResult : CredentialVerificationResult CheckResult) :
    VerificationResult where
  verified := credentialResult.verified
  presentationResults := []
  credentialResults := [credentialResult]
  matchedCredentials := []
  summary := []

/-- The incoming registry check replaces the stored one, the incoming summary
does not: the suite is left successful with a failed check. -/
theorem stale_registry_summary :
    Coherent registeredResult ∧ CoreCoherent unregisteredBadge ∧
      ¬ Produces (resultsOf registeredResult) 0 unregisteredBadge Coherent := by
  refine ⟨?_, ?_, ?_⟩
  · unfold Coherent
    decide
  · intro summary member quiet
    rw [List.mem_singleton.mp member] at quiet
    exact absurd quiet (by decide)
  · rintro ⟨produced, found, coherent⟩
    cases found
    have quietSummary := coherent { id := "trust.registry", status := "success" }
      List.mem_cons_self (by decide)
    exact absurd (quietSummary _ (List.mem_singleton.mpr rfl)) (by decide)

def wellFormedBadge : CredentialVerificationResult CoreCheckResult where
  verified := true
  verifiableCredential := some (.obj [])
  results := [{
    id := some "openbadges.structure.achievement"
    outcome := .success "The achievement is complete" none none }]
  summary := [{ id := "openbadges.structure", status := "success" }]

private theorem wellFormedBadge_coherent : CoreCoherent wellFormedBadge := by
  intro summary _ _ check member id _ _
  cases List.mem_singleton.mp member
  rfl

theorem merge_coherent_plain :
    Produces (resultsOf registeredResult) 0 wellFormedBadge Coherent ↔
      SuitesAgree registeredResult wellFormedBadge :=
  merge_coherent_iff _ rfl (by unfold Coherent; decide) wellFormedBadge_coherent

/-- A false flag has a fatal failure to show, and a true one has none, exactly
when the merge does not drop every fatal failure. -/
theorem merge_explained_iff {prev : CredentialVerificationResult CheckResult}
    (found : base.credentialResults[index]? = some prev)
    (storedExplained : Explained prev) (coreExplained : CoreExplained obResult) :
    Produces base index obResult Explained ↔
      KeepsAFatalFailure prev obResult ∨ NoFatalFailure prev obResult :=
  (produces_iff obResult found Explained).trans
    (mergeCredentialResult_explained_iff storedExplained coreExplained)

def unregisteredResult : CredentialVerificationResult CheckResult where
  verified := false
  verifiableCredential := some (.obj [])
  results := [{
    id := "trust.registry.issuer-registered"
    outcome := .failure [{
      type := "registry", title := "Issuer not registered", detail := "not found" }]
    fatal := some true }]

def passedBadge : CredentialVerificationResult CoreCheckResult where
  verified := true
  verifiableCredential := some (.obj [])
  results := []

/-- The failed registry check is dropped and the false flag stays. -/
theorem unexplained_failure :
    Explained unregisteredResult ∧ CoreExplained passedBadge ∧
      ¬ Produces (resultsOf unregisteredResult) 0 passedBadge Explained := by
  refine ⟨?_, ?_, ?_⟩
  · simp [Explained, unregisteredResult, isFatalFailure, CheckOutcome.isFailure]
  · simp [CoreExplained, passedBadge]
  · rintro ⟨produced, found, explained⟩
    cases found
    rcases explained.mp rfl with ⟨check, member, -⟩
    cases member

theorem merge_explained_plain :
    Produces (resultsOf unregisteredResult) 0 passedBadge Explained ↔
      KeepsAFatalFailure unregisteredResult passedBadge ∨
        NoFatalFailure unregisteredResult passedBadge :=
  merge_explained_iff _ rfl
    (by simp [Explained, unregisteredResult, isFatalFailure, CheckOutcome.isFailure])
    (by simp [CoreExplained, passedBadge])

end

end TransactionService.MergePolicies
