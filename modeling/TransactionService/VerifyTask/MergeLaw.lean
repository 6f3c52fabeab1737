import TransactionService.Foundation.Fallible
import TransactionService.VerifyTask.Worker

namespace TransactionService.MergeLaw

/-! # Folding the Open Badges results into the stored ones

The results of a pass are merged one by one. Every flag ends up as the
conjunction of the flags that concern it, and nothing else moves. -/

abbrev Answered := Nat × CredentialVerificationResult CoreCheckResult

def mergeAll (base : VerificationResult) (answered : List Answered) : VerificationResult :=
  answered.foldl (fun merged entry => mergeOpenBadgesResultsAt merged entry.1 entry.2) base

def verdictsAt (position : Nat) (answered : List Answered) : Bool :=
  (answered.filter fun entry => entry.1 = position).all fun entry => entry.2.verified

def verdictsBelow (length : Nat) (answered : List Answered) : Bool :=
  (answered.filter fun entry => entry.1 < length).all fun entry => entry.2.verified

def flagAt (results : VerificationResult) (position : Nat) : Option Bool :=
  results.credentialResults[position]?.map (·.verified)

/-- The overall flag promises the flag of every credential. -/
def CoversCredentials (results : VerificationResult) : Prop :=
  results.verified = true →
    ∀ credentialResult ∈ results.credentialResults, credentialResult.verified = true

structure Folds (base : VerificationResult) (answered : List Answered)
    (merged : VerificationResult) : Prop where
  verified : merged.verified =
    (base.verified && verdictsBelow base.credentialResults.length answered)
  credential : ∀ position, flagAt merged position =
    (flagAt base position).map (· && verdictsAt position answered)
  untouched : ∀ position, (∀ entry ∈ answered, entry.1 ≠ position) →
    merged.credentialResults[position]? = base.credentialResults[position]?
  length : merged.credentialResults.length = base.credentialResults.length
  claimsValidation : merged.claimsValidation = base.claimsValidation
  issuerValidation : merged.issuerValidation = base.issuerValidation
  matchedCredentials : merged.matchedCredentials = base.matchedCredentials
  covers : CoversCredentials base → CoversCredentials merged

section

variable (base : VerificationResult) (index : Nat)
  (obResult : CredentialVerificationResult CoreCheckResult)

/-! ## One merge -/

theorem merge_of_outOfRange (outside : base.credentialResults.length ≤ index) :
    mergeOpenBadgesResultsAt base index obResult = base := by
  simp [mergeOpenBadgesResultsAt, List.getElem?_eq_none outside]

theorem merge_of_inRange {previous : CredentialVerificationResult CheckResult}
    (found : base.credentialResults[index]? = some previous) :
    mergeOpenBadgesResultsAt base index obResult = { base with
      verified := base.verified && obResult.verified
      credentialResults := base.credentialResults.set index
        (mergeCredentialResult previous obResult) } := by
  simp [mergeOpenBadgesResultsAt, found]

theorem merge_frame :
    (mergeOpenBadgesResultsAt base index obResult).credentialResults.length =
        base.credentialResults.length ∧
      (mergeOpenBadgesResultsAt base index obResult).claimsValidation =
        base.claimsValidation ∧
      (mergeOpenBadgesResultsAt base index obResult).issuerValidation =
        base.issuerValidation ∧
      (mergeOpenBadgesResultsAt base index obResult).matchedCredentials =
        base.matchedCredentials := by
  unfold mergeOpenBadgesResultsAt
  split
  · exact ⟨rfl, rfl, rfl, rfl⟩
  · exact ⟨List.length_set, rfl, rfl, rfl⟩

theorem merge_verified :
    (mergeOpenBadgesResultsAt base index obResult).verified =
      (base.verified && (!decide (index < base.credentialResults.length) ||
        obResult.verified)) := by
  by_cases inside : index < base.credentialResults.length
  · rw [merge_of_inRange base index obResult (List.getElem?_eq_getElem inside)]
    simp [inside]
  · rw [merge_of_outOfRange base index obResult (Nat.le_of_not_lt inside)]
    simp [inside]

theorem merge_elsewhere {position : Nat} (elsewhere : index ≠ position) :
    (mergeOpenBadgesResultsAt base index obResult).credentialResults[position]? =
      base.credentialResults[position]? := by
  unfold mergeOpenBadgesResultsAt
  split
  · rfl
  · exact List.getElem?_set_ne elsewhere

theorem merge_credential (position : Nat) :
    flagAt (mergeOpenBadgesResultsAt base index obResult) position =
      (flagAt base position).map
        (· && (!decide (index = position) || obResult.verified)) := by
  unfold flagAt
  by_cases same : index = position
  · subst same
    cases found : base.credentialResults[index]? with
    | none =>
        have outside := List.getElem?_eq_none_iff.mp found
        rw [merge_of_outOfRange base index obResult outside, found]
        rfl
    | some previous =>
        have inside := (List.getElem?_eq_some_iff.mp found).1
        rw [merge_of_inRange base index obResult found]
        simp [List.getElem?_set_self inside, mergeCredentialResult]
  · rw [merge_elsewhere base index obResult same]
    simp [same, Function.comp_def]

theorem merge_presentCredential (position : Nat) :
    (mergeOpenBadgesResultsAt base index obResult).credentialResults[position]?.bind
        presentCredential =
      base.credentialResults[position]?.bind presentCredential := by
  by_cases same : index = position
  · subst same
    cases found : base.credentialResults[index]? with
    | none =>
        have outside := List.getElem?_eq_none_iff.mp found
        rw [merge_of_outOfRange base index obResult outside, found]
    | some previous =>
        have inside := (List.getElem?_eq_some_iff.mp found).1
        rw [merge_of_inRange base index obResult found, List.getElem?_set_self inside]
        rfl
  · rw [merge_elsewhere base index obResult same]

private theorem merge_covers (covers : CoversCredentials base) :
    CoversCredentials (mergeOpenBadgesResultsAt base index obResult) := by
  intro flag credentialResult member
  rcases List.getElem?_of_mem member with ⟨position, found⟩
  rw [merge_verified, Bool.and_eq_true] at flag
  have merged := merge_credential base index obResult position
  rw [flagAt, flagAt, Option.map_map, found, Option.map_some] at merged
  rcases Option.map_eq_some_iff.mp merged.symm with ⟨previous, wasThere, same⟩
  have inside := (List.getElem?_eq_some_iff.mp wasThere).1
  have before := covers flag.1 previous (List.mem_of_getElem? wasThere)
  rw [← same, Function.comp_apply, before, Bool.true_and]
  by_cases here : index = position
  · subst here
    simpa [inside] using flag.2
  · simp [here]

private theorem merge_comm {other : Nat} (distinct : index ≠ other)
    (otherResult : CredentialVerificationResult CoreCheckResult) :
    mergeOpenBadgesResultsAt (mergeOpenBadgesResultsAt base index obResult) other
        otherResult =
      mergeOpenBadgesResultsAt (mergeOpenBadgesResultsAt base other otherResult) index
        obResult := by
  have atOther := merge_elsewhere base index obResult distinct
  have atIndex := merge_elsewhere base other otherResult distinct.symm
  cases first : base.credentialResults[index]? with
  | none =>
      have outside := List.getElem?_eq_none_iff.mp first
      have stillOutside := List.getElem?_eq_none_iff.mp (atIndex.trans first)
      rw [merge_of_outOfRange base index obResult outside,
        merge_of_outOfRange _ index obResult stillOutside]
  | some previous =>
      cases second : base.credentialResults[other]? with
      | none =>
          have outside := List.getElem?_eq_none_iff.mp second
          have stillOutside := List.getElem?_eq_none_iff.mp (atOther.trans second)
          rw [merge_of_outOfRange base other otherResult outside,
            merge_of_outOfRange _ other otherResult stillOutside]
      | some otherPrevious =>
          rw [merge_of_inRange _ other otherResult (atOther.trans second),
            merge_of_inRange _ index obResult (atIndex.trans first),
            merge_of_inRange base index obResult first,
            merge_of_inRange base other otherResult second]
          simp only [Bool.and_right_comm, List.set_comm _ _ distinct]

end

/-! ## A whole fold -/

private theorem verdictsAt_cons (position : Nat) (entry : Answered) (rest : List Answered) :
    verdictsAt position (entry :: rest) =
      ((!decide (entry.1 = position) || entry.2.verified) && verdictsAt position rest) := by
  by_cases here : entry.1 = position
  · simp [verdictsAt, here]
  · simp [verdictsAt, here]

private theorem verdictsBelow_cons (length : Nat) (entry : Answered) (rest : List Answered) :
    verdictsBelow length (entry :: rest) =
      ((!decide (entry.1 < length) || entry.2.verified) && verdictsBelow length rest) := by
  by_cases inside : entry.1 < length
  · simp [verdictsBelow, inside]
  · simp [verdictsBelow, inside]

theorem mergeAll_folds (base : VerificationResult) (answered : List Answered) :
    Folds base answered (mergeAll base answered) := by
  induction answered generalizing base with
  | nil => exact ⟨by simp [mergeAll, verdictsBelow], fun _ => by simp [mergeAll, verdictsAt],
      fun _ _ => rfl, rfl, rfl, rfl, rfl, id⟩
  | cons entry rest induction =>
      have later := induction (mergeOpenBadgesResultsAt base entry.1 entry.2)
      rcases merge_frame base entry.1 entry.2 with ⟨length, claims, issuers, credentials⟩
      refine {
        verified := ?_
        credential := fun position => ?_
        untouched := fun position absent => ?_
        length := later.length.trans length
        claimsValidation := later.claimsValidation.trans claims
        issuerValidation := later.issuerValidation.trans issuers
        matchedCredentials := later.matchedCredentials.trans credentials
        covers := fun covers => later.covers (merge_covers base entry.1 entry.2 covers) }
      · rw [verdictsBelow_cons, ← Bool.and_assoc, ← merge_verified, ← length]
        exact later.verified
      · refine (later.credential position).trans ?_
        rw [merge_credential, Option.map_map, verdictsAt_cons]
        simp only [Function.comp_def, Bool.and_assoc]
      · rw [← merge_elsewhere base entry.1 entry.2
          (absent entry (List.mem_cons_self ..))]
        exact later.untouched position fun other member =>
          absent other (List.mem_cons_of_mem _ member)

/-! ## The pass of the worker -/

/-- The verifier's answers to numbered calls, up to the first call that fails. -/
def answersTo (answers : Answers) :
    (made : Nat) → List (Nat × VerifyCredentialCall) → Except String (List Answered)
  | _, [] => .ok []
  | made, (index, call) :: rest => do
      let obResult ← answers.verifyCredential made call
      let later ← answersTo answers (made + 1) rest
      return (index, obResult) :: later

section

variable (runtime : Runtime) (config : Config) (answers : Answers)
  (exchange : ExchangeDetailVerify)

/-- The calls of a pass: one for each index at which the results hold a credential. -/
def askedCalls (base : VerificationResult) (indices : List Nat) :
    List (Nat × VerifyCredentialCall) :=
  indices.filterMap fun index =>
    (base.credentialResults[index]?.bind presentCredential).map fun credential =>
      (index, openBadgesCallFor runtime config exchange credential)

theorem askedCalls_merge (base : VerificationResult) (index : Nat)
    (obResult : CredentialVerificationResult CoreCheckResult) (indices : List Nat) :
    askedCalls runtime config exchange (mergeOpenBadgesResultsAt base index obResult)
        indices =
      askedCalls runtime config exchange base indices := by
  unfold askedCalls
  simp only [merge_presentCredential]

theorem askedCalls_absent {base : VerificationResult} {index : Nat}
    (absent : base.credentialResults[index]?.bind presentCredential = none)
    (rest : List Nat) :
    askedCalls runtime config exchange base (index :: rest) =
      askedCalls runtime config exchange base rest := by
  unfold askedCalls
  apply List.filterMap_cons_none
  rw [absent]
  rfl

theorem askedCalls_present {base : VerificationResult} {index : Nat} {credential : Json}
    (present : base.credentialResults[index]?.bind presentCredential = some credential)
    (rest : List Nat) :
    askedCalls runtime config exchange base (index :: rest) =
      (index, openBadgesCallFor runtime config exchange credential) ::
        askedCalls runtime config exchange base rest := by
  unfold askedCalls
  apply List.filterMap_cons_some
  rw [present]
  rfl

/-- A pass merges the answers to its calls one after another, and fails with the first
call that fails. -/
theorem openBadgesPass_result (made : Nat) (base : VerificationResult)
    (indices : List Nat) :
    (openBadgesPass runtime config answers exchange made base indices).result =
      (answersTo answers made (askedCalls runtime config exchange base indices)).map
        (mergeAll base) := by
  induction indices generalizing made base with
  | nil => rfl
  | cons index rest induction =>
      cases present : base.credentialResults[index]?.bind presentCredential with
      | none =>
          simp only [openBadgesPass, present]
          rw [induction, askedCalls_absent runtime config exchange present]
      | some credential =>
          rw [askedCalls_present runtime config exchange present, answersTo]
          simp only [openBadgesPass, present]
          cases answered : answers.verifyCredential made
            (openBadgesCallFor runtime config exchange credential) with
          | error message => rfl
          | ok obResult =>
              rw [Action.bind_ok rfl]
              dsimp only
              rw [induction, askedCalls_merge]
              cases answersTo answers (made + 1)
                (askedCalls runtime config exchange base rest) <;> rfl

theorem openBadgesPass_calls {made : Nat} {base merged : VerificationResult}
    {indices : List Nat}
    (passed : (openBadgesPass runtime config answers exchange made base indices).result =
      .ok merged) :
    (openBadgesPass runtime config answers exchange made base indices).calls =
      (askedCalls runtime config exchange base indices).map (.verifyCredential ·.2) := by
  induction indices generalizing made base with
  | nil => rfl
  | cons index rest induction =>
      cases present : base.credentialResults[index]?.bind presentCredential with
      | none =>
          rw [askedCalls_absent runtime config exchange present]
          simp only [openBadgesPass, present] at passed ⊢
          exact induction passed
      | some credential =>
          rw [askedCalls_present runtime config exchange present]
          simp only [openBadgesPass, present] at passed ⊢
          rcases Action.result_bind passed with ⟨obResult, answered, continued⟩
          rw [Action.bind_ok answered]
          dsimp only
          rw [induction continued, askedCalls_merge]
          rfl

theorem openBadgesPass_mergeAll {made : Nat} {base merged : VerificationResult}
    {indices : List Nat}
    (passed : (openBadgesPass runtime config answers exchange made base indices).result =
      .ok merged) :
    ∃ answered, answersTo answers made (askedCalls runtime config exchange base indices) =
        .ok answered ∧ merged = mergeAll base answered := by
  rw [openBadgesPass_result] at passed
  cases answered : answersTo answers made
      (askedCalls runtime config exchange base indices) with
  | error message =>
      rw [answered] at passed
      cases passed
  | ok results =>
      rw [answered] at passed
      cases passed
      exact ⟨results, rfl, rfl⟩

private theorem answersTo_positions {made : Nat} {calls : List (Nat × VerifyCredentialCall)}
    {answered : List Answered} (isAnswered : answersTo answers made calls = .ok answered) :
    answered.map Prod.fst = calls.map Prod.fst := by
  induction calls generalizing made answered with
  | nil =>
      cases isAnswered
      rfl
  | cons asked rest induction =>
      rcases Fallible.bind_eq_ok.mp isAnswered with ⟨obResult, -, afterFirst⟩
      rcases Fallible.bind_eq_ok.mp afterFirst with ⟨later, isLater, returned⟩
      cases returned
      rw [List.map_cons, List.map_cons, induction isLater]

/-- A run whose pass finishes, and whose writes are accepted, stores the merged
results. -/
theorem processVerifyTask_merges {task : VerifyTask} {base merged : VerificationResult}
    (hasTask : exchange.vars.verifyTask = some task)
    (unsettled : task.status.isTerminal = false) (hasBase : exchange.vars.results = some base)
    (passed : (openBadgesPass runtime config answers exchange 0 base
      task.openBadgesCredentialIndices).result = .ok merged)
    (first : answers.accepted 0 = true) (second : answers.accepted 1 = true) :
    (processVerifyTask runtime config answers (some (.verify exchange))).saved =
      some (.verify (settledExchange exchange task merged)) := by
  rw [processVerifyTask_eq runtime config answers hasTask unsettled]
  simp only [first, second, if_true, planFor, hasBase, passed]

/-- The fold law: what every list of answers makes of the results, that a pass folds in
the verifier's own answers to its calls, which a run of the worker then stores, and the
order and the range of single merges. -/
theorem merge_fold_law (base : VerificationResult) :
    (∀ answered, Folds base answered (mergeAll base answered)) ∧
    (∀ made indices,
      (openBadgesPass runtime config answers exchange made base indices).result =
        (answersTo answers made (askedCalls runtime config exchange base indices)).map
          (mergeAll base)) ∧
    (∀ made indices merged,
      (openBadgesPass runtime config answers exchange made base indices).result =
        .ok merged →
      (openBadgesPass runtime config answers exchange made base indices).calls =
        (askedCalls runtime config exchange base indices).map (.verifyCredential ·.2) ∧
      ∃ answered,
        answersTo answers made (askedCalls runtime config exchange base indices) =
          .ok answered ∧
        answered.map Prod.fst =
          (askedCalls runtime config exchange base indices).map Prod.fst ∧
        Folds base answered merged) ∧
    (∀ task merged, exchange.vars.verifyTask = some task →
      task.status.isTerminal = false → exchange.vars.results = some base →
      (openBadgesPass runtime config answers exchange 0 base
        task.openBadgesCredentialIndices).result = .ok merged →
      answers.accepted 0 = true → answers.accepted 1 = true →
      (processVerifyTask runtime config answers (some (.verify exchange))).saved =
        some (.verify (settledExchange exchange task merged))) ∧
    (∀ (left right : Answered), left.1 ≠ right.1 →
      mergeAll base [left, right] = mergeAll base [right, left]) ∧
    (∀ index obResult, base.credentialResults.length ≤ index →
      mergeOpenBadgesResultsAt base index obResult = base) := by
  refine ⟨mergeAll_folds base, ?_, ?_, ?_, ?_, ?_⟩
  · intro made indices
    exact openBadgesPass_result runtime config answers exchange made base indices
  · intro made indices merged passed
    rcases openBadgesPass_mergeAll runtime config answers exchange passed with
      ⟨answered, isAnswered, rfl⟩
    exact ⟨openBadgesPass_calls runtime config answers exchange passed, answered, isAnswered,
      answersTo_positions answers isAnswered, mergeAll_folds base answered⟩
  · intro task merged hasTask unsettled hasBase passed first second
    exact processVerifyTask_merges runtime config answers exchange hasTask unsettled hasBase
      passed first second
  · intro left right distinct
    exact merge_comm base left.1 left.2 distinct right.2
  · intro index obResult outside
    exact merge_of_outOfRange base index obResult outside

end

end TransactionService.MergeLaw
