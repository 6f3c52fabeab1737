import TransactionService.DidAuth
import TransactionService.Workflows.VerifySubmission

namespace TransactionService.SignedContent

/-! # What the compatibility fixes hand to the verifier

Signatures are checked over the presentation that comes out of the fixes. It is
the posted one, but for a context that its own proof declares. -/

def Mentions (value : Json) (name text : String) : Prop :=
  value.field name = some (.str text) ∨
    ∃ items, value.field name = some (.arr items) ∧ .str text ∈ items

theorem includesText_field {value : Json} {name text : String} :
    Json.includesText (optionalArrayOf (value.field name)) text = true ↔
      Mentions value name text := by
  rw [Json.includesText_iff]
  unfold Mentions
  constructor
  · intro included
    cases found : value.field name with
    | none => simp [found, optionalArrayOf] at included
    | some member =>
        rw [found] at included
        cases member with
        | arr items => exact .inr ⟨items, rfl, included⟩
        | _ => exact .inl (congrArg some (List.mem_singleton.mp included).symm)
  · rintro (isText | ⟨items, isList, member⟩)
    · simp [isText, optionalArrayOf, Json.arrayOf]
    · simpa [isList, optionalArrayOf, Json.arrayOf] using member

/-- The suite context is declared by a proof of the suite, and not by the
presentation. -/
structure OnlyProofDeclares (presentation : Json) : Prop where
  proof : ∃ members, presentation.field "proof" = some (.obj members) ∧
    Mentions (.obj members) "type" "Ed25519Signature2020" ∧
    Mentions (.obj members) "@context" suiteContextUrl
  undeclared : ¬ Mentions presentation "@context" suiteContextUrl

def HasEntry (id : String) (log : List CheckResult) : Prop :=
  ∃ entry ∈ log, entry.id = id

def contextEntryId : String := "compat.verifiable-entity.ed25519-signature-2020-context"

def wrapEntryId : String := "compat.vcalm-participation-message.wrap-bare-presentation"

theorem contextEntry_id (message : String) :
    (compatibilityCheckResult "verifiable-entity:ed25519-signature-2020-context" message).id =
      contextEntryId := by
  change "compat." ++ _ = _
  decide

/-- A message inside a presentation, which unwrapping would find. -/
def CarriesAnother (presentation : Json) : Prop :=
  ∃ inner, presentation.field "verifiablePresentation" = some inner ∧ inner ≠ .null

theorem presentationOf_eq_self {message : Json} (bare : ¬ CarriesAnother message) :
    presentationOf message = message := by
  apply presentationOf_of_carriesNone
  cases found : message.field "verifiablePresentation" with
  | none => exact .inl rfl
  | some inner =>
      have isNull : inner = .null := by
        by_contra present
        exact bare ⟨inner, found, present⟩
      exact .inr (congrArg some isNull)

section

variable (runtime : Runtime)

structure ContextAdded (presentation : Json) : Prop where
  enabled : compatFlagEnabled runtime "COMPAT_ED25519_SIGNATURE_2020_CONTEXT" true = true
  onlyProof : OnlyProofDeclares presentation

structure Wrapped (body : Json) : Prop where
  enabled : compatFlagEnabled runtime "COMPAT_WRAP_BARE_PRESENTATION" true = true
  bare : body.field "verifiablePresentation" = none
  hasContext : body.field "@context" ≠ none

/-! ## One fix -/

theorem wrapBarePresentation_cases (body : Json) :
    (¬ Wrapped runtime body ∧ (wrapBarePresentation runtime body).log = []) ∨
      (Wrapped runtime body ∧ ∃ entry, (wrapBarePresentation runtime body).log = [entry] ∧
        entry.id = wrapEntryId) := by
  unfold wrapBarePresentation
  split
  · rename_i disabled
    refine .inl ⟨fun wrapped => ?_, rfl⟩
    simp [wrapped.enabled] at disabled
  · rename_i enabled
    split
    · rename_i carries
      refine .inl ⟨fun wrapped => ?_, rfl⟩
      simp [wrapped.bare] at carries
    · rename_i bare
      split
      · rename_i noContext
        exact .inl ⟨fun wrapped => wrapped.hasContext (Option.isNone_iff_eq_none.mp noContext), rfl⟩
      · rename_i hasContext
        refine .inr ⟨⟨by simpa using enabled, by simpa using bare, by simpa using hasContext⟩,
          _, rfl, ?_⟩
        decide

private theorem wrapBarePresentation_log (body : Json) :
    HasEntry wrapEntryId (wrapBarePresentation runtime body).log ↔ Wrapped runtime body := by
  rcases wrapBarePresentation_cases runtime body with
    ⟨unwrapped, isLog⟩ | ⟨wrapped, entry, isLog, isWrapEntry⟩
  · rw [isLog]
    refine iff_of_false ?_ unwrapped
    rintro ⟨_, nothing, -⟩
    cases nothing
  · rw [isLog]
    exact iff_of_true ⟨entry, List.mem_singleton_self _, isWrapEntry⟩ wrapped

private theorem wrapBarePresentation_noContextEntry (body : Json) :
    ¬ HasEntry contextEntryId (wrapBarePresentation runtime body).log := by
  rintro ⟨found, member, isContextEntry⟩
  rcases wrapBarePresentation_cases runtime body with
    ⟨-, isLog⟩ | ⟨-, entry, isLog, isWrapEntry⟩
  · rw [isLog] at member
    cases member
  · rw [isLog] at member
    rw [List.mem_singleton.mp member, isWrapEntry] at isContextEntry
    revert isContextEntry
    decide

theorem ed25519Signature2020Context_added {entity : Json}
    (added : ContextAdded runtime entity) :
    (∃ message, (ed25519Signature2020Context runtime entity).log =
        [compatibilityCheckResult "verifiable-entity:ed25519-signature-2020-context" message]) ∧
      (ed25519Signature2020Context runtime entity).result.field "@context" =
        some (.arr (optionalArrayOf (entity.field "@context") ++ [.str suiteContextUrl])) := by
  rcases added with ⟨enabled, ⟨members, hasProof, hasType, declares⟩, undeclared⟩
  unfold ed25519Signature2020Context
  rw [if_neg (by simp [enabled]), hasProof]
  dsimp only
  rw [if_neg (by simp [Json.isTruthy]), includesText_field.mpr hasType,
    includesText_field.mpr declares, if_neg (by decide), if_neg (by decide),
    if_neg (fun included => undeclared (includesText_field.mp included))]
  refine ⟨⟨_, rfl⟩, ?_⟩
  cases entity with
  | obj entityMembers => exact Json.field_withField_self ..
  | _ => cases hasProof

theorem ed25519Signature2020Context_skipped {entity : Json}
    (skipped : ¬ ContextAdded runtime entity) :
    ed25519Signature2020Context runtime entity = { result := entity, log := [] } := by
  unfold ed25519Signature2020Context
  dsimp only
  split
  · rfl
  · rename_i enabled
    split
    · rfl
    · rename_i proof hasProof
      split
      · rfl
      · split
        · rfl
        · rename_i hasType
          split
          · rfl
          · rename_i declares
            split
            · rfl
            · rename_i undeclared
              refine absurd ⟨by simpa using enabled, ?_, ?_⟩ skipped
              · cases proof with
                | obj members =>
                    refine ⟨members, hasProof, ?_, ?_⟩
                    · exact includesText_field.mp (by simpa using hasType)
                    · exact includesText_field.mp (by simpa using declares)
                | _ => simp [Json.field, optionalArrayOf, Json.includesText] at hasType
              · exact fun mentions => undeclared (includesText_field.mpr mentions)

/-! ## Both fixes -/

theorem chainFixes_singleton (input : Json) (fix : Json → CompatibilityResult) :
    chainFixes input [fix] = fix input := by
  simp [chainFixes]

theorem preparePresentation_eq (body : Json) :
    preparePresentation runtime body = {
      result := (ed25519Signature2020Context runtime (presentationOf body)).result
      log := (wrapBarePresentation runtime body).log ++
        (ed25519Signature2020Context runtime (presentationOf body)).log } := by
  unfold preparePresentation
  dsimp only
  rw [presentationOf_prepareVcalmParticipationMessage]
  simp only [prepareVcalmParticipationMessage, prepareVerifiableEntity, chainFixes_singleton]

theorem hasEntry_append {id : String} {left right : List CheckResult} :
    HasEntry id (left ++ right) ↔ HasEntry id left ∨ HasEntry id right := by
  simp [HasEntry, or_and_right, exists_or]

theorem preparePresentation_contextEntry (body : Json) :
    HasEntry contextEntryId (preparePresentation runtime body).log ↔
      ContextAdded runtime (presentationOf body) := by
  rw [preparePresentation_eq, hasEntry_append]
  by_cases added : ContextAdded runtime (presentationOf body)
  · rcases (ed25519Signature2020Context_added runtime added).1 with ⟨message, isLog⟩
    refine iff_of_true (.inr ?_) added
    rw [isLog]
    exact ⟨_, List.mem_singleton_self _, contextEntry_id message⟩
  · refine iff_of_false ?_ added
    rw [ed25519Signature2020Context_skipped runtime added]
    rintro (inWrap | ⟨_, nothing, -⟩)
    · exact wrapBarePresentation_noContextEntry runtime body inWrap
    · cases nothing

private theorem preparePresentation_wrapEntry (body : Json) :
    HasEntry wrapEntryId (preparePresentation runtime body).log ↔ Wrapped runtime body := by
  rw [preparePresentation_eq, hasEntry_append, wrapBarePresentation_log]
  constructor
  · rintro (wrapped | ⟨entry, member, isWrapEntry⟩)
    · exact wrapped
    · exfalso
      by_cases added : ContextAdded runtime (presentationOf body)
      · rcases (ed25519Signature2020Context_added runtime added).1 with ⟨message, isLog⟩
        rw [isLog] at member
        rw [List.mem_singleton.mp member, contextEntry_id] at isWrapEntry
        exact absurd isWrapEntry (by decide)
      · rw [ed25519Signature2020Context_skipped runtime added] at member
        cases member
  · exact .inl

structure HandsOn (body presentation : Json) (log : List CheckResult) : Prop where
  members : ∀ name, name ≠ "@context" →
    presentation.field name = (presentationOf body).field name
  unchanged : ¬ ContextAdded runtime (presentationOf body) →
    presentation = presentationOf body
  context : ContextAdded runtime (presentationOf body) →
    presentation.field "@context" = some (.arr
      (optionalArrayOf ((presentationOf body).field "@context") ++ [.str suiteContextUrl]))
  differs : presentation.field "@context" ≠ (presentationOf body).field "@context" ↔
    ContextAdded runtime (presentationOf body)
  contextEntry : HasEntry contextEntryId log ↔
    presentation.field "@context" ≠ (presentationOf body).field "@context"
  wrapEntry : HasEntry wrapEntryId log ↔ Wrapped runtime body
  again : (preparePresentation runtime presentation).result = presentation ↔
    ¬ CarriesAnother presentation
  quiet : ¬ CarriesAnother presentation →
    ¬ HasEntry contextEntryId (preparePresentation runtime presentation).log

private theorem contextAdded_once (entity : Json) :
    ¬ ContextAdded runtime (ed25519Signature2020Context runtime entity).result := by
  by_cases added : ContextAdded runtime entity
  · intro again
    apply again.onlyProof.undeclared
    exact .inr ⟨_, (ed25519Signature2020Context_added runtime added).2, by simp⟩
  · rwa [ed25519Signature2020Context_skipped runtime added]

theorem again_iff {presentation : Json} (settled : ¬ ContextAdded runtime presentation) :
    (preparePresentation runtime presentation).result = presentation ↔
      ¬ CarriesAnother presentation := by
  constructor
  · rintro same ⟨inner, found, present⟩
    have unwrapped : presentationOf presentation = inner := by
      rw [presentationOf, found, Json.orElse_some present]
    have kept := preparePresentation_field runtime
      (show "verifiablePresentation" ≠ "@context" by decide) presentation
    rw [same, unwrapped, found] at kept
    exact Nat.lt_irrefl _ (Json.sizeOf_field_lt kept.symm)
  · intro bare
    rw [preparePresentation_eq, presentationOf_eq_self bare,
      ed25519Signature2020Context_skipped runtime settled]

theorem preparePresentation_handsOn (body : Json) :
    HandsOn runtime body (preparePresentation runtime body).result
      (preparePresentation runtime body).log := by
  have isFixed : (preparePresentation runtime body).result =
      (ed25519Signature2020Context runtime (presentationOf body)).result := by
    rw [preparePresentation_eq]
  have settled : ¬ ContextAdded runtime (preparePresentation runtime body).result := by
    rw [isFixed]
    exact contextAdded_once runtime _
  have unchanged : ¬ ContextAdded runtime (presentationOf body) →
      (preparePresentation runtime body).result = presentationOf body := by
    intro skipped
    rw [isFixed, ed25519Signature2020Context_skipped runtime skipped]
  have context : ContextAdded runtime (presentationOf body) →
      (preparePresentation runtime body).result.field "@context" = some (.arr
        (optionalArrayOf ((presentationOf body).field "@context") ++
          [.str suiteContextUrl])) := by
    intro added
    rw [isFixed]
    exact (ed25519Signature2020Context_added runtime added).2
  have differs : (preparePresentation runtime body).result.field "@context" ≠
        (presentationOf body).field "@context" ↔
      ContextAdded runtime (presentationOf body) := by
    constructor
    · intro different
      by_contra skipped
      exact different (by rw [unchanged skipped])
    · intro added same
      apply added.onlyProof.undeclared
      rw [context added] at same
      exact .inr ⟨_, same.symm, by simp⟩
  refine {
    members := fun name other => preparePresentation_field runtime other body
    unchanged
    context
    differs
    contextEntry := (preparePresentation_contextEntry runtime body).trans differs.symm
    wrapEntry := preparePresentation_wrapEntry runtime body
    again := again_iff runtime settled
    quiet := ?_ }
  intro bare logged
  have added := (preparePresentation_contextEntry runtime _).mp logged
  rw [presentationOf_eq_self bare] at added
  exact settled added

/-! ## Both call sites -/

def compatLogOf : DidAuthVerificationResult → Option (List CheckResult)
  | .verified _ compatLog => compatLog
  | .rejected _ compatLog => compatLog

private theorem verifyDIDAuth_compatLog (answers : Answers) {body : Json} {challenge : String}
    {debug : Bool} {result : DidAuthVerificationResult}
    (finished : (verifyDIDAuth runtime answers body challenge debug).result = .ok result) :
    compatLogOf result = if debug then some (preparePresentation runtime body).log else none := by
  unfold verifyDIDAuth at finished
  rcases Action.result_bind finished with ⟨_, -, verifies⟩
  rcases Action.result_bind verifies with ⟨answer, -, verdict⟩
  cases verdict
  unfold didAuthVerdict
  split
  · rfl
  · split <;> rfl

/-- What either call site has the verifier check is the posted presentation, with
the suite context added exactly when only the proof declares it. A second run finds
nothing to do, unless the presentation carries another message. -/
theorem handed_on_as_posted (config : Config) (answers : Answers) (body : Json) :
    (∀ exchange prepared,
      preparePresentationForVerify runtime config body exchange = .ok prepared →
      HandsOn runtime body prepared.presentation prepared.compatLog) ∧
    (∀ exchange call, Call.verifyPresentation call ∈
        (participateInVerifyExchange runtime config answers body exchange).calls →
      ∃ log, HandsOn runtime body call.presentation log) ∧
    ∀ challenge debug call,
      call ∈ (verifyDIDAuth runtime answers body challenge debug).calls →
      ∃ presentation log, call = .verifyPresentation { presentation, challenge } ∧
        HandsOn runtime body presentation log ∧
        ∀ result, (verifyDIDAuth runtime answers body challenge debug).result = .ok result →
          compatLogOf result = if debug then some log else none := by
  have prepares : ∀ exchange prepared,
      preparePresentationForVerify runtime config body exchange = .ok prepared →
      HandsOn runtime body prepared.presentation prepared.compatLog := by
    intro exchange prepared ready
    rw [preparePresentationForVerify_eq runtime config ready]
    exact preparePresentation_handsOn runtime body
  refine ⟨prepares, ?_, ?_⟩
  · intro exchange call asked
    rcases (mem_calls_participateInVerifyExchange runtime config answers).mp asked with
      ⟨prepared, ready, rfl⟩
    exact ⟨prepared.compatLog, prepares exchange prepared ready⟩
  · intro challenge debug call made
    have isCall := ((mem_calls_verifyDIDAuth runtime answers).mp made).2
    refine ⟨_, _, isCall, preparePresentation_handsOn runtime body, ?_⟩
    intro result finished
    exact verifyDIDAuth_compatLog runtime answers finished

end

/-! ### A presentation that carries another -/

def carriedPresentation : Json :=
  .obj [("type", .str "VerifiablePresentation")]

def carryingPresentation : Json :=
  .obj [
    ("@context", .arr [.str "https://www.w3.org/2018/credentials/v1"]),
    ("type", .arr [.str "VerifiablePresentation"]),
    ("verifiablePresentation", carriedPresentation),
    ("proof", .obj [
      ("type", .str "Ed25519Signature2020"),
      ("created", .str "2026-01-01T00:00:00Z"),
      ("verificationMethod", .str "did:key:z6Mk#z6Mk"),
      ("proofPurpose", .str "authentication"),
      ("proofValue", .str "zProof")])]

/-- The verifier is handed the outer presentation; the fixes make the inner one of
it. -/
theorem carried_presentation_unwrapped :
    (verifyDIDAuth .plain .plain (.obj [("verifiablePresentation", carryingPresentation)])
        "challenge-1" false).calls =
      [.verifyPresentation {
        presentation := carryingPresentation, challenge := "challenge-1" }] ∧
    (preparePresentation .plain carryingPresentation).result ≠ carryingPresentation := by
  refine ⟨rfl, fun same => ?_⟩
  have unwrapped : (preparePresentation .plain carryingPresentation).result =
      carriedPresentation := rfl
  rw [unwrapped] at same
  have context := congrArg (·.field "@context") same
  cases context

end TransactionService.SignedContent
