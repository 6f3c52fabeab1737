import TransactionService.Service

namespace TransactionService

/-! # Compatibility fixes on inbound messages

Pure, separately switchable repairs of what wallets post, with a log entry for
every change made. -/

structure CompatibilityResult where
  result : Json
  log : List CheckResult

def compatibilityCheckResult (fixId message : String) : CheckResult where
  id := "compat." ++ Text.replaceChar ':' '.' fixId
  outcome := .success message none none
  fatal := some false

def chainFixes (input : Json) (fixes : List (Json → CompatibilityResult)) :
    CompatibilityResult :=
  fixes.foldl
    (fun current fix =>
      let next := fix current.result
      { result := next.result, log := current.log ++ next.log })
    { result := input, log := [] }

section

variable (runtime : Runtime)

def isCompatFlagEnabled (raw : Option String) (defaultEnabled : Bool) : Bool :=
  match raw with
  | none => defaultEnabled
  | some raw =>
      let value := runtime.toLowerCase (Text.trim raw)
      if value = "" then defaultEnabled
      else if value = "true" ∨ value = "1" ∨ value = "yes" then true
      else if value = "false" ∨ value = "0" ∨ value = "no" then false
      else defaultEnabled

def compatFlagEnabled (envVar : String) (defaultEnabled : Bool) : Bool :=
  isCompatFlagEnabled runtime (runtime.env envVar) defaultEnabled

/-! ## Participation messages -/

def wrapBarePresentation (body : Json) : CompatibilityResult :=
  if !compatFlagEnabled runtime "COMPAT_WRAP_BARE_PRESENTATION" true then
    { result := body, log := [] }
  else if (body.field "verifiablePresentation").isSome then
    { result := body, log := [] }
  else if (body.field "@context").isNone then
    { result := body, log := [] }
  else {
    result := .obj [("verifiablePresentation", body)]
    log := [compatibilityCheckResult
      "vcalm-participation-message:wrap-bare-presentation"
      "Wrapped bare verifiable presentation in \x7b verifiablePresentation \x7d envelope."] }

def prepareVcalmParticipationMessage (body : Json) : CompatibilityResult :=
  chainFixes body [wrapBarePresentation runtime]

/-! ## Verifiable entities -/

def suiteContextUrl : String := "https://w3id.org/security/suites/ed25519-2020/v1"

/-- `value === undefined ? [] : arrayOf(value)`. -/
def optionalArrayOf : Option Json → List Json
  | none => []
  | some value => value.arrayOf

def ed25519Signature2020Context (entity : Json) : CompatibilityResult :=
  let unchanged : CompatibilityResult := { result := entity, log := [] }
  if !compatFlagEnabled runtime "COMPAT_ED25519_SIGNATURE_2020_CONTEXT" true then
    unchanged
  else
    match entity.field "proof" with
    | none => unchanged
    | some proof =>
        let entityContext := optionalArrayOf (entity.field "@context")
        if !proof.isTruthy then unchanged
        else if !Json.includesText (optionalArrayOf (proof.field "type"))
            "Ed25519Signature2020" then unchanged
        else if !Json.includesText (optionalArrayOf (proof.field "@context"))
            suiteContextUrl then unchanged
        else if Json.includesText entityContext suiteContextUrl then unchanged
        else {
          result := entity.withField "@context"
            (.arr (entityContext ++ [.str suiteContextUrl]))
          log := [compatibilityCheckResult
            "verifiable-entity:ed25519-signature-2020-context"
            ("Added \"" ++ suiteContextUrl ++ "\" to top-level @context to " ++
              "satisfy Ed25519Signature2020 verification.")] }

def prepareVerifiableEntity (entity : Json) : CompatibilityResult :=
  chainFixes entity [ed25519Signature2020Context runtime]

/-! ## What the fixes leave alone -/

private theorem prepareVerifiableEntity_field {name : String} (other : name ≠ "@context")
    (entity : Json) :
    (prepareVerifiableEntity runtime entity).result.field name = entity.field name := by
  simp only [prepareVerifiableEntity, chainFixes, List.foldl_cons, List.foldl_nil,
    ed25519Signature2020Context]
  split
  · rfl
  · split
    · rfl
    · rename_i proof found
      split
      · rfl
      · split
        · rfl
        · split
          · rfl
          · split
            · rfl
            · cases entity with
              | obj members => exact Json.field_withField_of_ne other members _
              | _ => cases found

def presentationOf (message : Json) : Json :=
  Json.orElse (message.field "verifiablePresentation") message

theorem presentationOf_of_carriesNone {message : Json}
    (carriesNone : message.field "verifiablePresentation" = none ∨
      message.field "verifiablePresentation" = some .null) : presentationOf message = message := by
  rcases carriesNone with absent | isNull
  · rw [presentationOf, absent]
    rfl
  · rw [presentationOf, isNull]
    rfl

def preparePresentation (body : Json) : CompatibilityResult :=
  let message := prepareVcalmParticipationMessage runtime body
  let presentation := prepareVerifiableEntity runtime (presentationOf message.result)
  { result := presentation.result, log := message.log ++ presentation.log }

/-- Whatever the envelope flag says, a message carries what its
`verifiablePresentation` member holds, or else itself. -/
theorem presentationOf_prepareVcalmParticipationMessage (body : Json) :
    presentationOf (prepareVcalmParticipationMessage runtime body).result =
      presentationOf body := by
  simp only [prepareVcalmParticipationMessage, chainFixes, List.foldl_cons,
    List.foldl_nil, wrapBarePresentation]
  split
  · rfl
  · split
    · rfl
    · rename_i absent
      split
      · rfl
      · rename_i present
        have missing : body.field "verifiablePresentation" = none := by
          simpa using absent
        cases body with
        | obj members => rw [presentationOf, presentationOf, missing]; rfl
        | _ => simp [Json.field] at present

theorem preparePresentation_field {name : String} (other : name ≠ "@context")
    (body : Json) :
    (preparePresentation runtime body).result.field name =
      (presentationOf body).field name := by
  simp only [preparePresentation]
  rw [prepareVerifiableEntity_field runtime other,
    presentationOf_prepareVcalmParticipationMessage]

end

end TransactionService
