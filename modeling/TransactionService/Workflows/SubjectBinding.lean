import TransactionService.Workflows.HolderAgreement

namespace TransactionService.SubjectBinding

open HolderAgreement

/-! # What is signed is bound to the holder -/

/-- The text of the template `{{{vc}}}` of the claim workflow. -/
def vcTemplate : String := "\x7b\x7b\x7bvc\x7d\x7d\x7d"

/-- Rendering `{{{vc}}}` yields the `vc` variable as it is. -/
def RendersVerbatim (runtime : Runtime) (exchange : ExchangeDetailClaim) : Prop :=
  runtime.renderTemplate vcTemplate exchange.vars = some exchange.vars.vc

def SignsBound (config : Config) (holderDid : String) (calls : List Call) : Prop :=
  ∀ endpoint body, IsSignEndpoint config endpoint →
    .callService endpoint body ∈ calls → BoundTo body holderDid

def hasSubjectArray (template : Json) : Bool :=
  match template.field "credentialSubject" with
  | some (.arr _) => true
  | _ => false

section

variable (runtime : Runtime) (config : Config) (answers : Answers)
  (exchange : ExchangeDetailClaim) (walletCryptosuites : List String)

def StatusRefused (template : Json) : Prop :=
  config.statusService ≠ "" ∧ answers.callService (allocateEndpoint config)
    (withIssuer (issuerInstanceFor runtime config exchange walletCryptosuites) template) =
      none

/-- Nothing is signed without a holder or a status, and an array of subjects
takes no id. -/
def BindsSubject (holderDid : String) (template : Json) : Prop :=
  hasSubjectArray template = false ∨ holderDid = "" ∨
    StatusRefused runtime config answers exchange walletCryptosuites template

end

variable {runtime : Runtime} {config : Config} {answers : Answers}
  {exchange : ExchangeDetailClaim} {walletCryptosuites : List String}
  {compatLog : Option (List CheckResult)} {template : Json} {holderDid : String}

theorem hasSubjectArray_iff :
    hasSubjectArray template = true ↔
      ∃ subjects, template.field "credentialSubject" = some (.arr subjects) := by
  unfold hasSubjectArray
  split
  · rename_i subjects found
    simp [found]
  · rename_i notArray
    simpa using notArray

theorem not_statusRefused_iff :
    ¬ StatusRefused runtime config answers exchange walletCryptosuites template ↔
      ∃ body, Allocated config answers
        (withIssuer (issuerInstanceFor runtime config exchange walletCryptosuites)
          template) body := by
  unfold StatusRefused Allocated
  by_cases disabled : config.statusService = ""
  · simp [disabled]
  · simp [disabled, Option.ne_none_iff_exists']

/-- A rendered template is the parsed `vc`, with its subject's id overwritten. -/
private theorem buildCredential_eq (verbatim : RendersVerbatim runtime exchange)
    (parsed : runtime.parseJson exchange.vars.vc = some template) :
    buildCredential runtime vcTemplate exchange holderDid =
      withSubjectId template holderDid := by
  have rendered : runtime.renderTemplate vcTemplate exchange.vars =
      some exchange.vars.vc := verbatim
  simp [buildCredential, rendered, parsed]

theorem withSubjectId_of_array (array : hasSubjectArray template = true) :
    withSubjectId template holderDid = some template := by
  rcases hasSubjectArray_iff.mp array with ⟨subjects, found⟩
  simp [withSubjectId, found]

private theorem withSubjectId_bound {credential : Json} (single : hasSubjectArray template = false)
    (built : withSubjectId template holderDid = some credential) :
    BoundTo credential holderDid := by
  unfold withSubjectId at built
  split at built
  · rename_i members found
    cases template with
    | obj entries =>
        cases built
        exact ⟨_, Json.field_withField_self .., by simp [Json.field]⟩
    | _ => cases found
  · rename_i subjects found
    simp [hasSubjectArray, found] at single
  · cases built

theorem sign_mem_iff (nonempty : holderDid ≠ "") (verbatim : RendersVerbatim runtime exchange)
    (parsed : runtime.parseJson exchange.vars.vc = some template)
    {endpoint : String} {body : Json} (isSign : IsSignEndpoint config endpoint) :
    .callService endpoint body ∈ (signClaimCredentialFromHolderDid runtime config answers
        (some holderDid) exchange claimWorkflow walletCryptosuites compatLog).calls ↔
      ∃ credential, withSubjectId template holderDid = some credential ∧
        Allocated config answers (withIssuer (issuerInstanceFor runtime config exchange
          walletCryptosuites) credential) body ∧
        endpoint = signEndpoint config exchange
          (issuerInstanceFor runtime config exchange walletCryptosuites) := by
  have only : claimWorkflow.credentialTemplates.bind List.head? = some vcTemplate := rfl
  rw [sign_mem_signClaim nonempty isSign]
  simp only [only, Option.some.injEq, exists_and_left, exists_eq_left',
    buildCredential_eq verbatim parsed]

/-- The signing service is sent bound credentials only, exactly when the subject
of the template is no array or nothing is sent to it. -/
theorem signs_bound_iff (verbatim : RendersVerbatim runtime exchange)
    (keeps : StatusServiceKeepsSubject config answers)
    (accepted : isCredentialTemplate runtime exchange.vars.vc = true) :
    SignsBound config holderDid (signClaimCredentialFromHolderDid runtime config answers
        (some holderDid) exchange claimWorkflow walletCryptosuites compatLog).calls ↔
      ∃ template, runtime.parseJson exchange.vars.vc = some template ∧
        BindsSubject runtime config answers exchange walletCryptosuites holderDid
          template := by
  have isJson : ∃ template, runtime.parseJson exchange.vars.vc = some template := by
    cases parsed : runtime.parseJson exchange.vars.vc with
    | none => simp [isCredentialTemplate, parsed] at accepted
    | some template => exact ⟨template, rfl⟩
  rcases isJson with ⟨template, parsed⟩
  simp only [parsed, Option.some.injEq, exists_eq_left']
  by_cases nonempty : holderDid = ""
  · subst nonempty
    constructor
    · intro _
      exact .inr (.inl rfl)
    · intro _ endpoint body isSign made
      simp [signClaimCredentialFromHolderDid, throwHttp, Action.fail] at made
  constructor
  · intro bound
    cases array : hasSubjectArray template with
    | false => exact .inl array
    | true =>
        refine .inr (.inr (Classical.not_not.mp fun served => ?_))
        rcases not_statusRefused_iff.mp served with ⟨body, allocated⟩
        have isSign : IsSignEndpoint config (signEndpoint config exchange
            (issuerInstanceFor runtime config exchange walletCryptosuites)) := ⟨_, rfl⟩
        have sent := bound _ body isSign ((sign_mem_iff nonempty verbatim parsed isSign).mpr
          ⟨template, withSubjectId_of_array array, allocated, rfl⟩)
        rcases hasSubjectArray_iff.mp array with ⟨subjects, found⟩
        have same := allocated_subject keeps allocated
        exact not_boundTo_array (same.trans found) sent
  · intro binds endpoint body isSign made
    rcases (sign_mem_iff nonempty verbatim parsed isSign).mp made with
      ⟨credential, built, allocated, -⟩
    have single : hasSubjectArray template = false := by
      rcases binds with single | empty | refused
      · exact single
      · exact absurd empty nonempty
      · cases array : hasSubjectArray template with
        | false => rfl
        | true =>
            rw [withSubjectId_of_array array] at built
            cases built
            exact absurd refused (not_statusRefused_iff.mpr ⟨body, allocated⟩)
    rcases withSubjectId_bound single built with ⟨subject, found, named⟩
    exact ⟨subject, (allocated_subject keeps allocated).trans found, named⟩

/-! ### Templates with one subject and with a list of them -/

def singleTemplate : String :=
  "\x7b\"type\":[\"VerifiableCredential\"],\"credentialSubject\":\x7b\x7d\x7d"

def listTemplate : String :=
  "\x7b\"type\":[\"VerifiableCredential\"],\"credentialSubject\":[\x7b\x7d]\x7d"

def credentialAbout (subject : Json) : Json :=
  .obj [("type", .arr [.str "VerifiableCredential"]), ("credentialSubject", subject)]

def templateRuntime : Runtime :=
  { Runtime.plain with
    parseJson := fun text =>
      if text = singleTemplate then some (credentialAbout (.obj []))
      else if text = listTemplate then some (credentialAbout (.arr [.obj []]))
      else none }

def exchangeFor (vc : String) : ExchangeDetailClaim :=
  { issuingExchange with vars := { issuingExchange.vars with vc := vc } }

def callsFor (vc : String) : List Call :=
  (signClaimCredentialFromHolderDid templateRuntime issuingConfig issuingAnswers
    (some "did:example:holder") (exchangeFor vc) claimWorkflow [] none).calls

theorem signs_bound_single :
    SignsBound issuingConfig "did:example:holder" (callsFor singleTemplate) := by
  have parsed : templateRuntime.parseJson singleTemplate =
      some (credentialAbout (.obj [])) := by simp [templateRuntime]
  have verbatim : RendersVerbatim templateRuntime (exchangeFor singleTemplate) := rfl
  have accepted : isCredentialTemplate templateRuntime singleTemplate = true := by
    rw [isCredentialTemplate, parsed]
    rfl
  exact (signs_bound_iff verbatim issuingAnswers_keepsSubject accepted).mpr
    ⟨_, parsed, .inl rfl⟩

/-- A list of subjects passes the template check and is signed without the holder. -/
theorem subject_list_unbound :
    isCredentialTemplate templateRuntime listTemplate = true ∧
      RendersVerbatim templateRuntime (exchangeFor listTemplate) ∧
      StatusServiceKeepsSubject issuingConfig issuingAnswers ∧
      ¬ SignsBound issuingConfig "did:example:holder" (callsFor listTemplate) := by
  have parsed : templateRuntime.parseJson listTemplate =
      some (credentialAbout (.arr [.obj []])) := by
    have distinct : listTemplate ≠ singleTemplate := by decide
    simp [templateRuntime, distinct]
  have verbatim : RendersVerbatim templateRuntime (exchangeFor listTemplate) := rfl
  refine ⟨?_, verbatim, issuingAnswers_keepsSubject, fun bound => ?_⟩
  · rw [isCredentialTemplate, parsed]
    rfl
  · have isSign : IsSignEndpoint issuingConfig
        (signEndpoint issuingConfig (exchangeFor listTemplate) none) := ⟨_, rfl⟩
    have sent := bound _ _ isSign
      ((sign_mem_iff (by decide) verbatim parsed isSign).mpr ⟨_, rfl, rfl, rfl⟩)
    apply not_boundTo_array (?_ : _ = some (Json.arr [.obj []])) sent
    rfl

end TransactionService.SubjectBinding
