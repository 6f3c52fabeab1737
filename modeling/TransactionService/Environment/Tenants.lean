import TransactionService.Auth.Soundness
import TransactionService.Auth.Tokens
import TransactionService.Environment

namespace TransactionService.Environment

/-! # The tenants of an environment -/

section

variable {runtime : Runtime} {library : TextLibrary} {env : Environment}

/-! ## The issuers of a tenant -/

def issuerId (library : TextLibrary) (env : Environment) (tenantNameLower : String)
    (number : Nat) : Option String :=
  givenVariable env (issuerVariable number "_ID_" (library.toUpperCase tenantNameLower))

theorem issuerVariable_injective {first second : Nat} {part suffix : String}
    (same : issuerVariable first part suffix = issuerVariable second part suffix) :
    first = second := by
  have characters := congrArg String.toList same
  simp only [issuerVariable, String.toList_append, List.append_assoc,
    List.append_cancel_left_eq, List.append_cancel_right_eq] at characters
  exact Text.toString_nat_injective (String.toList_inj.mp characters)

private theorem mem_of_issuerId {tenantNameLower id : String} {number : Nat}
    (present : issuerId library env tenantNameLower number = some id) :
    issuerVariable number "_ID_" (library.toUpperCase tenantNameLower) ∈
      env.map Prod.fst := by
  have found := (Option.filter_eq_some_iff.mp present).1
  exact List.mem_map.mpr ⟨_, mem_of_lookup found, rfl⟩

private theorem exists_missing_issuer (tenantNameLower : String) (start : Nat) :
    ∃ number, start ≤ number ∧ number < start + (env.length + 1) ∧
      issuerId library env tenantNameLower number = none := by
  by_contra complete
  let numbered := (List.range (env.length + 1)).map fun offset =>
    issuerVariable (start + offset) "_ID_" (library.toUpperCase tenantNameLower)
  have distinct : numbered.Nodup := by
    apply List.Nodup.map
    · intro first second same
      have equal := issuerVariable_injective same
      omega
    · exact List.nodup_range
  have allSet : numbered ⊆ env.map Prod.fst := by
    intro name member
    rcases List.mem_map.mp member with ⟨offset, inRange, rfl⟩
    have bound := List.mem_range.mp inRange
    cases present : issuerId library env tenantNameLower (start + offset) with
    | none => exact absurd ⟨start + offset, by omega, by omega, present⟩ complete
    | some id => exact mem_of_issuerId present
  have fits := (List.subperm_of_subset distinct allSet).length_le
  simp only [numbered, List.length_map, List.length_range] at fits
  omega

inductive IssuerSeries (library : TextLibrary) (env : Environment)
    (tenantNameLower : String) : Nat → List IssuerInstance → Prop
  | done {number : Nat} (missing : issuerId library env tenantNameLower number = none) :
      IssuerSeries library env tenantNameLower number []
  | next {number : Nat} {id : String} {rest : List IssuerInstance}
      (present : issuerId library env tenantNameLower number = some id)
      (later : IssuerSeries library env tenantNameLower (number + 1) rest) :
      IssuerSeries library env tenantNameLower number
        (issuerInstanceAt library env tenantNameLower number id :: rest)

private theorem issuerInstancesFrom_series {tenantNameLower : String} {fuel number missing : Nat}
    (after : number ≤ missing) (before : missing < number + fuel)
    (isMissing : issuerId library env tenantNameLower missing = none) :
    IssuerSeries library env tenantNameLower number
      (issuerInstancesFrom library env tenantNameLower fuel number) := by
  induction fuel generalizing number with
  | zero => omega
  | succ fuel induction =>
      rw [issuerInstancesFrom]
      cases present : issuerId library env tenantNameLower number with
      | none =>
          rw [issuerId] at present
          rw [present]
          exact .done present
      | some id =>
          have further : number ≠ missing := by
            rintro rfl
            rw [present] at isMissing
            cases isMissing
          have found := present
          rw [issuerId] at found
          rw [found]
          apply IssuerSeries.next present
          apply induction
          · omega
          · omega

private theorem parseIssuerInstances_series (tenantNameLower : String) :
    IssuerSeries library env tenantNameLower 1
      (parseIssuerInstancesForTenant library env tenantNameLower) := by
  rcases exists_missing_issuer tenantNameLower 1 with ⟨missing, after, before, isMissing⟩
  exact issuerInstancesFrom_series after before isMissing

/-! ## The tokens of the tenants -/

def tokenVariable (runtime : Runtime) (entry : String × String) : Option (String × String) :=
  if Text.startsWith "TENANT_TOKEN_" entry.1 ∧ entry.2 ≠ "" ∧
      tenantNameOf runtime entry.1 ≠ "__proto__" then
    some (tenantNameOf runtime entry.1, entry.2)
  else none

/-- The last variable that names a tenant, in any letter case, sets its token. -/
def configuredToken (runtime : Runtime) (env : Environment) (tenantName : String) :
    Option String :=
  (env.filterMap (tokenVariable runtime)).reverse.lookup tenantName

private theorem tenantEntry_eq (entry : String × String) :
    tenantEntry runtime library env entry =
      (tokenVariable runtime entry).map fun named =>
        (named.1, tenantFor library env named.1 named.2) := by
  unfold tenantEntry tokenVariable
  by_cases token : Text.startsWith "TENANT_TOKEN_" entry.1 = true ∧ entry.2 ≠ ""
  · by_cases proto : tenantNameOf runtime entry.1 = "__proto__"
    · simp [proto]
    · simp [token, proto]
  · rw [if_neg token, if_neg fun both => token ⟨both.1, both.2.1⟩]
    rfl

private theorem lookup_map_named {named : List (String × String)} (make : String → String → Tenant)
    (tenantName : String) :
    (named.map fun entry => (entry.1, make entry.1 entry.2)).lookup tenantName =
      (named.lookup tenantName).map (make tenantName) := by
  induction named with
  | nil => rfl
  | cons entry rest induction =>
      rcases entry with ⟨key, value⟩
      by_cases same : tenantName = key
      · subst same
        simp
      · have unequal : (tenantName == key) = false := beq_eq_false_iff_ne.mpr same
        simp only [List.map_cons, List.lookup_cons, unequal, induction]

theorem lookup_parseTenantsFromEnv (tenantName : String) :
    (parseTenantsFromEnv runtime library env).lookup tenantName =
      (configuredToken runtime env tenantName).map (tenantFor library env tenantName) := by
  rw [parseTenantsFromEnv, lookup_assignMembers, configuredToken]
  have entries : env.filterMap (tenantEntry runtime library env) =
      (env.filterMap (tokenVariable runtime)).map fun named =>
        (named.1, tenantFor library env named.1 named.2) := by
    rw [List.map_filterMap]
    apply List.filterMap_congr
    intro entry _
    exact tenantEntry_eq entry
  rw [entries, ← List.map_reverse, lookup_map_named]

theorem configuredToken_variable {tenantName value : String}
    (configured : configuredToken runtime env tenantName = some value) :
    ∃ key, (key, value) ∈ env ∧ Text.startsWith "TENANT_TOKEN_" key = true ∧
      value ≠ "" ∧ tenantNameOf runtime key = tenantName := by
  have member := List.mem_reverse.mp (mem_of_lookup configured)
  rcases List.mem_filterMap.mp member with ⟨⟨key, text⟩, isEntry, named⟩
  unfold tokenVariable at named
  split at named
  · rename_i token
    cases named
    exact ⟨key, isEntry, token.1, token.2.1, rfl⟩
  · cases named

/-! ## Who is let in -/

theorem parseConfig_tenants
    (enabled : (parseConfig runtime library env).tenantAuthenticationEnabled = true) :
    (parseConfig runtime library env).tenants = parseTenantsFromEnv runtime library env := by
  simp only [parseConfig, Bool.not_eq_true'] at enabled
  simp [parseConfig, enabled]

theorem lookup_tenants
    (enabled : (parseConfig runtime library env).tenantAuthenticationEnabled = true)
    (tenantName : String) :
    (parseConfig runtime library env).tenants.lookup tenantName =
      (configuredToken runtime env tenantName).map (tenantFor library env tenantName) := by
  rw [parseConfig_tenants enabled, lookup_parseTenantsFromEnv]

theorem lookup_of_configured
    (enabled : (parseConfig runtime library env).tenantAuthenticationEnabled = true)
    {tenantName value : String}
    (configured : configuredToken runtime env tenantName = some value) :
    (parseConfig runtime library env).tenants.lookup tenantName =
      some (tenantFor library env tenantName value) := by
  rw [lookup_tenants enabled, configured]
  rfl

private theorem tenant_of_lookup
    (enabled : (parseConfig runtime library env).tenantAuthenticationEnabled = true)
    {tenantName : String} {tenant : Tenant}
    (found : (parseConfig runtime library env).tenants.lookup tenantName = some tenant) :
    ∃ value, configuredToken runtime env tenantName = some value ∧
      tenant = tenantFor library env tenantName value := by
  rw [lookup_tenants enabled] at found
  rcases Option.map_eq_some_iff.mp found with ⟨value, configured, same⟩
  exact ⟨value, configured, same.symm⟩

def inheritedUnder (name : String) : Option Json.Reference :=
  (Json.Reference.json (.obj [])).property name

theorem tenantAt_cases
    (enabled : (parseConfig runtime library env).tenantAuthenticationEnabled = true)
    {tenantName : String} {entry : TenantEntry}
    (found : (parseConfig runtime library env).tenantAt tenantName = some entry) :
    (∃ value, configuredToken runtime env tenantName = some value ∧
      entry = .configured (tenantFor library env tenantName value)) ∨
    ∃ reference, configuredToken runtime env tenantName = none ∧
      inheritedUnder tenantName = some reference ∧ entry = .inherited reference := by
  unfold Config.tenantAt at found
  rw [lookup_tenants enabled] at found
  cases configured : configuredToken runtime env tenantName with
  | some value =>
      rw [configured] at found
      cases found
      exact .inl ⟨value, rfl, rfl⟩
  | none =>
      rw [configured] at found
      rcases Option.map_eq_some_iff.mp found with ⟨reference, inherits, same⟩
      exact .inr ⟨reference, rfl, inherits, same.symm⟩

/-- The headers that are let in, and as what. A name that no variable configures may
still find a property that every object inherits; an empty Basic password then lets
the request in as no tenant at all. -/
inductive Admitted (runtime : Runtime) (library : TextLibrary) (env : Environment)
    (authorization : String) : TenantEntry → Prop
  | basic {user password value : String}
      (header : Auth.BasicHeader runtime authorization user password)
      (configured : configuredToken runtime env (runtime.toLowerCase user) = some value)
      (secret : password = "" ∨ password = value) :
      Admitted runtime library env authorization
        (.configured (tenantFor library env (runtime.toLowerCase user) value))
  | bearer {tenantName value : String} (header : Auth.BearerHeader authorization value)
      (configured : configuredToken runtime env tenantName = some value) :
      Admitted runtime library env authorization
        (.configured (tenantFor library env tenantName value))
  | accessToken {token sub value : String} {payload : Json}
      (header : Auth.BearerHeader authorization token)
      (verified : verifyAccessToken runtime (parseConfig runtime library env) token =
        some payload)
      (subject : payload.field "sub" = some (.str sub))
      (configured : configuredToken runtime env (runtime.toLowerCase sub) = some value) :
      Admitted runtime library env authorization
        (.configured (tenantFor library env (runtime.toLowerCase sub) value))
  | inheritedUser {user : String} {reference : Json.Reference}
      (header : Auth.BasicHeader runtime authorization user "")
      (unconfigured : configuredToken runtime env (runtime.toLowerCase user) = none)
      (inherits : inheritedUnder (runtime.toLowerCase user) = some reference) :
      Admitted runtime library env authorization (.inherited reference)
  | inheritedSubject {token sub : String} {payload : Json} {reference : Json.Reference}
      (header : Auth.BearerHeader authorization token)
      (verified : verifyAccessToken runtime (parseConfig runtime library env) token =
        some payload)
      (subject : payload.field "sub" = some (.str sub))
      (unconfigured : configuredToken runtime env (runtime.toLowerCase sub) = none)
      (inherits : inheritedUnder (runtime.toLowerCase sub) = some reference) :
      Admitted runtime library env authorization (.inherited reference)

private theorem tenant_of_token
    (enabled : (parseConfig runtime library env).tenantAuthenticationEnabled = true)
    {token : String} {entry : TenantEntry}
    (found : getTenant runtime (parseConfig runtime library env) none (some token) =
      some entry) :
    ∃ tenantName, configuredToken runtime env tenantName = some token ∧
      entry = .configured (tenantFor library env tenantName token) := by
  rcases Auth.getTenant_token found with ⟨tenantName, tenant, isEntry, rfl, rfl⟩
  have distinct : ((parseConfig runtime library env).tenants.map Prod.fst).Nodup := by
    rw [parseConfig_tenants enabled]
    exact nodup_assignMembers _
  rcases tenant_of_lookup enabled (lookup_of_mem distinct isEntry) with
    ⟨value, configured, rfl⟩
  exact ⟨tenantName, configured, rfl⟩

private theorem accepted_scheme {config : Config} {authorization : String} {entry : TenantEntry}
    (accepted : tenantFromAuthorizationHeader runtime config (some authorization) =
      .ok (some entry)) :
    (∃ user password, user ≠ "" ∧ Auth.BasicHeader runtime authorization user password ∧
      getTenant runtime config (some user) (some password) = some entry) ∨
    ∃ token, Auth.BearerHeader authorization token ∧
      authenticateTenant runtime config token = .ok (some entry) := by
  unfold tenantFromAuthorizationHeader at accepted
  split at accepted
  · cases accepted
  · rename_i text isGiven
    have same : authorization = text :=
      Option.some.inj (Option.filter_eq_some_iff.mp isGiven).1
    subst same
    split at accepted
    · cases accepted
    · rename_i scheme rest pieces
      split at accepted
      · split at accepted
        · cases accepted
        · rename_i creds parsed
          rcases Auth.parseBasicAuthCredentials_eq_some.mp parsed with ⟨header, named⟩
          exact .inl ⟨creds.user, creds.password, named, header, Except.ok.inj accepted⟩
      · split at accepted
        · rename_i isBearer
          exact .inr ⟨_, ⟨rest, isBearer ▸ pieces, rfl⟩, accepted⟩
        · cases accepted

private theorem admitted_of_found
    (enabled : (parseConfig runtime library env).tenantAuthenticationEnabled = true)
    {authorization token : String} {entry : TenantEntry}
    (header : Auth.BearerHeader authorization token)
    (found : authenticateTenant runtime (parseConfig runtime library env) token =
      .ok (some entry)) : Admitted runtime library env authorization entry := by
  unfold authenticateTenant at found
  rw [enabled] at found
  simp only [Bool.not_true, Bool.false_eq_true, if_false] at found
  split at found
  · rename_i payload verified
    split at found
    · rename_i sub subject
      rcases tenantAt_cases enabled (Except.ok.inj found) with
        ⟨value, configured, rfl⟩ | ⟨reference, unconfigured, inherits, rfl⟩
      · exact .accessToken header verified subject configured
      · exact .inheritedSubject header verified subject unconfigured inherits
    · cases found
  · rcases tenant_of_token enabled (Except.ok.inj found) with
      ⟨tenantName, configured, rfl⟩
    exact .bearer header configured

theorem admitted_of_accepted
    (enabled : (parseConfig runtime library env).tenantAuthenticationEnabled = true)
    {authorization : String} {entry : TenantEntry}
    (accepted : tenantFromAuthorizationHeader runtime (parseConfig runtime library env)
      (some authorization) = .ok (some entry)) :
    Admitted runtime library env authorization entry := by
  rcases accepted_scheme accepted with
    ⟨user, password, named, header, found⟩ | ⟨token, header, found⟩
  · rcases (Auth.getTenant_name named enabled).mp found with ⟨names, secret⟩
    rcases tenantAt_cases enabled names with
      ⟨value, configured, rfl⟩ | ⟨reference, unconfigured, inherits, rfl⟩
    · apply Admitted.basic header configured
      rcases secret with empty | same
      · exact .inl empty
      · exact .inr (Option.some.inj same).symm
    · rcases secret with rfl | impossible
      · exact .inheritedUser header unconfigured inherits
      · cases impossible
  · exact admitted_of_found enabled header found

theorem basic_accepted
    (enabled : (parseConfig runtime library env).tenantAuthenticationEnabled = true)
    {authorization user password : String}
    (header : Auth.BasicHeader runtime authorization user password) (named : user ≠ "")
    (configured : configuredToken runtime env (runtime.toLowerCase user) = some password) :
    tenantFromAuthorizationHeader runtime (parseConfig runtime library env)
      (some authorization) = .ok (some (.configured
        (tenantFor library env (runtime.toLowerCase user) password))) := by
  rw [Auth.tenantFromAuthorizationHeader_basic header named]
  congr 1
  apply (Auth.getTenant_name named enabled).mpr
  exact ⟨Config.tenantAt_of_lookup (lookup_of_configured enabled configured), .inr rfl⟩

private theorem inherited_accepted
    (enabled : (parseConfig runtime library env).tenantAuthenticationEnabled = true)
    {authorization user : String} {reference : Json.Reference}
    (header : Auth.BasicHeader runtime authorization user "") (named : user ≠ "")
    (unconfigured : configuredToken runtime env (runtime.toLowerCase user) = none)
    (inherits : inheritedUnder (runtime.toLowerCase user) = some reference) :
    tenantFromAuthorizationHeader runtime (parseConfig runtime library env)
      (some authorization) = .ok (some (.inherited reference)) := by
  rw [Auth.tenantFromAuthorizationHeader_basic header named]
  congr 1
  apply (Auth.getTenant_name named enabled).mpr
  refine ⟨?_, .inl rfl⟩
  have absent : (parseConfig runtime library env).tenants.lookup
      (runtime.toLowerCase user) = none := by
    rw [lookup_tenants enabled, unconfigured]
    rfl
  change (parseConfig runtime library env).tenantAt (runtime.toLowerCase user) = _
  unfold Config.tenantAt
  rw [absent]
  exact congrArg (Option.map _) inherits

private theorem tenantFromAuthorizationHeader_bearerHeader {config : Config}
    {authorization token : String} (header : Auth.BearerHeader authorization token) :
    tenantFromAuthorizationHeader runtime config (some authorization) =
      authenticateTenant runtime config token := by
  rcases header with ⟨rest, pieces, rfl⟩
  have nonempty : authorization ≠ "" := by
    rintro rfl
    simp [Text.splitOn] at pieces
  simp [tenantFromAuthorizationHeader, Text.given_some nonempty, pieces]

private theorem bearer_accepted
    (enabled : (parseConfig runtime library env).tenantAuthenticationEnabled = true)
    {authorization tenantName value : String}
    (header : Auth.BearerHeader authorization value)
    (configured : configuredToken runtime env tenantName = some value)
    (noAccessToken : verifyAccessToken runtime (parseConfig runtime library env) value =
      none) :
    ∃ tenant, tenantFromAuthorizationHeader runtime (parseConfig runtime library env)
      (some authorization) = .ok (some (.configured tenant)) ∧
      tenant.tenantToken = value := by
  rcases configuredToken_variable configured with ⟨_, -, -, nonempty, -⟩
  have isEntry : (tenantName, tenantFor library env tenantName value) ∈
      (parseConfig runtime library env).tenants :=
    mem_of_lookup (lookup_of_configured enabled configured)
  cases holder : (objectValues (parseConfig runtime library env).tenants).find?
      (·.tenantToken = value) with
  | none =>
      have absent := List.find?_eq_none.mp holder _ (mem_objectValues.mpr ⟨_, isEntry⟩)
      exact absurd (decide_eq_true rfl) absent
  | some tenant =>
      refine ⟨tenant, ?_, by simpa using List.find?_some holder⟩
      rw [tenantFromAuthorizationHeader_bearerHeader header]
      simp [authenticateTenant, enabled, noAccessToken, getTenant,
        Text.given_some nonempty, holder]

/-- A request is let in exactly on what the variables say and what every object
inherits: by nothing but the token that the last variable naming the tenant sets, an
access token, or an empty Basic password for a name that finds something; always by
that token, unless it is an access token itself; and always by such a name. -/
theorem environment_decides_admission
    (enabled : (parseConfig runtime library env).tenantAuthenticationEnabled = true)
    (authorization : String) :
    (∀ entry, tenantFromAuthorizationHeader runtime (parseConfig runtime library env)
        (some authorization) = .ok (some entry) →
      Admitted runtime library env authorization entry) ∧
    (∀ user password, Auth.BasicHeader runtime authorization user password → user ≠ "" →
      configuredToken runtime env (runtime.toLowerCase user) = some password →
      tenantFromAuthorizationHeader runtime (parseConfig runtime library env)
        (some authorization) = .ok (some (.configured
          (tenantFor library env (runtime.toLowerCase user) password)))) ∧
    (∀ tenantName value, Auth.BearerHeader authorization value →
      configuredToken runtime env tenantName = some value →
      verifyAccessToken runtime (parseConfig runtime library env) value = none →
      ∃ tenant, tenantFromAuthorizationHeader runtime (parseConfig runtime library env)
        (some authorization) = .ok (some (.configured tenant)) ∧
        tenant.tenantToken = value) ∧
    ∀ user reference, Auth.BasicHeader runtime authorization user "" → user ≠ "" →
      configuredToken runtime env (runtime.toLowerCase user) = none →
      inheritedUnder (runtime.toLowerCase user) = some reference →
      tenantFromAuthorizationHeader runtime (parseConfig runtime library env)
        (some authorization) = .ok (some (.inherited reference)) :=
  ⟨fun _ accepted => admitted_of_accepted enabled accepted,
    fun _ _ header named configured => basic_accepted enabled header named configured,
    fun _ _ header configured noAccessToken =>
      bearer_accepted enabled header configured noAccessToken,
    fun _ _ header named unconfigured inherits =>
      inherited_accepted enabled header named unconfigured inherits⟩

/-! ## What every environment yields -/

/-- Lower-casing is done once, and leaves the name of the default tenant alone. -/
structure LowerCase (runtime : Runtime) : Prop where
  idempotent : ∀ text,
    runtime.toLowerCase (runtime.toLowerCase text) = runtime.toLowerCase text
  default : runtime.toLowerCase "default" = "default"

/-- Without a token variable there is the default tenant alone, and nobody has to
authenticate; otherwise the tenants are those with a variable. -/
structure WellFormed (runtime : Runtime) (library : TextLibrary) (env : Environment)
    (config : Config) : Prop where
  enabled : config.tenantAuthenticationEnabled = true ↔
    ∃ tenantName value, configuredToken runtime env tenantName = some value
  tenants : ∀ tenantName, config.tenants.lookup tenantName =
    if config.tenantAuthenticationEnabled then
      (configuredToken runtime env tenantName).map (tenantFor library env tenantName)
    else if tenantName = "default" then some (defaultTenant library env) else none
  keyed : KeyedByName runtime config
  secrets : ∀ tenantName tenant, config.tenants.lookup tenantName = some tenant →
    tenant.tenantToken ≠ ""
  issuers : ∀ tenantName tenant, config.tenants.lookup tenantName = some tenant →
    tenant.issuerInstances ≠ some [] ∧
    IssuerSeries library env tenantName 1 (tenant.issuerInstances.getD [])
  intervals : config.exchangeTtl ≠ 0 ∧ config.verifyTaskDeadlineMs ≠ 0 ∧
    config.verifyTaskMaxAttempts ≠ 0

private theorem isEmpty_parseTenantsFromEnv :
    (parseTenantsFromEnv runtime library env).isEmpty = false ↔
      ∃ tenantName value, configuredToken runtime env tenantName = some value := by
  cases tenants : parseTenantsFromEnv runtime library env with
  | nil =>
      constructor
      · intro impossible
        cases impossible
      · intro someToken
        rcases someToken with ⟨tenantName, value, configured⟩
        have found : (parseTenantsFromEnv runtime library env).lookup tenantName =
            (configuredToken runtime env tenantName).map
              (tenantFor library env tenantName) := lookup_parseTenantsFromEnv tenantName
        rw [tenants, configured] at found
        cases found
  | cons entry rest =>
      constructor
      · intro _
        have found : (parseTenantsFromEnv runtime library env).lookup entry.1 =
            (configuredToken runtime env entry.1).map
              (tenantFor library env entry.1) := lookup_parseTenantsFromEnv entry.1
        have isFirst : (entry :: rest).lookup entry.1 = some entry.2 :=
          List.lookup_cons_self
        rw [tenants, isFirst] at found
        rcases Option.map_eq_some_iff.mp found.symm with ⟨value, configured, -⟩
        exact ⟨entry.1, value, configured⟩
      · intro _
        rfl

private theorem parseConfig_enabled :
    (parseConfig runtime library env).tenantAuthenticationEnabled = true ↔
      ∃ tenantName value, configuredToken runtime env tenantName = some value := by
  rw [← @isEmpty_parseTenantsFromEnv runtime library env]
  simp [parseConfig]

theorem lookup_parseConfig (tenantName : String) :
    (parseConfig runtime library env).tenants.lookup tenantName =
      if (parseConfig runtime library env).tenantAuthenticationEnabled then
        (configuredToken runtime env tenantName).map (tenantFor library env tenantName)
      else if tenantName = "default" then some (defaultTenant library env) else none := by
  cases enabled : (parseConfig runtime library env).tenantAuthenticationEnabled with
  | true =>
      rw [lookup_tenants enabled, if_pos rfl]
  | false =>
      have alone : (parseConfig runtime library env).tenants =
          [("default", defaultTenant library env)] := by
        have empty : (parseTenantsFromEnv runtime library env).isEmpty = true := by
          simpa [parseConfig] using enabled
        simp only [parseConfig, empty, if_true]
      rw [alone, if_neg (by decide), List.lookup_cons]
      by_cases isDefault : tenantName = "default"
      · simp [isDefault]
      · have unequal : (tenantName == "default") = false := beq_eq_false_iff_ne.mpr isDefault
        simp [isDefault, unequal]

theorem issuerInstancesIfAny_series (tenantName : String) :
    issuerInstancesIfAny library env tenantName ≠ some [] ∧
      IssuerSeries library env tenantName 1
        ((issuerInstancesIfAny library env tenantName).getD []) := by
  have series := @parseIssuerInstances_series library env tenantName
  unfold issuerInstancesIfAny
  cases instances : parseIssuerInstancesForTenant library env tenantName with
  | nil =>
      rw [instances] at series
      exact ⟨by simp, series⟩
  | cons first rest =>
      rw [instances] at series
      exact ⟨by simp, series⟩

theorem integerVariable_ne_zero {name : String} {fallback : Int} (nonzero : fallback ≠ 0) :
    integerVariable library env name fallback ≠ 0 := by
  unfold integerVariable
  split
  · exact nonzero
  · split
    · exact nonzero
    · assumption

theorem tenant_wellFormed (lower : LowerCase runtime) {tenantName : String}
    {tenant : Tenant}
    (found : (parseConfig runtime library env).tenants.lookup tenantName = some tenant) :
    runtime.toLowerCase tenant.tenantName = tenantName ∧ tenant.tenantToken ≠ "" ∧
      tenant.issuerInstances = issuerInstancesIfAny library env tenantName := by
  rw [lookup_parseConfig] at found
  split at found
  · rcases Option.map_eq_some_iff.mp found with ⟨value, configured, rfl⟩
    rcases configuredToken_variable configured with ⟨key, -, -, nonempty, rfl⟩
    exact ⟨lower.idempotent _, nonempty, rfl⟩
  · split at found
    · rename_i isDefault
      cases found
      rw [isDefault]
      exact ⟨lower.default, by simp [defaultTenant], rfl⟩
    · cases found

/-- Whatever the variables say, the configuration is well formed. The loop over the
issuers of a tenant ends, at the first number without one. -/
theorem parseConfig_wellFormed (lower : LowerCase runtime) :
    WellFormed runtime library env (parseConfig runtime library env) where
  enabled := parseConfig_enabled
  tenants := lookup_parseConfig
  keyed _ _ found := (tenant_wellFormed lower found).1
  secrets _ _ found := (tenant_wellFormed lower found).2.1
  issuers tenantName tenant found := by
    rw [(tenant_wellFormed lower found).2.2]
    exact issuerInstancesIfAny_series tenantName
  intervals := ⟨integerVariable_ne_zero (by decide), integerVariable_ne_zero (by decide),
    integerVariable_ne_zero (by decide)⟩

end

/-! ## Two tenants -/

def acmeEnvironment : Environment := [
  ("TENANT_TOKEN_acme", "s3cret"),
  ("TENANT_ISSUER_1_ID_acme", "did:example:acme"),
  ("TENANT_TOKEN_globex", "other")]

def plainLibrary : TextLibrary where
  toUpperCase := id
  parseInt _ := none

theorem acme_wellFormed :
    WellFormed Runtime.plain plainLibrary acmeEnvironment
      (parseConfig Runtime.plain plainLibrary acmeEnvironment) :=
  parseConfig_wellFormed ⟨fun _ => rfl, rfl⟩

theorem acme_admitted : ∃ tenant,
    tenantFromAuthorizationHeader Runtime.plain
      (parseConfig Runtime.plain plainLibrary acmeEnvironment) (some "Bearer s3cret") =
        .ok (some (.configured tenant)) ∧
    tenant.tenantToken = "s3cret" ∧
    Admitted Runtime.plain plainLibrary acmeEnvironment "Bearer s3cret"
      (.configured tenant) := by
  have enabled : (parseConfig Runtime.plain plainLibrary
      acmeEnvironment).tenantAuthenticationEnabled = true := rfl
  have header : Auth.BearerHeader "Bearer s3cret" "s3cret" :=
    ⟨["s3cret"], by decide, rfl⟩
  rcases environment_decides_admission enabled "Bearer s3cret" with ⟨sound, -, bearer, -⟩
  rcases bearer "acme" "s3cret" header rfl rfl with ⟨tenant, accepted, secret⟩
  exact ⟨tenant, accepted, secret, sound _ accepted⟩

example : tenantFromAuthorizationHeader Runtime.plain
    (parseConfig Runtime.plain plainLibrary acmeEnvironment) (some "Basic constructor:") =
      .ok (some (.inherited (.function "Object"))) :=
  rfl

end TransactionService.Environment
