import TransactionService.Auth

namespace TransactionService.Auth

/-! # What an accepted Authorization header proves -/

variable {runtime : Runtime} {config : Config}

/-- The text decodes to a user without a colon, a colon and a password. -/
def BasicHeader (runtime : Runtime) (authorization user password : String) : Prop :=
  ∃ encoded rest, Text.splitOn ' ' authorization = "Basic" :: encoded :: rest ∧
    encoded ≠ "" ∧ ':' ∉ user.toList ∧
    runtime.decodeBase64 encoded = user ++ ":" ++ password

def BearerHeader (authorization token : String) : Prop :=
  ∃ rest, Text.splitOn ' ' authorization = "Bearer" :: rest ∧
    token = rest.head?.getD ""

/-- `name`, in any letter case, finds the tenant. -/
def Names (runtime : Runtime) (config : Config) (name : String) (tenant : TenantEntry) :
    Prop :=
  config.tenantAt (tenantKey runtime name) = some tenant

/-- The ways in which a header proves knowledge of a tenant's secret. What is found
without being a tenant has no secret. -/
inductive ProvesSecret (runtime : Runtime) (config : Config) (authorization : String)
    (tenant : TenantEntry) : Prop
  | basic (user password : String)
      (header : BasicHeader runtime authorization user password)
      (names : Names runtime config user tenant)
      (secret : tenant.tenantToken = some password)
  | bearer (token : String) (header : BearerHeader authorization token)
      (listed : ∃ name holder, (name, holder) ∈ config.tenants ∧
        tenant = .configured holder)
      (secret : tenant.tenantToken = some token)
  | accessToken (token sub : String) (payload : Json)
      (header : BearerHeader authorization token)
      (accepted : verifyAccessToken runtime config token = some payload)
      (subject : payload.field "sub" = some (.str sub))
      (names : Names runtime config sub tenant)

def Sound (runtime : Runtime) (config : Config) (authorization : String) : Prop :=
  ∀ tenant, tenantFromAuthorizationHeader runtime config (some authorization) =
    .ok (some tenant) → ProvesSecret runtime config authorization tenant

/-! ## The decoded credentials -/

private theorem split_at_colon {user user' password password' : String}
    (absent : ':' ∉ user.toList) (absent' : ':' ∉ user'.toList)
    (same : user ++ ":" ++ password = user' ++ ":" ++ password') :
    user = user' ∧ password = password' := by
  have lists : user.toList ++ ':' :: password.toList =
      user'.toList ++ ':' :: password'.toList := by
    have := congrArg String.toList same
    simpa using this
  have position := Text.indexOf_append password.toList absent
  rw [lists, Text.indexOf_append password'.toList absent', Option.some.injEq] at position
  have parts := List.append_inj lists position.symm
  exact ⟨String.toList_inj.mp parts.1,
    String.toList_inj.mp (List.cons.inj parts.2).2⟩

theorem parseBasicAuthCredentials_eq_some {authorization user password : String} :
    parseBasicAuthCredentials runtime authorization = some ⟨user, password⟩ ↔
      BasicHeader runtime authorization user password ∧ user ≠ "" := by
  constructor
  · intro parsed
    unfold parseBasicAuthCredentials at parsed
    split at parsed
    · rename_i scheme encoded rest pieces
      split at parsed
      · cases parsed
      · rename_i accepted
        rcases not_or.mp accepted with ⟨schemeBasic, nonempty⟩
        dsimp only at parsed
        split at parsed
        · cases parsed
        · rename_i colon found
          split at parsed
          · cases parsed
          · rename_i positive
            rcases Text.indexOf_eq_some found with ⟨before, after, decoded, absent, rfl⟩
            simp only [decoded, Text.sliceTo_append, Text.sliceFrom_append_cons,
              Option.some.injEq, BasicAuthCredentials.mk.injEq] at parsed
            rcases parsed with ⟨rfl, rfl⟩
            refine ⟨⟨encoded, rest, ?_, nonempty, by simpa using absent, ?_⟩, ?_⟩
            · rw [pieces, Decidable.not_not.mp schemeBasic]
            · rw [decoded]
              simp [String.append_assoc]
            · intro empty
              have : before = [] := by simpa using congrArg String.toList empty
              simp [this] at positive
    · cases parsed
  · rintro ⟨⟨encoded, rest, pieces, nonempty, absent, decoded⟩, named⟩
    have position := Text.indexOf_append password.toList absent
    have text : String.ofList (user.toList ++ ':' :: password.toList) =
        user ++ ":" ++ password := by
      simp [String.append_assoc]
    rw [text] at position
    have positive : ¬ user.toList.length < 1 := by
      intro short
      apply named
      apply String.toList_inj.mp
      exact List.length_eq_zero_iff.mp (by omega)
    have before := Text.sliceTo_append user.toList (':' :: password.toList)
    have after := Text.sliceFrom_append_cons user.toList password.toList ':'
    rw [text] at before after
    simp [parseBasicAuthCredentials, pieces, nonempty, decoded, position, positive,
      before, after]

/-! ## The two schemes -/

theorem getTenant_token {token : String} {tenant : TenantEntry}
    (found : getTenant runtime config none (some token) = some tenant) :
    ∃ name holder, (name, holder) ∈ config.tenants ∧ tenant = .configured holder ∧
      holder.tenantToken = token := by
  unfold getTenant at found
  split at found
  · cases found
  · by_cases empty : token = ""
    · simp [empty] at found
    · simp only [Text.given_some empty, Text.given_none] at found
      rcases Option.map_eq_some_iff.mp found with ⟨holder, isHolder, same⟩
      rcases mem_objectValues.mp (List.mem_of_find?_eq_some isHolder) with ⟨name, member⟩
      exact ⟨name, holder, member, same.symm, by simpa using List.find?_some isHolder⟩

theorem getTenant_name {user password : String} (named : user ≠ "")
    (enabled : config.tenantAuthenticationEnabled = true) {tenant : TenantEntry} :
    getTenant runtime config (some user) (some password) = some tenant ↔
      Names runtime config user tenant ∧
        (password = "" ∨ tenant.tenantToken = some password) := by
  unfold getTenant Names
  rw [Text.given_some named]
  by_cases empty : password = ""
  · simp [enabled, empty]
  · simp only [enabled, Text.given_some empty, Bool.not_true, Bool.false_eq_true, if_false,
      empty, false_or]
    cases entry : config.tenantAt (tenantKey runtime user) with
    | none => simp
    | some other =>
        simp only [Option.some.injEq]
        split
        · rename_i same
          constructor
          · intro equal
            cases equal
            exact ⟨rfl, same⟩
          · rintro ⟨rfl, -⟩
            rfl
        · rename_i different
          constructor
          · intro impossible
            cases impossible
          · rintro ⟨rfl, same⟩
            exact absurd same different

private theorem authenticateTenant_sound {authorization token : String} {tenant : TenantEntry}
    (header : BearerHeader authorization token)
    (found : authenticateTenant runtime config token = .ok (some tenant)) :
    ProvesSecret runtime config authorization tenant := by
  unfold authenticateTenant at found
  split at found
  · cases found
  · split at found
    · rename_i payload accepted
      split at found
      · rename_i sub subject
        exact .accessToken token sub payload header accepted subject (Except.ok.inj found)
      · cases found
    · rcases getTenant_token (Except.ok.inj found) with ⟨name, holder, member, rfl, rfl⟩
      exact .bearer holder.tenantToken header ⟨name, holder, member, rfl⟩ rfl

theorem tenantFromAuthorizationHeader_basic {authorization user password : String}
    (header : BasicHeader runtime authorization user password) (named : user ≠ "") :
    tenantFromAuthorizationHeader runtime config (some authorization) =
      .ok (getTenant runtime config (some user) (some password)) := by
  have parsed := parseBasicAuthCredentials_eq_some.mpr ⟨header, named⟩
  rcases header with ⟨encoded, rest, pieces, -, -, -⟩
  have nonempty : authorization ≠ "" := by
    intro empty
    rw [empty] at pieces
    simp [Text.splitOn] at pieces
  simp [tenantFromAuthorizationHeader, Text.given_some nonempty, pieces, parsed]

theorem accepted_cases (enabled : config.tenantAuthenticationEnabled = true)
    {authorization : String} {tenant : TenantEntry}
    (found : tenantFromAuthorizationHeader runtime config (some authorization) =
      .ok (some tenant)) :
    (∃ user, user ≠ "" ∧ BasicHeader runtime authorization user "" ∧
      Names runtime config user tenant) ∨
    ProvesSecret runtime config authorization tenant := by
  unfold tenantFromAuthorizationHeader at found
  split at found
  · cases found
  · rename_i text isGiven
    have same : authorization = text := by
      unfold Text.given at isGiven
      exact (Option.filter_eq_some_iff.mp isGiven).1 |> Option.some.inj
    subst same
    split at found
    · cases found
    · rename_i scheme rest pieces
      split at found
      · split at found
        · cases found
        · rename_i creds parsed
          rcases parseBasicAuthCredentials_eq_some.mp parsed with ⟨header, named⟩
          rcases (getTenant_name named enabled).mp (Except.ok.inj found) with
            ⟨names, empty | secret⟩
          · exact .inl ⟨creds.user, named, empty ▸ header, names⟩
          · exact .inr (.basic creds.user creds.password header names secret)
      · split at found
        · rename_i bearer
          exact .inr (authenticateTenant_sound ⟨rest, bearer ▸ pieces, rfl⟩ found)
        · cases found

theorem authenticated_as {authorization : Option String}
    {authTenant : Option TenantEntry} (enabled : config.tenantAuthenticationEnabled = true)
    (authenticated : authenticateTenantMiddleware runtime config authorization =
      .ok authTenant) :
    ∃ text tenant, authorization = some text ∧ authTenant = some tenant ∧
      tenantFromAuthorizationHeader runtime config (some text) = .ok (some tenant) := by
  simp only [authenticateTenantMiddleware, enabled, Bool.not_true, Bool.false_eq_true,
    if_false] at authenticated
  split at authenticated
  · cases authenticated
  · cases authenticated
  · rename_i tenant accepted
    cases authenticated
    cases authorization with
    | none => cases accepted
    | some text => exact ⟨text, tenant, rfl, rfl, accepted⟩

theorem not_provesSecret_of_empty {authorization user : String} {tenant : TenantEntry}
    (secret : tenant.tenantToken ≠ some "")
    (header : BasicHeader runtime authorization user "") :
    ¬ ProvesSecret runtime config authorization tenant := by
  rcases header with ⟨encoded, rest, pieces, -, absent, decoded⟩
  intro proof
  cases proof with
  | basic user' password' header' names same =>
      rcases header' with ⟨encoded', rest', pieces', -, absent', decoded'⟩
      rw [pieces] at pieces'
      cases pieces'
      rw [decoded] at decoded'
      have isEmpty : password' = "" := (split_at_colon absent absent' decoded').2.symm
      exact secret (isEmpty ▸ same)
  | bearer token header' listed same =>
      rcases header' with ⟨rest', pieces', -⟩
      rw [pieces] at pieces'
      simp at pieces'
  | accessToken token sub payload header' accepted subject names =>
      rcases header' with ⟨rest', pieces', -⟩
      rw [pieces] at pieces'
      simp at pieces'

/-- Authentication is sound exactly for the headers that do not name a tenant
with an empty Basic password. -/
theorem sound_iff (enabled : config.tenantAuthenticationEnabled = true)
    (secrets : ∀ name tenant, (name, tenant) ∈ config.tenants →
      tenant.tenantToken ≠ "")
    (authorization : String) :
    Sound runtime config authorization ↔
      ¬ ∃ user tenant, user ≠ "" ∧ BasicHeader runtime authorization user "" ∧
        Names runtime config user tenant := by
  constructor
  · rintro sound ⟨user, tenant, named, header, names⟩
    have found : tenantFromAuthorizationHeader runtime config (some authorization) =
        .ok (some tenant) := by
      rw [tenantFromAuthorizationHeader_basic header named,
        (getTenant_name named enabled).mpr ⟨names, .inl rfl⟩]
    have secret : tenant.tenantToken ≠ some "" := by
      cases tenant with
      | configured tenant =>
          have isEntry := mem_of_lookup (Config.tenantAt_eq_configured.mp names)
          exact fun empty => secrets _ tenant isEntry (Option.some.inj empty)
      | inherited reference =>
          intro impossible
          cases impossible
    exact not_provesSecret_of_empty secret header (sound tenant found)
  · intro none tenant found
    rcases accepted_cases enabled found with ⟨user, named, header, names⟩ | proof
    · exact absurd ⟨user, tenant, named, header, names⟩ none
    · exact proof

/-! ## One configured tenant -/

def acme : Tenant where
  tenantName := "acme"
  tenantToken := "s3cret"

def acmeConfig : Config where
  tenants := [("acme", acme)]
  tenantAuthenticationEnabled := true

/-- `YWNtZTo=` is the encoding of `acme:`. -/
def acmeRuntime : Runtime :=
  { Runtime.plain with
    decodeBase64 := fun text => if text = "YWNtZTo=" then "acme:" else "" }

theorem acme_secrets : ∀ name tenant, (name, tenant) ∈ acmeConfig.tenants →
    tenant.tenantToken ≠ "" := by
  intro name tenant member
  rcases List.mem_singleton.mp member with ⟨⟩
  decide

theorem sound_iff_bearer : Sound acmeRuntime acmeConfig "Bearer s3cret" := by
  apply (sound_iff rfl acme_secrets "Bearer s3cret").mpr
  rintro ⟨user, tenant, -, ⟨encoded, rest, pieces, -⟩, -⟩
  have split : Text.splitOn ' ' "Bearer s3cret" = ["Bearer", "s3cret"] := by decide
  rw [split] at pieces
  simp at pieces

theorem empty_password_accepted :
    acmeConfig.tenantAuthenticationEnabled = true ∧
      (∀ name tenant, (name, tenant) ∈ acmeConfig.tenants → tenant.tenantToken ≠ "") ∧
      tenantFromAuthorizationHeader acmeRuntime acmeConfig (some "Basic YWNtZTo=") =
        .ok (some (.configured acme)) ∧
      ¬ Sound acmeRuntime acmeConfig "Basic YWNtZTo=" := by
  have header : BasicHeader acmeRuntime "Basic YWNtZTo=" "acme" "" :=
    ⟨"YWNtZTo=", [], by decide, by decide, by decide, by decide⟩
  have accepted : tenantFromAuthorizationHeader acmeRuntime acmeConfig
      (some "Basic YWNtZTo=") = .ok (some (.configured acme)) := by
    rw [tenantFromAuthorizationHeader_basic header (by decide)]
    rfl
  refine ⟨rfl, acme_secrets, accepted, fun sound => ?_⟩
  exact not_provesSecret_of_empty (by decide) header (sound (.configured acme) accepted)

end TransactionService.Auth
