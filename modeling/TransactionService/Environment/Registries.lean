import TransactionService.Environment

namespace TransactionService.Environment

/-! # The registries of an environment -/

section

variable {runtime : Runtime} {env : Environment}

/-! ## Slugs -/

def IsSlug (slug : String) : Prop :=
  slug ≠ "" ∧ slug.toList.all isSlugCharacter = true

private theorem drop_take_between (start middle finish : List Char) :
    ((start ++ middle ++ finish).drop start.length).take
      ((start ++ middle ++ finish).length - start.length - finish.length) = middle := by
  have length : (start ++ middle ++ finish).length - start.length - finish.length =
      middle.length := by
    simp only [List.length_append]
    omega
  rw [length, List.append_assoc, List.drop_left, List.take_left]

theorem slugBetween_eq_some {start finish key slug : String} :
    slugBetween start finish key = some slug ↔
      key = start ++ slug ++ finish ∧ IsSlug slug := by
  constructor
  · intro found
    simp only [slugBetween] at found
    split at found
    · rename_i parts
      cases found
      rcases parts with ⟨whole, nonempty, characters⟩
      refine ⟨whole, ?_, by simpa using characters⟩
      intro empty
      exact nonempty (by simpa using congrArg String.toList empty)
    · cases found
  · rintro ⟨rfl, nonempty, characters⟩
    have middle : ((start ++ slug ++ finish).toList.drop start.length).take
        ((start ++ slug ++ finish).length - start.length - finish.length) =
          slug.toList := by
      rw [← String.length_toList, ← String.length_toList, ← String.length_toList,
        String.toList_append, String.toList_append]
      exact drop_take_between _ _ _
    have isText : slug.toList ≠ [] := by
      intro empty
      exact nonempty (String.toList_inj.mp empty)
    simp only [slugBetween, middle, String.ofList_toList]
    rw [if_pos ⟨trivial, isText, characters⟩]

/-! ## Assignments that agree -/

theorem lookup_assignMembers_iff {items : List (String × Json)}
    (agree : ∀ name value other, (name, value) ∈ items → (name, other) ∈ items →
      value = other) {name : String} {value : Json} :
    (assignMembers items).lookup name = some value ↔ (name, value) ∈ items := by
  rw [lookup_assignMembers]
  constructor
  · intro found
    exact List.mem_reverse.mp (mem_of_lookup found)
  · intro member
    cases found : items.reverse.lookup name with
    | none =>
        have absent := List.lookup_eq_none_iff.mp found _ (List.mem_reverse.mpr member)
        simp at absent
    | some other =>
        have otherMember := List.mem_reverse.mp (mem_of_lookup found)
        rw [agree name value other member otherMember]

/-! ## Configured registries -/

private theorem acceptedIssuersOf_empty : acceptedIssuersOf "" = [] := by
  decide

inductive Configured (env : Environment) : String → Json → Prop
  | oidf {slug trustAnchorEC : String} (isSlug : IsSlug slug)
      (anchored : trimmedVariable env ("REGISTRY_OIDF_" ++ slug ++ "_TRUST_ANCHOR_EC") =
        trustAnchorEC)
      (nonempty : trustAnchorEC ≠ "") :
      Configured env ("OIDF_" ++ slug) (oidfRegistry slug trustAnchorEC)
  | vcRecognition {slug url : String} {acceptedIssuers : List String}
      (isSlug : IsSlug slug)
      (located : trimmedVariable env ("REGISTRY_VC_RECOGNITION_" ++ slug ++ "_URL") = url)
      (nonempty : url ≠ "")
      (accepts : acceptedIssuersOf (trimmedVariable env
        ("REGISTRY_VC_RECOGNITION_" ++ slug ++ "_ACCEPTED_ISSUERS")) = acceptedIssuers)
      (someIssuer : acceptedIssuers ≠ []) :
      Configured env ("VC_RECOGNITION_" ++ slug)
        (vcRecognitionRegistry slug url acceptedIssuers)

theorem vcRecognitionEntry_eq_some {key name : String} {registry : Json} :
    vcRecognitionEntry env key = some (name, registry) ↔
      ∃ slug url acceptedIssuers, key = "REGISTRY_VC_RECOGNITION_" ++ slug ++ "_URL" ∧
        IsSlug slug ∧ trimmedVariable env key = url ∧ url ≠ "" ∧
        acceptedIssuersOf (trimmedVariable env
          ("REGISTRY_VC_RECOGNITION_" ++ slug ++ "_ACCEPTED_ISSUERS")) = acceptedIssuers ∧
        acceptedIssuers ≠ [] ∧ name = "VC_RECOGNITION_" ++ slug ∧
        registry = vcRecognitionRegistry slug url acceptedIssuers := by
  constructor
  · intro contributes
    unfold vcRecognitionEntry at contributes
    split at contributes
    · cases contributes
    · rename_i slug isKey
      rcases slugBetween_eq_some.mp isKey with ⟨rfl, isSlug⟩
      dsimp only at contributes
      split at contributes
      · cases contributes
      · rename_i located
        split at contributes
        · cases contributes
        · split at contributes
          · cases contributes
          · rename_i someIssuer
            cases contributes
            exact ⟨slug, _, _, rfl, isSlug, rfl, located, rfl, someIssuer, rfl, rfl⟩
  · rintro ⟨slug, url, acceptedIssuers, rfl, isSlug, rfl, located, rfl, someIssuer, rfl, rfl⟩
    have isKey := slugBetween_eq_some.mpr
      ⟨(rfl : "REGISTRY_VC_RECOGNITION_" ++ slug ++ "_URL" = _), isSlug⟩
    have listed : trimmedVariable env
        ("REGISTRY_VC_RECOGNITION_" ++ slug ++ "_ACCEPTED_ISSUERS") ≠ "" := by
      intro empty
      rw [empty, acceptedIssuersOf_empty] at someIssuer
      exact someIssuer rfl
    simp only [vcRecognitionEntry, isKey, if_neg located, if_neg listed, if_neg someIssuer]

theorem oidfEntry_eq_some {key name : String} {registry : Json} :
    oidfEntry env key = some (name, registry) ↔
      ∃ slug trustAnchorEC, key = "REGISTRY_OIDF_" ++ slug ++ "_TRUST_ANCHOR_EC" ∧
        IsSlug slug ∧ trimmedVariable env key = trustAnchorEC ∧ trustAnchorEC ≠ "" ∧
        name = "OIDF_" ++ slug ∧ registry = oidfRegistry slug trustAnchorEC := by
  constructor
  · intro contributes
    unfold oidfEntry at contributes
    split at contributes
    · cases contributes
    · rename_i slug isKey
      rcases slugBetween_eq_some.mp isKey with ⟨rfl, isSlug⟩
      dsimp only at contributes
      split at contributes
      · cases contributes
      · rename_i anchored
        cases contributes
        exact ⟨slug, _, rfl, isSlug, rfl, anchored, rfl, rfl⟩
  · rintro ⟨slug, trustAnchorEC, rfl, isSlug, rfl, anchored, rfl, rfl⟩
    have isKey := slugBetween_eq_some.mpr
      ⟨(rfl : "REGISTRY_OIDF_" ++ slug ++ "_TRUST_ANCHOR_EC" = _), isSlug⟩
    simp only [oidfEntry, isKey, if_neg anchored]

theorem mem_of_trimmedVariable {name : String} (nonempty : trimmedVariable env name ≠ "") :
    ∃ value, (name, value) ∈ env := by
  unfold trimmedVariable at nonempty
  split at nonempty
  · rename_i raw found
    exact ⟨raw, mem_of_lookup found⟩
  · exact absurd rfl nonempty

def oidfEntries (env : Environment) : List (String × Json) :=
  env.filterMap fun entry => oidfEntry env entry.1

def vcRecognitionEntries (env : Environment) : List (String × Json) :=
  env.filterMap fun entry => vcRecognitionEntry env entry.1

theorem configured_of_oidf {name : String} {registry : Json}
    (member : (name, registry) ∈ oidfEntries env) : Configured env name registry := by
  rcases List.mem_filterMap.mp member with ⟨⟨key, value⟩, -, contributes⟩
  rcases oidfEntry_eq_some.mp contributes with
    ⟨slug, trustAnchorEC, isKey, isSlug, anchored, nonempty, rfl, rfl⟩
  cases isKey
  exact .oidf isSlug anchored nonempty

theorem configured_of_vcRecognition {name : String} {registry : Json}
    (member : (name, registry) ∈ vcRecognitionEntries env) :
    Configured env name registry := by
  rcases List.mem_filterMap.mp member with ⟨⟨key, value⟩, -, contributes⟩
  rcases vcRecognitionEntry_eq_some.mp contributes with
    ⟨slug, url, acceptedIssuers, isKey, isSlug, located, nonempty, accepts, someIssuer,
      rfl, rfl⟩
  cases isKey
  exact .vcRecognition isSlug located nonempty accepts someIssuer

private theorem mem_entries_of_configured {name : String} {registry : Json}
    (configured : Configured env name registry) :
    (name, registry) ∈ oidfEntries env ∨ (name, registry) ∈ vcRecognitionEntries env := by
  cases configured with
  | oidf isSlug anchored nonempty =>
      rcases mem_of_trimmedVariable (anchored.symm ▸ nonempty) with ⟨value, isEntry⟩
      exact .inl (List.mem_filterMap.mpr ⟨_, isEntry, oidfEntry_eq_some.mpr
        ⟨_, _, rfl, isSlug, anchored, nonempty, rfl, rfl⟩⟩)
  | vcRecognition isSlug located nonempty accepts someIssuer =>
      rcases mem_of_trimmedVariable (located.symm ▸ nonempty) with ⟨value, isEntry⟩
      exact .inr (List.mem_filterMap.mpr ⟨_, isEntry, vcRecognitionEntry_eq_some.mpr
        ⟨_, _, _, rfl, isSlug, located, nonempty, accepts, someIssuer, rfl, rfl⟩⟩)

def Known (env : Environment) (name : String) (registry : Json) : Prop :=
  (name, registry) ∈ staticKnownRegistries ∨ Configured env name registry

/-! ## Names tell the registries apart -/

theorem oidf_ne_vcRecognition (slug other : String) :
    "OIDF_" ++ slug ≠ "VC_RECOGNITION_" ++ other := by
  intro same
  have characters := congrArg String.toList same
  simp at characters

theorem configured_unique {name : String} {registry other : Json}
    (configured : Configured env name registry) (again : Configured env name other) :
    registry = other := by
  generalize isName : name = same at again
  cases configured with
  | oidf isSlug anchored nonempty =>
      cases again with
      | oidf otherSlug otherAnchored otherNonempty =>
          cases (String.append_right_inj _).mp isName
          rw [← anchored, ← otherAnchored]
      | vcRecognition => exact absurd isName (oidf_ne_vcRecognition _ _)
  | vcRecognition isSlug located nonempty accepts someIssuer =>
      cases again with
      | oidf => exact absurd isName.symm (oidf_ne_vcRecognition _ _)
      | vcRecognition otherSlug otherLocated otherNonempty otherAccepts otherSome =>
          cases (String.append_right_inj _).mp isName
          rw [← located, ← otherLocated, ← accepts, ← otherAccepts]

theorem not_configured_static {name : String} {registry other : Json}
    (isStatic : (name, registry) ∈ staticKnownRegistries) :
    ¬ Configured env name other := by
  have begins : name.toList.head? = some 'D' := by
    simp only [staticKnownRegistries, List.mem_cons, Prod.mk.injEq, List.not_mem_nil,
      or_false] at isStatic
    rcases isStatic with ⟨rfl, -⟩ | ⟨rfl, -⟩ | ⟨rfl, -⟩ <;> rfl
  intro configured
  cases configured with
  | oidf => simp at begins
  | vcRecognition => simp at begins

theorem static_unique {name : String} {registry other : Json}
    (isStatic : (name, registry) ∈ staticKnownRegistries)
    (again : (name, other) ∈ staticKnownRegistries) : registry = other := by
  have distinct : (staticKnownRegistries.map Prod.fst).Nodup := by decide
  have found := lookup_of_mem distinct isStatic
  rw [lookup_of_mem distinct again] at found
  exact (Option.some.inj found).symm

theorem known_unique {name : String} {registry other : Json}
    (known : Known env name registry) (again : Known env name other) :
    registry = other := by
  rcases known with isStatic | configured
  · rcases again with alsoStatic | configured
    · exact static_unique isStatic alsoStatic
    · exact absurd configured (not_configured_static isStatic)
  · rcases again with isStatic | alsoConfigured
    · exact absurd configured (not_configured_static isStatic)
    · exact configured_unique configured alsoConfigured

/-! ## Looking a registry up -/

theorem mem_assignMembers_iff {items : List (String × Json)}
    (agree : ∀ name value other, (name, value) ∈ items → (name, other) ∈ items →
      value = other) {name : String} {value : Json} :
    (name, value) ∈ assignMembers items ↔ (name, value) ∈ items := by
  rw [← lookup_assignMembers_iff agree]
  constructor
  · intro member
    exact lookup_of_mem (nodup_assignMembers items) member
  · intro found
    exact mem_of_lookup found

private theorem mem_parseOidfRegistries {name : String} {registry : Json} :
    (name, registry) ∈ parseOidfRegistriesFromEnv env ↔ (name, registry) ∈ oidfEntries env := by
  apply mem_assignMembers_iff
  intro name value other member otherMember
  exact configured_unique (configured_of_oidf member) (configured_of_oidf otherMember)

private theorem mem_parseVcRecognitionRegistries {name : String} {registry : Json} :
    (name, registry) ∈ parseVcRecognitionRegistriesFromEnv env ↔
      (name, registry) ∈ vcRecognitionEntries env := by
  apply mem_assignMembers_iff
  intro name value other member otherMember
  exact configured_unique (configured_of_vcRecognition member)
    (configured_of_vcRecognition otherMember)

theorem mem_knownItems {name : String} {registry : Json} :
    (name, registry) ∈ staticKnownRegistries ++ parseOidfRegistriesFromEnv env ++
      parseVcRecognitionRegistriesFromEnv env ↔ Known env name registry := by
  simp only [List.mem_append, mem_parseOidfRegistries, mem_parseVcRecognitionRegistries]
  constructor
  · rintro ((isStatic | oidf) | vcRecognition)
    · exact .inl isStatic
    · exact .inr (configured_of_oidf oidf)
    · exact .inr (configured_of_vcRecognition vcRecognition)
  · rintro (isStatic | configured)
    · exact .inl (.inl isStatic)
    · rcases mem_entries_of_configured configured with oidf | vcRecognition
      · exact .inl (.inr oidf)
      · exact .inr vcRecognition

theorem lookup_buildKnownRegistries {name : String} {registry : Json} :
    (buildKnownRegistries env).lookup name = some registry ↔ Known env name registry := by
  rw [buildKnownRegistries, lookup_assignMembers_iff, mem_knownItems]
  intro name value other member otherMember
  exact known_unique (mem_knownItems.mp member) (mem_knownItems.mp otherMember)

/-! ## Resolving names -/

def standIn (runtime : Runtime) (name : String) : Json :=
  dccLegacyRegistry name
    (if Text.startsWith "http" name then name
    else "https://example.com/" ++
      String.ofList (Text.replaceSpaces ['-'] false (runtime.toLowerCase name).toList) ++
      ".json")

/-- What a name stands for. Names that every object inherits find no registry, but
what is inherited. -/
inductive Resolves (runtime : Runtime) (env : Environment) (name : String) :
    EntityIdentityRegistry → Prop
  | known {registry : Json} (isKnown : Known env name registry) :
      Resolves runtime env name (.json registry)
  | inherited {reference : Json.Reference}
      (unknown : ∀ registry, ¬ Known env name registry)
      (inherits : (Json.Reference.json (.obj [])).property name = some reference) :
      Resolves runtime env name reference
  | other (unknown : ∀ registry, ¬ Known env name registry)
      (inheritsNothing : (Json.Reference.json (.obj [])).property name = none) :
      Resolves runtime env name (.json (standIn runtime name))

theorem property_known {name : String} {registry : Json} (known : Known env name registry) :
    (Json.Reference.json (.obj (buildKnownRegistries env))).property name =
      some (.json registry) := by
  simp only [Json.Reference.property, lookup_buildKnownRegistries.mpr known]

theorem property_unknown {name : String} (unknown : ∀ registry, ¬ Known env name registry) :
    (Json.Reference.json (.obj (buildKnownRegistries env))).property name =
      (Json.Reference.json (.obj [])).property name := by
  have absent : (buildKnownRegistries env).lookup name = none := by
    cases found : (buildKnownRegistries env).lookup name with
    | none => rfl
    | some registry => exact absurd (lookup_buildKnownRegistries.mp found) (unknown registry)
  simp only [Json.Reference.property, absent, List.lookup_nil]

def resolve (runtime : Runtime) (env : Environment) (name : String) :
    EntityIdentityRegistry :=
  match (Json.Reference.json (.obj (buildKnownRegistries env))).property name with
  | some registry => registry
  | none => .json (standIn runtime name)

theorem resolve_iff {name : String} {registry : EntityIdentityRegistry} :
    resolve runtime env name = registry ↔ Resolves runtime env name registry := by
  constructor
  · rintro rfl
    by_cases known : ∃ registry, Known env name registry
    · rcases known with ⟨registry, known⟩
      rw [resolve, property_known known]
      exact .known known
    · have unknown : ∀ registry, ¬ Known env name registry :=
        fun registry isKnown => known ⟨registry, isKnown⟩
      rw [resolve, property_unknown unknown]
      cases inherits : (Json.Reference.json (.obj [])).property name with
      | none => exact .other unknown inherits
      | some reference => exact .inherited unknown inherits
  · intro resolves
    cases resolves with
    | known isKnown => rw [resolve, property_known isKnown]
    | inherited unknown inherits => rw [resolve, property_unknown unknown, inherits]
    | other unknown inheritsNothing =>
        rw [resolve, property_unknown unknown, inheritsNothing]

/-- Registry names are resolved one by one: to the registry that the environment
configures under the name, whatever else it configures, or the one that is built in,
and to a stand-in when there is none. -/
theorem registries_resolve (names : List String)
    (registries : List EntityIdentityRegistry) :
    mapRegistryNamesToRegistries runtime names (buildKnownRegistries env) = registries ↔
      List.Forall₂ (Resolves runtime env) names registries := by
  have resolved : mapRegistryNamesToRegistries runtime names (buildKnownRegistries env) =
      names.map (resolve runtime env) := rfl
  rw [resolved]
  clear resolved
  induction names generalizing registries with
  | nil => simp [eq_comm]
  | cons name rest induction =>
      cases registries with
      | nil => simp
      | cons registry others =>
          rw [List.map_cons, List.cons.injEq, List.forall₂_cons]
          exact and_congr resolve_iff (induction others)

end

/-- The second of the default registries is not one of those built in. -/
example : resolve Runtime.plain [] "DCC Issuer Registry" =
    .json (standIn Runtime.plain "DCC Issuer Registry") := rfl

end TransactionService.Environment
