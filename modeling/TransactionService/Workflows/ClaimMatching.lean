import Mathlib.Data.List.Induction
import TransactionService.Workflows.Outcome

namespace TransactionService.ClaimMatching

/-! # Which credentials match the claims

A claim asks for a value at a path of own properties. The service collects the
values it finds under the joined path, so that claims can get in each other's
way. -/

def admits (claim : DcqlClaim) : Option Json.Reference → Bool
  | none => false
  | some value =>
      (claim.values.getD []).isEmpty ||
        value.toText.any fun text => (claim.values.getD []).contains text

def own (credential : Json) (claim : DcqlClaim) : Option Json.Reference :=
  (credential.ownValue claim.path).map .json

def meetsClaim (credential : Json) (claim : DcqlClaim) : Bool :=
  claim.path.isEmpty || admits claim (own credential claim)

def meetsClaims (claims : List DcqlClaim) (credential : Json) : Bool :=
  claims.all (meetsClaim credential)

def matching (claims : List DcqlClaim) {Check : Type}
    (credentialResults : List (CredentialVerificationResult Check)) : List Json :=
  (credentialResults.filterMap presentCredential).filter (meetsClaims claims)

def Asked (claims : List DcqlClaim) (claim : DcqlClaim) : Prop :=
  claim ∈ claims ∧ claim.path ≠ []

def reached (claims : List DcqlClaim) (credential : Json) (key : String) :
    List Json.Reference :=
  claims.filterMap fun claim =>
    if claim.path.isEmpty || claim.pathKey != key then none
    else walkPath (.json credential) claim.path

/-- Null and objects can be prototypes; a function is an object. -/
def canBePrototype : Json.Reference → Bool
  | .json .null => true
  | .json value => value.isObjectLike
  | _ => true

/-- The name `__proto__` still stands for the prototype: the accessor is inherited,
and no member of the prototype hides it. -/
def inheritsAccessor : Json.Reference → Bool
  | .json .null => false
  | .json (.obj members) => (members.lookup "__proto__").isNone
  | _ => true

/-- What `__proto__` stands for in the object of all values: its prototype and, once
the accessor is gone, a member of its own. -/
structure ProtoName where
  prototype : Json.Reference := .objectPrototype
  member : Option Json.Reference := none

def ProtoName.assign (name : ProtoName) (value : Json.Reference) : ProtoName :=
  if inheritsAccessor name.prototype then
    if canBePrototype value then { name with prototype := value } else name
  else { name with member := some value }

def protoName (claims : List DcqlClaim) (credential : Json) : ProtoName :=
  (reached claims credential "__proto__").foldl ProtoName.assign {}

def ProtoName.value (name : ProtoName) : Option Json.Reference :=
  name.member.or
    (if inheritsAccessor name.prototype then some name.prototype
    else name.prototype.property "__proto__")

/-- The value under the key of a claim: the last one that a claim with this key
reaches, or else a property that the object of all values inherits. -/
def found (claims : List DcqlClaim) (credential : Json) (claim : DcqlClaim) :
    Option Json.Reference :=
  if claim.pathKey = "__proto__" then (protoName claims credential).value
  else
    (reached claims credential claim.pathKey).getLast?.or
      ((protoName claims credential).prototype.property claim.pathKey)

/-- A value that has to be compared has a text. -/
def Comparable (claim : DcqlClaim) (value : Option Json.Reference) : Prop :=
  ∀ reference, value = some reference → claim.values.getD [] ≠ [] →
    reference.toText.isSome = true

/-- The claims do not get in each other's way, or it makes no difference. -/
structure Undisturbed (claims : List DcqlClaim) (credential : Json) : Prop where
  comparable : ∀ claim, Asked claims claim → Comparable claim (found claims credential claim)
  /-- A claim judged otherwise than by its own value is outvoted: some claim is
  not met by its own value, and some claim not by the value found. -/
  outvoted : ∀ claim, Asked claims claim →
    admits claim (found claims credential claim) ≠ admits claim (own credential claim) →
    (∃ other, Asked claims other ∧ admits other (own credential other) = false) ∧
      ∃ other, Asked claims other ∧ admits other (found claims credential other) = false

/-- No claim reads anything but the value at its own path. -/
structure Unambiguous (claims : List DcqlClaim) (credential : Json) : Prop where
  /-- Whatever is found under the key of a claim is the own property it names. -/
  ownPath : ∀ claim other, Asked claims claim → Asked claims other →
    other.pathKey = claim.pathKey →
    walkPath (.json credential) other.path = own credential claim
  /-- A value that is not there is not inherited by the object of all values. -/
  notInherited : ∀ claim, Asked claims claim → own credential claim = none →
    Json.objectPrototypeProperty claim.pathKey = none
  /-- No value becomes the prototype of the object of all values. -/
  notPrototype : ∀ claim, Asked claims claim → claim.pathKey ≠ "__proto__"
  comparable : ∀ claim, Asked claims claim → Comparable claim (own credential claim)

/-! ## What the object of all values holds -/

section

variable {claims : List DcqlClaim} {credential : Json} {claim : DcqlClaim}

theorem asked_cons {first : DcqlClaim} {rest : List DcqlClaim} :
    Asked (first :: rest) claim ↔ (claim = first ∧ first.path ≠ []) ∨ Asked rest claim := by
  unfold Asked
  grind

def extractStep (credential : Json) (extractedClaims : ExtractedClaims)
    (claim : DcqlClaim) : ExtractedClaims :=
  if claim.path.isEmpty then extractedClaims
  else
    match walkPath (.json credential) claim.path with
    | some value => extractedClaims.assign claim.pathKey value
    | none => extractedClaims

private theorem extractCredentialClaims_eq (credential : Json) (claims : List DcqlClaim) :
    extractCredentialClaims credential claims =
      claims.foldl (extractStep credential) {} :=
  rfl

private theorem reached_concat (credential : Json) (claims : List DcqlClaim) (claim : DcqlClaim)
    (key : String) :
    reached (claims ++ [claim]) credential key =
      reached claims credential key ++
        (if claim.path.isEmpty || claim.pathKey != key then none
          else walkPath (.json credential) claim.path).toList := by
  unfold reached
  rw [List.filterMap_append]
  rfl

theorem hasPrototypeAccessor_eq (extractedClaims : ExtractedClaims) :
    extractedClaims.hasPrototypeAccessor = inheritsAccessor extractedClaims.prototype :=
  rfl

private theorem assign_of_ne {extractedClaims : ExtractedClaims} {key : String}
    (notPrototype : key ≠ "__proto__") (value : Json.Reference) :
    extractedClaims.assign key value = { extractedClaims with
      members := setMember key value extractedClaims.members } := by
  simp [ExtractedClaims.assign, notPrototype]

/-- An assignment to `__proto__` sets the prototype, or a member. -/
private theorem assign_proto (extractedClaims : ExtractedClaims) (value : Json.Reference) :
    extractedClaims.assign "__proto__" value =
      if inheritsAccessor extractedClaims.prototype then
        if canBePrototype value then { extractedClaims with prototype := value }
        else extractedClaims
      else { extractedClaims with
        members := setMember "__proto__" value extractedClaims.members } := by
  unfold ExtractedClaims.assign
  rw [hasPrototypeAccessor_eq]
  cases inheritsAccessor extractedClaims.prototype with
  | false => simp
  | true =>
      rw [if_pos ⟨rfl, rfl⟩, if_pos rfl]
      cases value with
      | json value => cases value <;> rfl
      | function name => rfl
      | objectPrototype => rfl
      | arrayPrototype => rfl

/-- The object of all values, name by name. -/
structure Holds (claims : List DcqlClaim) (credential : Json)
    (extractedClaims : ExtractedClaims) : Prop where
  prototype : extractedClaims.prototype = (protoName claims credential).prototype
  proto : extractedClaims.members.lookup "__proto__" = (protoName claims credential).member
  others : ∀ key, key ≠ "__proto__" → extractedClaims.members.lookup key =
    (reached claims credential key).getLast?

theorem Holds.unreached {extractedClaims : ExtractedClaims}
    (holds : Holds claims credential extractedClaims)
    (unreached : ∀ key, reached (claims ++ [claim]) credential key =
      reached claims credential key) :
    Holds (claims ++ [claim]) credential extractedClaims := by
  have sameName : protoName (claims ++ [claim]) credential = protoName claims credential := by
    rw [protoName, unreached]
    rfl
  constructor
  · rw [sameName]
    exact holds.prototype
  · rw [sameName]
    exact holds.proto
  · intro key notProto
    rw [unreached]
    exact holds.others key notProto

theorem Holds.assign {extractedClaims : ExtractedClaims} {value : Json.Reference}
    (holds : Holds claims credential extractedClaims)
    (reaches : ∀ key, reached (claims ++ [claim]) credential key =
      reached claims credential key ++ if claim.pathKey = key then [value] else []) :
    Holds (claims ++ [claim]) credential (extractedClaims.assign claim.pathKey value) := by
  by_cases isProto : claim.pathKey = "__proto__"
  · have nextName : protoName (claims ++ [claim]) credential =
        (protoName claims credential).assign value := by
      rw [protoName, reaches, if_pos isProto, List.foldl_append]
      rfl
    have otherKeys : ∀ key, key ≠ "__proto__" → reached (claims ++ [claim]) credential key =
        reached claims credential key := by
      intro key notProto
      rw [reaches, if_neg fun same => notProto (same.symm.trans isProto), List.append_nil]
    rw [isProto, assign_proto, holds.prototype]
    unfold ProtoName.assign at nextName
    constructor
    · rw [nextName]
      split
      · split
        · rfl
        · exact holds.prototype
      · rfl
    · rw [nextName]
      split
      · split <;> exact holds.proto
      · exact lookup_setMember_self ..
    · intro key notProto
      rw [otherKeys key notProto, ← holds.others key notProto]
      split
      · split <;> rfl
      · exact lookup_setMember_of_ne notProto ..
  · have sameName : protoName (claims ++ [claim]) credential =
        protoName claims credential := by
      rw [protoName, reaches, if_neg isProto, List.append_nil]
      rfl
    rw [assign_of_ne isProto]
    constructor
    · rw [sameName]
      exact holds.prototype
    · rw [sameName, ← holds.proto]
      exact lookup_setMember_of_ne (Ne.symm isProto) ..
    · intro key notProto
      rw [reaches]
      by_cases same : claim.pathKey = key
      · subst same
        simp
      · rw [if_neg same, List.append_nil, ← holds.others key notProto]
        exact lookup_setMember_of_ne (Ne.symm same) ..

theorem Holds.extractStep {extractedClaims : ExtractedClaims}
    (holds : Holds claims credential extractedClaims) :
    Holds (claims ++ [claim]) credential
      (extractStep credential extractedClaims claim) := by
  have reaches := reached_concat credential claims claim
  unfold ClaimMatching.extractStep
  by_cases empty : claim.path.isEmpty = true
  · rw [if_pos empty]
    apply holds.unreached
    intro key
    simp [reaches, empty]
  · rw [if_neg empty]
    cases walked : walkPath (.json credential) claim.path with
    | none =>
        apply holds.unreached
        intro key
        simp [reaches, walked]
    | some value =>
        apply holds.assign
        intro key
        rw [reaches, walked]
        by_cases same : claim.pathKey = key
        · simp [empty, same]
        · simp [same]

theorem extractCredentialClaims_holds (credential : Json) (claims : List DcqlClaim) :
    Holds claims credential (extractCredentialClaims credential claims) := by
  induction claims using List.reverseRecOn with
  | nil => exact ⟨rfl, rfl, fun _ _ => rfl⟩
  | append_singleton claims claim induction =>
      have step : extractCredentialClaims credential (claims ++ [claim]) =
          ClaimMatching.extractStep credential
            (extractCredentialClaims credential claims) claim := by
        rw [extractCredentialClaims_eq, List.foldl_concat]
        rfl
      rw [step]
      exact induction.extractStep

/-- What the code reads under the key of a claim is what the claims leave there. -/
theorem extractCredentialClaims_get (credential : Json) (claims : List DcqlClaim)
    (claim : DcqlClaim) :
    (extractCredentialClaims credential claims).get claim.pathKey =
      found claims credential claim := by
  have holds := extractCredentialClaims_holds credential claims
  unfold ExtractedClaims.get found
  rw [hasPrototypeAccessor_eq, holds.prototype]
  by_cases isProto : claim.pathKey = "__proto__"
  · rw [if_pos isProto, isProto, holds.proto, ProtoName.value]
    cases (protoName claims credential).member with
    | some value => rfl
    | none => simp
  · rw [if_neg isProto, holds.others _ isProto]
    cases (reached claims credential claim.pathKey).getLast? with
    | some value => rfl
    | none => simp [isProto]

/-! ## Claims that do not disturb each other -/

theorem mem_reached {key : String} {value : Json.Reference}
    (isReached : value ∈ reached claims credential key) :
    ∃ claim, Asked claims claim ∧ claim.pathKey = key ∧
      walkPath (.json credential) claim.path = some value := by
  rcases List.mem_filterMap.mp isReached with ⟨claim, member, walked⟩
  split at walked
  · cases walked
  · rename_i wanted
    simp only [Bool.or_eq_true, not_or, bne_iff_ne, ne_eq, Decidable.not_not,
      List.isEmpty_iff] at wanted
    exact ⟨claim, ⟨member, wanted.1⟩, wanted.2, walked⟩

private theorem reached_of_asked (asked : Asked claims claim) {value : Json.Reference}
    (walked : walkPath (.json credential) claim.path = some value) :
    value ∈ reached claims credential claim.pathKey := by
  apply List.mem_filterMap.mpr
  exact ⟨claim, asked.1, by simp [asked.2, walked]⟩

theorem found_eq_own (unambiguous : Unambiguous claims credential)
    (asked : Asked claims claim) :
    found claims credential claim = own credential claim := by
  have noPrototype : protoName claims credential = {} := by
    have unreached : reached claims credential "__proto__" = [] := by
      apply List.eq_nil_iff_forall_not_mem.mpr
      intro value isReached
      rcases mem_reached isReached with ⟨other, isAsked, isProto, -⟩
      exact unambiguous.notPrototype other isAsked isProto
    rw [protoName, unreached]
    rfl
  rw [found, if_neg (unambiguous.notPrototype claim asked), noPrototype]
  cases isLast : (reached claims credential claim.pathKey).getLast? with
  | some value =>
      rcases mem_reached (List.mem_of_getLast? isLast) with ⟨other, isAsked, sameKey, walked⟩
      rw [← unambiguous.ownPath claim other asked isAsked sameKey, walked]
      rfl
  | none =>
      have unreached := List.getLast?_eq_none_iff.mp isLast
      have missing : own credential claim = none := by
        rw [← unambiguous.ownPath claim claim asked asked rfl]
        cases walked : walkPath (.json credential) claim.path with
        | none => rfl
        | some value =>
            have isReached := reached_of_asked asked walked
            rw [unreached] at isReached
            cases isReached
      rw [missing]
      exact unambiguous.notInherited claim asked missing

theorem Unambiguous.undisturbed (unambiguous : Unambiguous claims credential) :
    Undisturbed claims credential := by
  constructor
  · intro claim asked
    rw [found_eq_own unambiguous asked]
    exact unambiguous.comparable claim asked
  · intro claim asked differs
    rw [found_eq_own unambiguous asked] at differs
    exact absurd rfl differs

/-! ## Matching one credential -/

private theorem missingClaim_ok (extractedClaims : ExtractedClaims)
    (comparable : Comparable claim (extractedClaims.get claim.pathKey)) :
    ∃ missing, missingClaim extractedClaims claim = .ok missing ∧
      (missing = none ↔ admits claim (extractedClaims.get claim.pathKey) = true) := by
  unfold missingClaim admits
  cases value : extractedClaims.get claim.pathKey with
  | none => exact ⟨_, rfl, by simp⟩
  | some reference =>
      have isText := comparable reference value
      cases values : claim.values with
      | none => exact ⟨none, rfl, by simp⟩
      | some texts =>
          cases texts with
          | nil => exact ⟨none, rfl, by simp⟩
          | cons first rest =>
              rcases Option.isSome_iff_exists.mp (isText (by simp [values])) with
                ⟨text, converts⟩
              simp only [converts]
              by_cases contained : (first :: rest).contains text
              · exact ⟨none, by rw [if_pos contained], by simpa using contained⟩
              · exact ⟨_, by rw [if_neg contained], by simpa using contained⟩

private theorem missingClaim_error {extractedClaims : ExtractedClaims}
    (incomparable : ¬ Comparable claim (extractedClaims.get claim.pathKey)) :
    ∃ thrown, missingClaim extractedClaims claim = .error thrown := by
  simp only [Comparable, not_forall, Bool.not_eq_true, Option.isSome_eq_false_iff,
    Option.isNone_iff_eq_none] at incomparable
  rcases incomparable with ⟨reference, value, wanted, noText⟩
  unfold missingClaim
  rw [value]
  cases values : claim.values with
  | none => simp [values] at wanted
  | some texts =>
      cases texts with
      | nil => simp [values] at wanted
      | cons first rest =>
          exact ⟨.error "Cannot convert object to primitive value", by simp only [noText]⟩

private theorem matchClaims_ok (extractedClaims : ExtractedClaims) (required : List DcqlClaim)
    (comparable : ∀ claim, Asked required claim →
      Comparable claim (extractedClaims.get claim.pathKey)) :
    ∃ missingClaims, matchClaimsAgainstRequirements extractedClaims required =
        .ok missingClaims ∧
      (missingClaims = [] ↔ ∀ claim, Asked required claim →
        admits claim (extractedClaims.get claim.pathKey) = true) := by
  induction required with
  | nil => exact ⟨[], rfl, by simp [Asked]⟩
  | cons first rest induction =>
      have restComparable : ∀ claim, Asked rest claim →
          Comparable claim (extractedClaims.get claim.pathKey) :=
        fun claim asked => comparable claim (asked_cons.mpr (.inr asked))
      rcases induction restComparable with ⟨others, matched, isMet⟩
      by_cases empty : first.path = []
      · refine ⟨others, ?_, ?_⟩
        · simpa [matchClaimsAgainstRequirements, empty] using matched
        · rw [isMet]
          simp [asked_cons, empty]
      · have asked : Asked (first :: rest) first := ⟨List.mem_cons_self .., empty⟩
        rcases missingClaim_ok extractedClaims (comparable first asked) with
          ⟨missing, compared, isAdmitted⟩
        refine ⟨missing.toList ++ others, ?_, ?_⟩
        · simp only [matchClaimsAgainstRequirements, compared, matched]
          rw [if_neg (by simpa using empty)]
          rfl
        · rw [List.append_eq_nil_iff, Option.toList_eq_nil_iff, isAdmitted, isMet]
          simp [asked_cons, empty]

private theorem matchClaims_found (comparable : ∀ claim, Asked claims claim →
      Comparable claim (found claims credential claim)) :
    ∃ missingClaims, matchClaimsAgainstRequirements
        (extractCredentialClaims credential claims) claims = .ok missingClaims ∧
      (missingClaims = [] ↔ ∀ claim, Asked claims claim →
        admits claim (found claims credential claim) = true) := by
  simp only [← extractCredentialClaims_get] at comparable ⊢
  exact matchClaims_ok _ claims comparable

private theorem matchClaims_error {extractedClaims : ExtractedClaims} (required : List DcqlClaim)
    (asked : Asked required claim)
    (incomparable : ¬ Comparable claim (extractedClaims.get claim.pathKey)) :
    ∃ thrown, matchClaimsAgainstRequirements extractedClaims required = .error thrown := by
  induction required with
  | nil => exact absurd asked.1 List.not_mem_nil
  | cons first rest induction =>
      rcases asked_cons.mp asked with ⟨rfl, nonempty⟩ | later
      · rcases missingClaim_error incomparable with ⟨thrown, fails⟩
        refine ⟨thrown, ?_⟩
        simp [matchClaimsAgainstRequirements, nonempty, fails, Bind.bind, Except.bind]
      · rcases induction later with ⟨thrown, fails⟩
        by_cases empty : first.path = []
        · exact ⟨thrown, by simpa [matchClaimsAgainstRequirements, empty] using fails⟩
        · cases compared : missingClaim extractedClaims first with
          | error earlier =>
              exact ⟨earlier, by
                simp [matchClaimsAgainstRequirements, empty, compared, Bind.bind,
                  Except.bind]⟩
          | ok missing =>
              exact ⟨thrown, by
                simp [matchClaimsAgainstRequirements, empty, compared, fails, Bind.bind,
                  Except.bind]⟩

theorem meetsClaims_iff :
    meetsClaims claims credential = true ↔
      ∀ claim, Asked claims claim → admits claim (own credential claim) = true := by
  unfold meetsClaims meetsClaim Asked
  rw [List.all_eq_true]
  constructor
  · intro meets claim asked
    simpa [asked.2] using meets claim asked.1
  · intro meets claim member
    by_cases empty : claim.path = []
    · simp [empty]
    · simp [meets claim ⟨member, empty⟩]

/-- The comparison of a credential is the one asked for exactly when its claims
are undisturbed. -/
theorem claimsMatch_iff :
    claimsMatch claims credential = .ok (meetsClaims claims credential) ↔
      Undisturbed claims credential := by
  by_cases comparable : ∀ claim, Asked claims claim →
      Comparable claim (found claims credential claim)
  · rcases matchClaims_found comparable with ⟨missingClaims, matched, isMet⟩
    have verdict : claimsMatch claims credential = .ok missingClaims.isEmpty := by
      unfold claimsMatch
      rw [matched]
      rfl
    rw [verdict, Except.ok.injEq, Bool.eq_iff_iff, List.isEmpty_iff, isMet, meetsClaims_iff]
    constructor
    · intro agree
      refine ⟨comparable, fun claim asked differs => ?_⟩
      by_cases all : ∀ other, Asked claims other → admits other (own credential other) = true
      · exact absurd ((agree.mpr all claim asked).trans (all claim asked).symm) differs
      · have notFound : ¬ ∀ other, Asked claims other →
            admits other (found claims credential other) = true :=
          fun allFound => all (agree.mp allFound)
        simp only [not_forall, Bool.not_eq_true] at all notFound
        rcases all with ⟨other, isAsked, unmet⟩
        rcases notFound with ⟨another, anotherAsked, anotherUnmet⟩
        exact ⟨⟨other, isAsked, unmet⟩, another, anotherAsked, anotherUnmet⟩
    · intro undisturbed
      constructor
      · intro allFound claim asked
        by_contra unmet
        have isFound := allFound claim asked
        rcases undisturbed.outvoted claim asked fun same => unmet (same ▸ isFound) with
          ⟨-, other, isAsked, otherUnmet⟩
        have otherFound := allFound other isAsked
        exact absurd (otherFound.symm.trans otherUnmet) (by decide)
      · intro allOwn claim asked
        by_contra unmet
        have isOwn := allOwn claim asked
        rcases undisturbed.outvoted claim asked fun same => unmet (same.trans isOwn) with
          ⟨⟨other, isAsked, otherUnmet⟩, -⟩
        have otherOwn := allOwn other isAsked
        exact absurd (otherOwn.symm.trans otherUnmet) (by decide)
  · constructor
    · intro compared
      simp only [not_forall] at comparable
      rcases comparable with ⟨claim, asked, incomparable⟩
      rw [← extractCredentialClaims_get] at incomparable
      rcases matchClaims_error claims asked incomparable with ⟨thrown, fails⟩
      simp [claimsMatch, fails, Bind.bind, Except.bind] at compared
    · intro undisturbed
      exact absurd undisturbed.comparable comparable

end

/-! ## All credentials -/

def passes (claims : List DcqlClaim) (credential : Json) : Bool :=
  (claimsMatch claims credential).toOption.getD false

private theorem collectMatches_ok {claims : List DcqlClaim}
    (credentialResults : List (CredentialVerificationResult CheckResult))
    (compared : ∀ credential ∈ credentialResults.filterMap presentCredential,
      claimsMatch claims credential = .ok (passes claims credential))
    (initial : ExtractedClaims) :
    ∃ extracted, collectMatches claims credentialResults initial =
      .ok ((credentialResults.filterMap presentCredential).filter (passes claims),
        extracted) := by
  induction credentialResults generalizing initial with
  | nil => exact ⟨initial, rfl⟩
  | cons credentialResult rest induction =>
      cases present : presentCredential credentialResult with
      | none =>
          rw [List.filterMap_cons_none present] at compared ⊢
          rcases induction compared initial with ⟨extracted, collected⟩
          refine ⟨extracted, ?_⟩
          simpa [collectMatches, present] using collected
      | some credential =>
          rw [List.filterMap_cons_some present] at compared ⊢
          have first := compared credential (List.mem_cons_self ..)
          have others := fun other member => compared other (List.mem_cons_of_mem _ member)
          cases isPassed : passes claims credential with
          | false =>
              rw [isPassed] at first
              rcases induction others initial with ⟨extracted, collected⟩
              refine ⟨extracted, ?_⟩
              simpa [collectMatches, present, first, isPassed, Bind.bind, Except.bind]
                using collected
          | true =>
              rw [isPassed] at first
              rcases induction others (initial.assignAll
                (extractCredentialClaims credential claims)) with ⟨extracted, collected⟩
              refine ⟨extracted, ?_⟩
              simp [collectMatches, present, first, isPassed, Bind.bind, Except.bind,
                collected, pure, Except.pure]

private theorem collectMatches_compared {claims : List DcqlClaim}
    {credentialResults : List (CredentialVerificationResult CheckResult)}
    {initial : ExtractedClaims} {collected : List Json × ExtractedClaims}
    (isCollected : collectMatches claims credentialResults initial = .ok collected) :
    ∀ credential ∈ credentialResults.filterMap presentCredential,
      claimsMatch claims credential = .ok (passes claims credential) := by
  intro credential member
  rcases List.mem_filterMap.mp member with ⟨credentialResult, isResult, present⟩
  rcases Outcome.collectMatches_spec claims credentialResults initial with
    ⟨thrown, fails, -⟩ | ⟨valid, extracted, -, quiet, -⟩
  · rw [isCollected] at fails
    cases fails
  · cases compared : claimsMatch claims credential with
    | ok verdict => simp [passes, compared, Except.toOption]
    | error thrown =>
        exact absurd ⟨credentialResult, isResult, credential, thrown, present, compared⟩ quiet

/-- The matched credentials are just those that meet the claims, and the claims
are matched exactly when there is one. -/
def MatchesExactly (exchange : ExchangeDetailVerify)
    (result : PresentationVerificationResult)
    (applied : Except Thrown ExchangeDetailVerify) : Prop :=
  ∃ stored results validation, applied = .ok stored ∧
    stored.vars.results = some results ∧
    results.matchedCredentials = matching exchange.vars.vprClaims result.credentialResults ∧
    results.claimsValidation = some validation ∧
    (validation.matched = true ↔ results.matchedCredentials ≠ [])

theorem matching_stored (claims : List DcqlClaim)
    (result : PresentationVerificationResult) :
    matching claims (storedCredentialResults result) =
      matching claims result.credentialResults := by
  unfold matching storedCredentialResults
  rw [List.filterMap_map]
  rfl

theorem present_stored (result : PresentationVerificationResult) :
    (storedCredentialResults result).filterMap presentCredential =
      result.credentialResults.filterMap presentCredential := by
  unfold storedCredentialResults
  rw [List.filterMap_map]
  rfl

section

variable {claims : List DcqlClaim}
  {credentialResults : List (CredentialVerificationResult CheckResult)}

private theorem validateClaims_compared (required : claims ≠ [])
    {valid : List Json × Option ClaimsValidation}
    (validated : validateClaims claims credentialResults = .ok valid) :
    ∀ credential ∈ credentialResults.filterMap presentCredential,
      claimsMatch claims credential = .ok (passes claims credential) := by
  unfold validateClaims at validated
  rw [if_neg (by simpa using required)] at validated
  cases collected : collectMatches claims credentialResults {} with
  | error thrown => simp [collected, Bind.bind, Except.bind] at validated
  | ok pair => exact collectMatches_compared collected

theorem validateClaims_ok (required : claims ≠ [])
    (compared : ∀ credential ∈ credentialResults.filterMap presentCredential,
      claimsMatch claims credential = .ok (passes claims credential)) :
    ∃ validation, validateClaims claims credentialResults =
        .ok ((credentialResults.filterMap presentCredential).filter (passes claims),
          some validation) ∧
      (validation.matched = true ↔
        (credentialResults.filterMap presentCredential).filter (passes claims) ≠ []) := by
  rcases collectMatches_ok _ compared {} with ⟨extracted, collected⟩
  unfold validateClaims
  rw [if_neg (by simpa using required), collected]
  exact ⟨_, rfl, by simp⟩

end

private theorem agree_of_filter_eq {items : List α} {left right : α → Bool}
    (same : items.filter left = items.filter right) :
    ∀ item ∈ items, left item = right item := by
  intro item member
  have both : item ∈ items.filter left ↔ item ∈ items.filter right := by rw [same]
  rw [List.mem_filter, List.mem_filter] at both
  rw [Bool.eq_iff_iff]
  simpa [member] using both

section

variable {exchange : ExchangeDetailVerify} {result : PresentationVerificationResult}
  {log : List CheckResult} {debug : Bool}

private theorem undisturbed_of_exact (required : exchange.vars.vprClaims ≠ [])
    (exact : MatchesExactly exchange result
      (applyVerificationResults exchange result log debug)) :
    ∀ credential ∈ result.credentialResults.filterMap presentCredential,
      Undisturbed exchange.vars.vprClaims credential := by
  rw [← present_stored]
  simp only [← claimsMatch_iff]
  rcases exact with ⟨stored, results, validation, applied, isResults, matched, -, -⟩
  rcases applyVerificationResults_ok applied with ⟨kept, -, -, -, validated, -, same⟩
  have isKept : kept = results := by
    rw [same] at isResults
    exact Option.some.inj isResults
  rw [isKept] at validated
  have compared := validateClaims_compared required validated
  rcases validateClaims_ok required compared with ⟨_, collected, -⟩
  rw [collected] at validated
  have valid : results.matchedCredentials =
      ((storedCredentialResults result).filterMap presentCredential).filter
        (passes exchange.vars.vprClaims) :=
    (congrArg Prod.fst (Except.ok.inj validated)).symm
  have agree := agree_of_filter_eq
    (valid.symm.trans (matched.trans (matching_stored ..).symm))
  intro credential member
  rw [compared credential member, agree credential member]

theorem exact_of_undisturbed (required : exchange.vars.vprClaims ≠ [])
    (undisturbed : ∀ credential ∈ result.credentialResults.filterMap presentCredential,
      Undisturbed exchange.vars.vprClaims credential) :
    MatchesExactly exchange result
      (applyVerificationResults exchange result log debug) := by
  rw [← present_stored] at undisturbed
  simp only [← claimsMatch_iff] at undisturbed
  have agree : ∀ credential ∈
      (storedCredentialResults result).filterMap presentCredential,
      passes exchange.vars.vprClaims credential =
        meetsClaims exchange.vars.vprClaims credential := by
    intro credential member
    simp [passes, undisturbed credential member, Except.toOption]
  have compared : ∀ credential ∈
      (storedCredentialResults result).filterMap presentCredential,
      claimsMatch exchange.vars.vprClaims credential =
        .ok (passes exchange.vars.vprClaims credential) := by
    intro credential member
    rw [agree credential member, undisturbed credential member]
  have exactly : ((storedCredentialResults result).filterMap presentCredential).filter
      (passes exchange.vars.vprClaims) =
        matching exchange.vars.vprClaims result.credentialResults := by
    rw [List.filter_congr agree, ← matching_stored]
    rfl
  rcases validateClaims_ok required compared with ⟨validation, validated, matched⟩
  rw [exactly] at validated matched
  simp only [applyVerificationResults, validated]
  exact ⟨_, _, validation, rfl, rfl, rfl, rfl, matched⟩

/-- Matching is exact exactly when no present credential has claims that disturb each
other; in particular when every claim can only read the value at its own path. -/
theorem matches_exactly_iff (required : exchange.vars.vprClaims ≠ []) :
    (MatchesExactly exchange result (applyVerificationResults exchange result log debug) ↔
      ∀ credential ∈ result.credentialResults.filterMap presentCredential,
        Undisturbed exchange.vars.vprClaims credential) ∧
    ((∀ credential ∈ result.credentialResults.filterMap presentCredential,
        Unambiguous exchange.vars.vprClaims credential) →
      MatchesExactly exchange result
        (applyVerificationResults exchange result log debug)) := by
  constructor
  · exact ⟨undisturbed_of_exact required, exact_of_undisturbed required⟩
  · intro unambiguous
    apply exact_of_undisturbed required
    intro credential member
    exact (unambiguous credential member).undisturbed

end

/-! ## Two paths with one key -/

def credentialOfHolder (subject : Json) : Json :=
  .obj [("issuer", .str "did:example:issuer"), ("credentialSubject", subject)]

def resultOf (credential : Json) : PresentationVerificationResult where
  verified := true
  presentationResults := []
  credentialResults := [{
    verified := true
    verifiableCredential := some credential
    results := [] }]

def exchangeAsking (vprClaims : List DcqlClaim) : ExchangeDetailVerify :=
  { Outcome.roleExchange with vars := { Outcome.roleExchange.vars with vprClaims } }

/-- One claim cannot be disturbed by others. -/
theorem matches_exactly_admin :
    MatchesExactly Outcome.roleExchange
      (resultOf (credentialOfHolder (.obj [("role", .str "admin")])))
      (applyVerificationResults Outcome.roleExchange
        (resultOf (credentialOfHolder (.obj [("role", .str "admin")]))) [] false) := by
  apply (matches_exactly_iff (by simp [Outcome.roleExchange])).1.mpr
  intro credential member
  have isCredential := List.mem_singleton.mp
    (show credential ∈ [credentialOfHolder (.obj [("role", .str "admin")])] from member)
  rw [isCredential]
  constructor
  · intro claim asked reference isReference wanted
    have isClaim := List.mem_singleton.mp asked.1
    subst isClaim
    cases isReference
    rfl
  · intro claim asked differs
    have isClaim := List.mem_singleton.mp asked.1
    subst isClaim
    exact absurd rfl differs

/-- A property with a dot in its name, which the credential does not have. -/
def dottedClaim : DcqlClaim where
  path := ["credentialSubject", "member.level"]
  values := some ["gold"]

def nestedClaim : DcqlClaim where
  path := ["credentialSubject", "member", "level"]

def memberCredential : Json :=
  credentialOfHolder (.obj [("member", .obj [("level", .str "gold")])])

/-- The value of one claim is taken for the value of the other. -/
theorem dotted_claim_matched :
    ¬ MatchesExactly (exchangeAsking [dottedClaim, nestedClaim])
      (resultOf memberCredential)
      (applyVerificationResults (exchangeAsking [dottedClaim, nestedClaim])
        (resultOf memberCredential) [] false) := by
  intro exact
  rcases exact with ⟨stored, results, validation, applied, isResults, matched, -, -⟩
  cases applied
  cases isResults
  cases matched

end TransactionService.ClaimMatching
