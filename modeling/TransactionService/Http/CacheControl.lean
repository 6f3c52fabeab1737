import Mathlib.Data.List.TakeWhile
import TransactionService.Foundation.Number
import TransactionService.Foundation.Text

namespace TransactionService.CacheControl

open Number

/-! # The max-age directive

`parseCacheControlMaxAge` of `lib/cached-http-get-service.ts`, and what a header
says. -/

/-- `[,\s]`. -/
def isBoundary (character : Char) : Bool :=
  character = ',' || Text.isSpace character

/-- `max-age\s*=\s*(\d+)` in any case at the head of a text. -/
def matchMaxAge (chars : List Char) : Option (List Char) :=
  if (chars.take 7).map Char.toLower = "max-age".toList then
    match (chars.drop 7).dropWhile Text.isSpace with
    | [] => none
    | sign :: rest =>
        let digits := (rest.dropWhile Text.isSpace).takeWhile Char.isDigit
        if sign = '=' ∧ digits ≠ [] then some digits else none
  else none

def searchMaxAge : List Char → Option (List Char)
  | [] => none
  | character :: rest =>
      if isBoundary character then (matchMaxAge rest).or (searchMaxAge rest)
      else searchMaxAge rest

/-- The digits that `/(?:^|[,\s])max-age\s*=\s*(\d+)/i` captures. -/
def execMaxAge (value : String) : Option (List Char) :=
  (matchMaxAge value.toList).or (searchMaxAge value.toList)

/-- `Number.parseInt(digits, 10)`. -/
def parseInt (digits : List Char) : Double :=
  ofNat (Nat.ofDigitChars 10 digits 0)

/-- The directive in milliseconds; `none` when it is missing or not positive. -/
def parseCacheControlMaxAge (cacheControl : Option String) : Option Double :=
  match cacheControl with
  | none => none
  | some value =>
      if value = "" then none
      else match execMaxAge value with
        | none => none
        | some digits =>
            match parseInt digits with
            | .infinite => none
            | .finite seconds => if seconds ≤ 0 then none else some (ofNat (seconds * 1000))

/-! ## What a header says -/

/-- `max-age`, in any case, an equals sign between spaces, and all the digits that
follow. -/
structure Directive (chars digits : List Char) : Prop where
  reads : ∃ name before after rest,
    chars = name ++ (before ++ '=' :: (after ++ (digits ++ rest))) ∧
    name.map Char.toLower = "max-age".toList ∧
    (∀ character ∈ before, Text.isSpace character = true) ∧
    (∀ character ∈ after, Text.isSpace character = true) ∧
    ∀ character ∈ rest.head?, character.isDigit = false
  nonempty : digits ≠ []
  isDigits : ∀ digit ∈ digits, digit.isDigit = true

def BeginsAt (chars : List Char) : Nat → Prop
  | 0 => True
  | position + 1 => ∃ character, chars[position]? = some character ∧
      isBoundary character = true

/-- The header says `max-age=n` at this position. -/
def MaxAgeAt (value : String) (position n : Nat) : Prop :=
  BeginsAt value.toList position ∧
    ∃ digits, Directive (value.toList.drop position) digits ∧
      n = Nat.ofDigitChars 10 digits 0

def ContainsMaxAge (value : String) (n : Nat) : Prop :=
  ∃ position, MaxAgeAt value position n

/-- The first directive of the header says `max-age=n`. -/
def FirstMaxAge (value : String) (n : Nat) : Prop :=
  ∃ position, MaxAgeAt value position n ∧
    ∀ other m, MaxAgeAt value other m → position ≤ other

/-! ## The match at the head -/

theorem dropWhile_append_cons {p : Char → Bool} {before : List Char} {character : Char}
    (passes : ∀ other ∈ before, p other = true) (stops : p character = false)
    (rest : List Char) :
    (before ++ character :: rest).dropWhile p = character :: rest := by
  rw [List.dropWhile_append_of_pos passes, List.dropWhile_cons_of_neg (by simp [stops])]

private theorem takeWhile_append_stop {p : Char → Bool} {digits rest : List Char}
    (passes : ∀ other ∈ digits, p other = true)
    (stops : ∀ character ∈ rest.head?, p character = false) :
    (digits ++ rest).takeWhile p = digits := by
  rw [List.takeWhile_append_of_pos passes]
  cases rest with
  | nil => simp
  | cons character rest =>
      rw [List.takeWhile_cons_of_neg (by simp [stops character rfl]), List.append_nil]

private theorem isSpace_of_isDigit {character : Char} (digit : character.isDigit = true) :
    Text.isSpace character = false := by
  have bounds : 48 ≤ character.toNat ∧ character.toNat ≤ 57 := by
    simpa [Char.isDigit, UInt32.le_iff_toNat_le] using digit
  simp only [Text.isSpace, List.mem_cons, List.not_mem_nil, or_false,
    decide_eq_false_iff_not]
  omega

private theorem matchMaxAge_of_directive {chars digits : List Char}
    (directive : Directive chars digits) : matchMaxAge chars = some digits := by
  rcases directive.reads with ⟨name, before, after, rest, rfl, isName, spaces, others, stops⟩
  have length : name.length = 7 := by
    have := congrArg List.length isName
    simpa using this
  cases digits with
  | nil => exact absurd rfl directive.nonempty
  | cons digit digits =>
      have skipped : (after ++ digit :: (digits ++ rest)).dropWhile Text.isSpace =
          digit :: (digits ++ rest) :=
        dropWhile_append_cons others
          (isSpace_of_isDigit (directive.isDigits digit (List.mem_cons_self ..))) _
      have taken := takeWhile_append_stop directive.isDigits stops
      unfold matchMaxAge
      rw [← length, List.take_left, List.drop_left, if_pos isName,
        dropWhile_append_cons spaces (by decide)]
      dsimp only
      rw [List.cons_append, skipped, ← List.cons_append, taken,
        if_pos ⟨rfl, List.cons_ne_nil _ _⟩]

theorem directive_of_matchMaxAge {chars digits : List Char}
    (found : matchMaxAge chars = some digits) : Directive chars digits := by
  unfold matchMaxAge at found
  split at found
  · rename_i isName
    split at found
    · cases found
    · rename_i sign rest afterName
      dsimp only at found
      split at found
      · rename_i accepted
        rcases accepted with ⟨rfl, nonempty⟩
        cases found
        refine ⟨⟨chars.take 7, (chars.drop 7).takeWhile Text.isSpace,
          rest.takeWhile Text.isSpace,
          (rest.dropWhile Text.isSpace).dropWhile Char.isDigit, ?_, isName, ?_, ?_, ?_⟩,
          nonempty, ?_⟩
        · rw [List.takeWhile_append_dropWhile, List.takeWhile_append_dropWhile,
            ← afterName, List.takeWhile_append_dropWhile, List.take_append_drop]
        · exact fun character member => List.mem_takeWhile_imp member
        · exact fun character member => List.mem_takeWhile_imp member
        · intro character isHead
          have stops := List.head?_dropWhile_not Char.isDigit (rest.dropWhile Text.isSpace)
          rw [Option.mem_def.mp isHead] at stops
          simpa using stops
        · exact fun digit member => List.mem_takeWhile_imp member
      · cases found
  · cases found

theorem matchMaxAge_iff {chars digits : List Char} :
    matchMaxAge chars = some digits ↔ Directive chars digits :=
  ⟨directive_of_matchMaxAge, matchMaxAge_of_directive⟩

/-! ## The leftmost match -/

inductive Leftmost (chars : List Char) : Option (List Char) → Prop
  | absent (nowhere : ∀ position digits, BeginsAt chars (position + 1) →
      ¬ Directive (chars.drop (position + 1)) digits) : Leftmost chars none
  | found {position : Nat} {digits : List Char} (begins : BeginsAt chars (position + 1))
      (directive : Directive (chars.drop (position + 1)) digits)
      (first : ∀ other otherDigits, BeginsAt chars (other + 1) →
        Directive (chars.drop (other + 1)) otherDigits → position ≤ other) :
      Leftmost chars (some digits)

theorem Leftmost.cons {character : Char} {rest : List Char} {result : Option (List Char)}
    (leftmost : Leftmost rest result)
    (notHere : ∀ digits, isBoundary character = true → ¬ Directive rest digits) :
    Leftmost (character :: rest) result := by
  have later : ∀ position digits, BeginsAt (character :: rest) (position + 1) →
      Directive ((character :: rest).drop (position + 1)) digits →
      ∃ before, position = before + 1 ∧ BeginsAt rest (before + 1) ∧
        Directive (rest.drop (before + 1)) digits := by
    rintro position digits begins directive
    cases position with
    | zero =>
        rcases begins with ⟨_, ⟨⟩, boundary⟩
        exact absurd directive (notHere digits boundary)
    | succ before => exact ⟨before, rfl, begins, directive⟩
  cases leftmost with
  | absent nowhere =>
      refine .absent fun position digits begins directive => ?_
      rcases later position digits begins directive with ⟨before, -, begins, directive⟩
      exact nowhere before digits begins directive
  | @found position digits begins directive first =>
      refine @Leftmost.found _ (position + 1) digits begins directive ?_
      intro other otherDigits otherBegins otherDirective
      rcases later other otherDigits otherBegins otherDirective with
        ⟨before, rfl, begins, directive⟩
      exact Nat.succ_le_succ (first before otherDigits begins directive)

theorem searchMaxAge_leftmost (chars : List Char) : Leftmost chars (searchMaxAge chars) := by
  induction chars with
  | nil =>
      refine .absent fun position digits begins _ => ?_
      simp [BeginsAt] at begins
  | cons character rest induction =>
      unfold searchMaxAge
      split
      · rename_i boundary
        cases here : matchMaxAge rest with
        | some digits =>
            exact @Leftmost.found _ 0 digits ⟨character, rfl, boundary⟩
              (matchMaxAge_iff.mp here) (fun other _ _ _ => Nat.zero_le other)
        | none =>
            rw [Option.none_or]
            refine induction.cons fun digits _ directive => ?_
            rw [matchMaxAge_iff.mpr directive] at here
            cases here
      · rename_i noBoundary
        exact induction.cons fun digits boundary => absurd boundary noBoundary

theorem execMaxAge_none {value : String} (missing : execMaxAge value = none) (n : Nat) :
    ¬ ContainsMaxAge value n := by
  rintro ⟨position, begins, digits, directive, -⟩
  rcases Option.or_eq_none_iff.mp missing with ⟨notFirst, notLater⟩
  have leftmost := searchMaxAge_leftmost value.toList
  rw [notLater] at leftmost
  cases leftmost with
  | absent nowhere =>
      cases position with
      | zero => cases notFirst.symm.trans (matchMaxAge_iff.mpr directive)
      | succ position => exact nowhere position digits begins directive

theorem execMaxAge_some {value : String} {digits : List Char}
    (found : execMaxAge value = some digits) :
    FirstMaxAge value (Nat.ofDigitChars 10 digits 0) := by
  rcases Option.or_eq_some_iff.mp found with atStart | ⟨notFirst, later⟩
  · refine ⟨0, ⟨trivial, digits, ?_, rfl⟩, fun other _ _ => Nat.zero_le other⟩
    exact matchMaxAge_iff.mp atStart
  · have leftmost := searchMaxAge_leftmost value.toList
    rw [later] at leftmost
    cases leftmost with
    | @found position _ begins directive first =>
        refine ⟨position + 1, ⟨begins, digits, directive, rfl⟩, ?_⟩
        rintro other n ⟨otherBegins, otherDigits, otherDirective, -⟩
        cases other with
        | zero => cases notFirst.symm.trans (matchMaxAge_iff.mpr otherDirective)
        | succ other => exact Nat.succ_le_succ (first other otherDigits otherBegins otherDirective)

/-! ## Lifetimes -/

def defaultTtlMs : Nat := 5 * 60 * 1000

/-- `parseCacheControlMaxAge(headers) ?? DEFAULT_TTL_MS`. -/
def ttlFor (cacheControl : Option String) : Double :=
  (parseCacheControlMaxAge cacheControl).getD (.finite defaultTtlMs)

structure WithinLifetime (cacheControl : Option String) (age : Int) : Prop where
  stated : ∀ value n, cacheControl = some value → ContainsMaxAge value n → age < 1000 * n
  unstated : (∀ value n, cacheControl = some value → ¬ ContainsMaxAge value n) →
    age < defaultTtlMs

def FirstIsLeast (cacheControl : Option String) : Prop :=
  ∀ value m, cacheControl = some value → FirstMaxAge value m →
    0 < m ∧ ∀ n, ContainsMaxAge value n → m ≤ n

private theorem parseCacheControlMaxAge_none {value : String} (missing : execMaxAge value = none) :
    parseCacheControlMaxAge (some value) = none := by
  simp [parseCacheControlMaxAge, missing]

/-- Seconds that doubles can tell apart are multiplied without loss. -/
theorem parseCacheControlMaxAge_some {value : String} {digits : List Char}
    (found : execMaxAge value = some digits)
    (positive : 0 < Nat.ofDigitChars 10 digits 0)
    (short : 125 * Nat.ofDigitChars 10 digits 0 < 2 ^ 53) :
    parseCacheControlMaxAge (some value) =
      some (.finite (Nat.ofDigitChars 10 digits 0 * 1000)) := by
  have nonempty : value ≠ "" := by
    rintro rfl
    cases found
  have parsed : parseInt digits = .finite (Nat.ofDigitChars 10 digits 0) :=
    @ofNat_exact _ (Nat.ofDigitChars 10 digits 0) 0 (by simp) (by omega) (by decide)
  have multiplied : ofNat (Nat.ofDigitChars 10 digits 0 * 1000) =
      .finite (Nat.ofDigitChars 10 digits 0 * 1000) :=
    @ofNat_exact _ (125 * Nat.ofDigitChars 10 digits 0) 3 (by omega) short (by decide)
  simp only [parseCacheControlMaxAge, if_neg nonempty, found, parsed, multiplied]
  rw [if_neg (Nat.not_le.mpr positive)]

theorem withinLifetime_of_exceeds {cacheControl : Option String}
    (leads : FirstIsLeast cacheControl) {age : Int} (told : age ≤ 17280000000000000)
    (unexpired : (ttlFor cacheControl).Exceeds age) : WithinLifetime cacheControl age := by
  unfold ttlFor at unexpired
  cases cacheControl with
  | none => exact ⟨fun _ _ impossible => (nomatch impossible), fun _ => unexpired⟩
  | some value =>
      cases found : execMaxAge value with
      | none =>
          rw [parseCacheControlMaxAge_none found] at unexpired
          refine ⟨?_, fun _ => unexpired⟩
          rintro _ n ⟨⟩ contains
          exact absurd contains (execMaxAge_none found n)
      | some digits =>
          have first := execMaxAge_some found
          rcases leads value _ rfl first with ⟨positive, least⟩
          refine ⟨?_, fun nowhere => ?_⟩
          · rintro _ n ⟨⟩ contains
            have smaller := least n contains
            by_cases beyond : 17280000000000000 < 1000 * Nat.ofDigitChars 10 digits 0
            · omega
            · rw [parseCacheControlMaxAge_some found positive (by omega)] at unexpired
              have bound : age < (Nat.ofDigitChars 10 digits 0 * 1000 : Nat) := unexpired
              omega
          · rcases first with ⟨position, directive, -⟩
            exact absurd ⟨position, directive⟩ (nowhere value _ rfl)

theorem firstIsLeast_of_single {value : String} {digits : List Char}
    (found : matchMaxAge value.toList = some digits)
    (single : searchMaxAge value.toList = none)
    (positive : 0 < Nat.ofDigitChars 10 digits 0) : FirstIsLeast (some value) := by
  have only : ∀ n, ContainsMaxAge value n → n = Nat.ofDigitChars 10 digits 0 := by
    rintro n ⟨position, begins, other, directive, rfl⟩
    cases position with
    | zero => cases found.symm.trans (matchMaxAge_iff.mpr directive); rfl
    | succ position =>
        have leftmost := searchMaxAge_leftmost value.toList
        rw [single] at leftmost
        cases leftmost with
        | absent nowhere => exact absurd directive (nowhere position other begins)
  rintro _ m ⟨⟩ ⟨position, directive, -⟩
  rw [only m ⟨position, directive⟩]
  exact ⟨positive, fun n contains => Nat.le_of_eq (only n contains).symm⟩

end TransactionService.CacheControl
