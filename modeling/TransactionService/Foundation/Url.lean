import Mathlib.Data.List.TakeWhile
import TransactionService.Foundation.Percent

namespace TransactionService.Url

/-! # URLs

The path and the query of a URL that is put together from its parts. -/

def lacks (text : String) (characters : List Char) : Bool :=
  text.toList.all fun character => !characters.contains character

theorem not_mem_of_lacks {text : String} {characters : List Char} {character : Char}
    (without : lacks text characters = true) (isOne : character ∈ characters) :
    character ∉ text.toList := by
  intro member
  have absent := List.all_eq_true.mp without character member
  simp [isOne] at absent

/-- ASCII text that ends no component of a URL and hides no character. -/
def isPlain (text : String) : Bool :=
  text.toList.all fun character =>
    character.toNat < 128 && !(['#', '&', '%'].contains character)

/-! ## Paths -/

def isSegment (text : String) : Bool :=
  text ≠ "" && lacks text ['/', '?', '#', '%']

inductive IsOrigin : String → Prop
  | intro {scheme authority : String} (plainScheme : lacks scheme ['/', '?', '#'] = true)
      (plainAuthority : lacks authority ['/', '?', '#'] = true) :
      IsOrigin (scheme ++ "//" ++ authority)

/-- `base/first/second/…` -/
def join (base : String) (path : List String) : String :=
  path.foldl (fun url segment => url ++ "/" ++ segment) base

def withoutQuery (url : String) : String :=
  String.ofList (url.toList.takeWhile fun character => !(['?', '#'].contains character))

/-- The segments of the path; the scheme and the authority come before. -/
def segments (url : String) : List String :=
  (Text.splitOn '/' (withoutQuery url)).drop 3

/-- The well-known location with the given suffix, which goes between the authority and
the path. -/
def wellKnown (suffix url : String) : String :=
  match Text.splitOn '/' url with
  | scheme :: empty :: authority :: path =>
      join scheme (empty :: authority :: ".well-known" :: suffix :: path)
  | _ => url

theorem join_append (base : String) (path more : List String) :
    join base (path ++ more) = join (join base path) more := by
  simp [join, List.foldl_append]

theorem toList_join (base : String) (path : List String) :
    (join base path).toList =
      base.toList ++ path.flatMap fun segment => '/' :: segment.toList := by
  induction path generalizing base with
  | nil => simp [join]
  | cons segment path induction =>
      have slash : "/".toList = ['/'] := rfl
      rw [List.flatMap_cons, ← List.append_assoc]
      refine (induction (base ++ "/" ++ segment)).trans ?_
      simp [slash]

private theorem splitOn_slash {left right : String} :
    Text.splitOn '/' (left ++ "/" ++ right) =
      Text.splitOn '/' left ++ Text.splitOn '/' right := by
  have slash : "/".toList = ['/'] := rfl
  have characters : (left ++ "/" ++ right).toList = left.toList ++ '/' :: right.toList := by
    simp [slash]
  rw [Text.splitOn, characters, List.splitOn_append_cons_self, List.map_append]
  rfl

theorem splitOn_plain {text : String} (plain : '/' ∉ text.toList) :
    Text.splitOn '/' text = [text] := by
  rw [Text.splitOn, List.splitOn_eq_singleton plain]
  simp

theorem splitOn_join {base : String} {path : List String}
    (plain : ∀ segment ∈ path, '/' ∉ segment.toList) :
    Text.splitOn '/' (join base path) = Text.splitOn '/' base ++ path := by
  induction path generalizing base with
  | nil => simp [join]
  | cons segment path induction =>
      refine (induction fun other member => plain other (List.mem_cons_of_mem _ member)).trans ?_
      rw [splitOn_slash, splitOn_plain (plain segment List.mem_cons_self)]
      simp

theorem isSegment_plain {segment : String} (isOne : isSegment segment = true)
    {character : Char} (separator : character ∈ ['/', '?', '#', '%']) :
    character ∉ segment.toList :=
  not_mem_of_lacks (Bool.and_eq_true_iff.mp isOne).2 separator

theorem isSegment_nonempty {segment : String} (isOne : isSegment segment = true) :
    segment ≠ "" := by
  simpa using (Bool.and_eq_true_iff.mp isOne).1

/-! ### A path under an origin -/

theorem IsOrigin.pieces {base : String} (origin : IsOrigin base) :
    ∃ scheme authority, base = join scheme ["", authority] ∧
      Text.splitOn '/' base = [scheme, "", authority] := by
  cases origin with
  | @intro scheme authority plainScheme plainAuthority =>
      have joined : scheme ++ "//" ++ authority = join scheme ["", authority] := by
        apply String.toList_inj.mp
        rw [toList_join]
        have slashes : "//".toList = ['/', '/'] := rfl
        simp [slashes]
      refine ⟨scheme, authority, joined, ?_⟩
      rw [joined, splitOn_join, splitOn_plain (not_mem_of_lacks plainScheme (by simp))]
      · rfl
      · intro segment member
        simp only [List.mem_cons, List.not_mem_nil, or_false] at member
        rcases member with rfl | rfl
        · exact List.not_mem_nil
        · exact not_mem_of_lacks plainAuthority (by simp)

private theorem IsOrigin.not_mem {base : String} (origin : IsOrigin base) {character : Char}
    (isOne : character ∈ ['?', '#']) : character ∉ base.toList := by
  cases origin with
  | intro plainScheme plainAuthority =>
      have slashes : "//".toList = ['/', '/'] := rfl
      have inList : character ∈ ['/', '?', '#'] := List.mem_cons_of_mem _ isOne
      have plain : character ≠ '/' := by
        rintro rfl
        revert isOne
        decide
      simp [slashes, plain, not_mem_of_lacks plainScheme inList,
        not_mem_of_lacks plainAuthority inList]

private theorem withoutQuery_append {url : String} (plain : ∀ character ∈ ['?', '#'],
    character ∉ url.toList) (query : List Char) (ends : query.head? ∈ [none, some '?']) :
    withoutQuery (url ++ String.ofList query) = url := by
  have stops : query.takeWhile (fun character => !(['?', '#'].contains character)) = [] := by
    cases query with
    | nil => rfl
    | cons first rest =>
        simp only [List.head?_cons, List.mem_cons, Option.some.injEq, reduceCtorEq,
          List.not_mem_nil, or_false, false_or] at ends
        subst ends
        rfl
  have keeps : ∀ character ∈ url.toList, (!(['?', '#'].contains character)) = true := by
    intro character member
    have absent : character ∉ ['?', '#'] := fun isOne => plain character isOne member
    simpa using absent
  rw [withoutQuery, String.toList_append, String.toList_ofList,
    List.takeWhile_append_of_pos keeps, stops, List.append_nil, String.ofList_toList]

section

variable {base : String} {path : List String}

private theorem join_not_mem (origin : IsOrigin base)
    (isPath : ∀ segment ∈ path, isSegment segment = true) {character : Char}
    (isOne : character ∈ ['?', '#']) : character ∉ (join base path).toList := by
  have plain : character ≠ '/' := by
    rintro rfl
    revert isOne
    decide
  rw [toList_join, List.mem_append, List.mem_flatMap]
  rintro (inBase | ⟨segment, member, inSegment⟩)
  · exact origin.not_mem isOne inBase
  · rcases List.mem_cons.mp inSegment with isSlash | inside
    · exact plain isSlash
    · refine isSegment_plain (isPath segment member) ?_ inside
      simp only [List.mem_cons, List.not_mem_nil, or_false] at isOne ⊢
      rcases isOne with rfl | rfl <;> simp

theorem segments_join (origin : IsOrigin base)
    (isPath : ∀ segment ∈ path, isSegment segment = true) (query : List Char)
    (ends : query.head? ∈ [none, some '?']) :
    segments (join base path ++ String.ofList query) = path := by
  rcases origin.pieces with ⟨scheme, authority, -, pieces⟩
  rw [segments, withoutQuery_append (fun _ isOne => join_not_mem origin isPath isOne) query ends,
    splitOn_join fun segment member => isSegment_plain (isPath segment member) (by simp), pieces]
  rfl

theorem wellKnown_join {suffix : String} (origin : IsOrigin base)
    (isPath : ∀ segment ∈ path, isSegment segment = true) :
    wellKnown suffix (join base path) = join base (".well-known" :: suffix :: path) := by
  rcases origin.pieces with ⟨scheme, authority, joined, pieces⟩
  rw [wellKnown, splitOn_join fun segment member =>
    isSegment_plain (isPath segment member) (by simp), pieces, joined]
  exact join_append scheme ["", authority] (".well-known" :: suffix :: path)

end

/-! ## Queries -/

/-- A parameter as it stands in the query; a value is missing with its `=`. -/
def rawParameter (pair : String) : String × String :=
  match Text.indexOf '=' pair with
  | none => (pair, "")
  | some position => (Text.sliceTo position pair, Text.sliceFrom (position + 1) pair)

/-- The parameters after the first `?`, up to a fragment. -/
def rawParameters (url : String) : List (String × String) :=
  let url := String.ofList (url.toList.takeWhile (· ≠ '#'))
  match Text.indexOf '?' url with
  | none => []
  | some position => (Text.splitOn '&' (Text.sliceFrom (position + 1) url)).map rawParameter

def parameter (name url : String) : Option String :=
  ((rawParameters url).lookup name).bind Percent.decode

def writtenParameter (pair : String × String) : List Char :=
  pair.1.toList ++ '=' :: pair.2.toList

/-- `start?first=…&second=…` -/
def withParameters (start : String) (pairs : List (String × String)) : String :=
  String.ofList (start.toList ++ '?' :: ['&'].intercalate (pairs.map writtenParameter))

structure IsParameter (pair : String × String) : Prop where
  name : lacks pair.1 ['#', '&', '='] = true
  value : lacks pair.2 ['#', '&'] = true

private theorem rawParameter_written {pair : String × String} (isOne : IsParameter pair) :
    rawParameter (String.ofList (writtenParameter pair)) = pair := by
  have found : Text.indexOf '=' (String.ofList (writtenParameter pair)) =
      some pair.1.toList.length :=
    Text.indexOf_append _ (not_mem_of_lacks isOne.name (by simp))
  rw [rawParameter, found]
  simp [writtenParameter, Text.sliceTo, Text.sliceFrom]

private theorem not_mem_written {pair : String × String} (isOne : IsParameter pair)
    {character : Char}
    (separator : character ∈ ['#', '&']) : character ∉ writtenParameter pair := by
  have inName : character ∉ pair.1.toList := by
    refine not_mem_of_lacks isOne.name ?_
    simp only [List.mem_cons, List.not_mem_nil, or_false] at separator ⊢
    rcases separator with rfl | rfl <;> simp
  have inValue : character ∉ pair.2.toList := not_mem_of_lacks isOne.value separator
  have notEquals : character ≠ '=' := by
    rintro rfl
    revert separator
    decide
  simp [writtenParameter, inName, inValue, notEquals]

private theorem not_mem_intercalate {separator character : Char} {parts : List (List Char)}
    (other : character ≠ separator) (absent : ∀ part ∈ parts, character ∉ part) :
    character ∉ [separator].intercalate parts := by
  induction parts with
  | nil => exact List.not_mem_nil
  | cons part rest induction =>
      have inPart := absent part List.mem_cons_self
      cases rest with
      | nil => rwa [List.intercalate_singleton]
      | cons next rest =>
          have inRest := induction fun part member => absent part (List.mem_cons_of_mem _ member)
          rw [List.intercalate_cons_cons]
          simp [inPart, inRest, other]

theorem rawParameters_withParameters {start : String} {pairs : List (String × String)}
    (plain : lacks start ['#', '?'] = true) (nonempty : pairs ≠ [])
    (areParameters : ∀ pair ∈ pairs, IsParameter pair) :
    rawParameters (withParameters start pairs) = pairs := by
  let query := ['&'].intercalate (pairs.map writtenParameter)
  have parts : ∀ character ∈ ['#', '&'], ∀ part ∈ pairs.map writtenParameter,
      character ∉ part := by
    intro character separator part member
    rcases List.mem_map.mp member with ⟨pair, inPairs, rfl⟩
    exact not_mem_written (areParameters pair inPairs) separator
  have noFragment : '#' ∉ start.toList ++ '?' :: query := by
    have inStart : '#' ∉ start.toList := not_mem_of_lacks plain (by simp)
    have inQuery : '#' ∉ query := not_mem_intercalate (by decide) (parts '#' (by simp))
    simp [inStart, inQuery]
  have whole : (start.toList ++ '?' :: query).takeWhile (· ≠ '#') =
      start.toList ++ '?' :: query := by
    rw [List.takeWhile_eq_self_iff]
    intro character member
    apply decide_eq_true
    rintro rfl
    exact noFragment member
  have found : Text.indexOf '?' (String.ofList (start.toList ++ '?' :: query)) =
      some start.toList.length :=
    Text.indexOf_append query (not_mem_of_lacks plain (by simp))
  have split : query.splitOn '&' = pairs.map writtenParameter :=
    List.splitOn_intercalate '&' (parts '&' (by simp)) (by simpa using nonempty)
  have read : (pairs.map writtenParameter).map (rawParameter ∘ String.ofList) = pairs := by
    rw [List.map_map]
    conv_rhs => rw [← List.map_id pairs]
    apply List.map_congr_left
    intro pair member
    exact rawParameter_written (areParameters pair member)
  simp only [rawParameters, withParameters, String.toList_ofList]
  rw [whole, found]
  simp only [Text.sliceFrom_append_cons, Text.splitOn, String.toList_ofList]
  rw [split, List.map_map]
  exact read

theorem isParameter_encoded {name : String} (plain : lacks name ['#', '&', '='] = true)
    (value : String) : IsParameter (name, Percent.encode value) where
  name := plain
  value := by
    apply List.all_eq_true.mpr
    intro character member
    have reserved : ∀ other ∈ ['#', '&'], character ≠ other := by
      intro other isOne
      rintro rfl
      refine Percent.not_mem_encode ?_ ?_ value member
      all_goals
        simp only [List.mem_cons, List.not_mem_nil, or_false] at isOne
        rcases isOne with rfl | rfl <;> decide
    have absent : character ∉ ['#', '&'] := fun isOne => reserved character isOne rfl
    simpa using absent

theorem parameter_withParameters {start name value : String} {pairs : List (String × String)}
    (plain : lacks start ['#', '?'] = true)
    (areParameters : ∀ pair ∈ pairs, IsParameter pair)
    (found : pairs.lookup name = some (Percent.encode value)) :
    parameter name (withParameters start pairs) = some value := by
  have nonempty : pairs ≠ [] := by
    rintro rfl
    cases found
  rw [parameter, rawParameters_withParameters plain nonempty areParameters, found,
    Option.bind_some, Percent.decode_encode]

end TransactionService.Url
