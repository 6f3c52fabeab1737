import Mathlib.Data.List.Sort

namespace TransactionService

/-! # JSON values as a JavaScript program sees them

Values parsed from JSON text, with the reads, truth tests and spreads that an
untyped program performs on them. A missing property is `none`, which plays
the role of `undefined`; `some .null` is an explicit `null`. -/

/-- A JSON value. A number is kept as its canonical decimal text: programs that
only compare and print numbers need nothing more, and two doubles are equal
exactly when their texts are. -/
inductive Json
  | null
  | bool (value : Bool)
  | num (text : String)
  | str (value : String)
  | arr (items : List Json)
  | obj (members : List (String × Json))
deriving Inhabited

/-! ## Members of an object -/

/-- Object spread with one property overridden: a present key keeps its place,
a new key goes last. -/
def setMember (name : String) (value : α) : List (String × α) → List (String × α)
  | [] => [(name, value)]
  | (key, old) :: rest =>
      if key = name then (key, value) :: rest
      else (key, old) :: setMember name value rest

@[simp] theorem lookup_setMember_self (name : String) (value : α)
    (members : List (String × α)) :
    (setMember name value members).lookup name = some value := by
  induction members with
  | nil => simp [setMember]
  | cons head rest induction =>
      rcases head with ⟨key, old⟩
      by_cases same : key = name
      · simp [setMember, same]
      · have different : (name == key) = false :=
          beq_eq_false_iff_ne.mpr fun equal => same equal.symm
        simp [setMember, same, List.lookup_cons, different, induction]

theorem lookup_setMember_of_ne {name other : String} (different : other ≠ name)
    (value : α) (members : List (String × α)) :
    (setMember name value members).lookup other = members.lookup other := by
  have unequal : (other == name) = false := beq_eq_false_iff_ne.mpr different
  induction members with
  | nil => simp [setMember, List.lookup_cons, unequal]
  | cons head rest induction =>
      rcases head with ⟨key, old⟩
      by_cases same : key = name
      · subst same
        simp [setMember, List.lookup_cons, unequal]
      · simp only [setMember, if_neg same, List.lookup_cons, induction]

theorem lookup_filter {keep : String → Bool} {name : String} (kept : keep name = true)
    (members : List (String × α)) :
    (members.filter fun entry => keep entry.1).lookup name = members.lookup name := by
  induction members with
  | nil => rfl
  | cons head rest induction =>
      rcases head with ⟨key, value⟩
      by_cases stays : keep key = true
      · simp only [List.filter_cons, stays, if_true, List.lookup_cons, induction]
      · have unequal : (name == key) = false :=
          beq_eq_false_iff_ne.mpr fun same => stays (same ▸ kept)
        rw [List.lookup_cons, unequal, List.filter_cons, if_neg stays]
        exact induction

theorem lookup_filter_of_ne {name other : String} (different : other ≠ name)
    (members : List (String × α)) :
    (members.filter fun entry => entry.1 ≠ name).lookup other = members.lookup other :=
  @lookup_filter _ (fun key => decide (key ≠ name)) other (decide_eq_true different) members

theorem mem_of_lookup {name : String} {value : α} {members : List (String × α)}
    (found : members.lookup name = some value) : (name, value) ∈ members := by
  rcases List.lookup_eq_some_iff.mp found with ⟨before, after, rfl, -⟩
  simp

def assignMembers (items : List (String × α)) : List (String × α) :=
  items.foldl (fun members item => setMember item.1 item.2 members) []

private theorem lookup_foldl_setMember (items members : List (String × α)) (name : String) :
    (items.foldl (fun members item => setMember item.1 item.2 members) members).lookup
        name =
      (items.reverse.lookup name).or (members.lookup name) := by
  induction items generalizing members with
  | nil => rfl
  | cons item rest induction =>
      rcases item with ⟨key, value⟩
      rw [List.foldl_cons, induction, List.reverse_cons, List.lookup_append, Option.or_assoc]
      congr 1
      by_cases same : name = key
      · subst same
        simp
      · have unequal : (name == key) = false := beq_eq_false_iff_ne.mpr same
        simp [lookup_setMember_of_ne same, List.lookup_cons, unequal]

theorem lookup_assignMembers (items : List (String × α)) (name : String) :
    (assignMembers items).lookup name = items.reverse.lookup name := by
  rw [assignMembers, lookup_foldl_setMember]
  simp

theorem lookup_of_mem {name : String} {value : α} {members : List (String × α)}
    (distinct : (members.map Prod.fst).Nodup) (member : (name, value) ∈ members) :
    members.lookup name = some value := by
  rcases List.append_of_mem member with ⟨before, after, rfl⟩
  rw [List.lookup_eq_some_iff]
  refine ⟨before, after, rfl, fun entry earlier => ?_⟩
  rw [List.map_append, List.nodup_append] at distinct
  have apart := distinct.2.2 entry.1 (List.mem_map_of_mem earlier) name (by simp)
  exact bne_iff_ne.mpr fun same => apart same.symm

private theorem keys_setMember (name : String) (value : α) (members : List (String × α)) :
    (setMember name value members).map Prod.fst =
      if name ∈ members.map Prod.fst then members.map Prod.fst
      else members.map Prod.fst ++ [name] := by
  induction members with
  | nil => rfl
  | cons head rest induction =>
      rcases head with ⟨key, old⟩
      by_cases same : key = name
      · simp [setMember, same]
      · simp only [setMember, if_neg same, List.map_cons, induction, List.mem_cons,
          Ne.symm same, false_or]
        split <;> rfl

private theorem nodup_foldl_setMember (items : List (String × α)) {members : List (String × α)}
    (distinct : (members.map Prod.fst).Nodup) :
    ((items.foldl (fun members item => setMember item.1 item.2 members) members).map
      Prod.fst).Nodup := by
  induction items generalizing members with
  | nil => exact distinct
  | cons item rest induction =>
      apply induction
      rw [keys_setMember]
      split
      · exact distinct
      · rename_i absent
        apply List.nodup_append.mpr
        refine ⟨distinct, List.nodup_singleton _, fun key member other isLast => ?_⟩
        rw [List.mem_singleton.mp isLast]
        rintro rfl
        exact absent member

theorem nodup_assignMembers (items : List (String × α)) :
    ((assignMembers items).map Prod.fst).Nodup :=
  nodup_foldl_setMember items List.nodup_nil

/-- An object literal with members that may be undefined, which are left out. -/
def definedMembers (members : List (String × Option α)) : List (String × α) :=
  members.filterMap fun entry => entry.2.map fun value => (entry.1, value)

theorem lookup_definedMembers {members : List (String × Option α)}
    (distinct : (members.map Prod.fst).Nodup) (name : String) :
    (definedMembers members).lookup name = (members.lookup name).join := by
  induction members with
  | nil => rfl
  | cons head rest induction =>
      rcases head with ⟨key, value⟩
      rcases List.nodup_cons.mp distinct with ⟨absent, restDistinct⟩
      have onRest := induction restDistinct
      by_cases same : name = key
      · subst same
        cases value with
        | some found => simp [definedMembers]
        | none =>
            have missing : rest.lookup name = none := by
              rw [List.lookup_eq_none_iff]
              intro entry member
              refine bne_iff_ne.mpr fun same => absent ?_
              exact List.mem_map.mpr ⟨entry, member, same.symm⟩
            rw [missing] at onRest
            simpa [definedMembers] using onRest
      · have unequal : (name == key) = false := beq_eq_false_iff_ne.mpr same
        cases value with
        | some found =>
            simpa [definedMembers, List.lookup_cons, unequal] using onRest
        | none => simpa [definedMembers, List.lookup_cons, unequal] using onRest

/-- The numeric value of an array-index key: the canonical decimal text of an
integer below `2 ^ 32 - 1`. -/
def arrayIndex? (key : String) : Option Nat :=
  key.toNat?.filter fun index => toString index = key ∧ index < 4294967295

theorem arrayIndex?_eq_none {key : String} {character : Char}
    (member : character ∈ key.toList) (noDigit : character.isDigit = false) :
    arrayIndex? key = none := by
  rw [arrayIndex?, Option.filter_eq_none_iff]
  intro index _ holds
  rcases of_decide_eq_true holds with ⟨same, -⟩
  have digits : key.toList = Nat.toDigits 10 index := by
    rw [← same]
    exact String.toList_ofList
  rw [digits] at member
  have isDigit := Nat.isDigit_of_mem_toDigits (by decide) (by decide) member
  rw [noDigit] at isDigit
  cases isDigit

/-- Own properties in enumeration order: array-index keys ascending, then the
others in insertion order. -/
def enumerate (members : List (String × α)) : List (String × α) :=
  (members.filter fun entry => (arrayIndex? entry.1).isSome).insertionSort
      (fun left right => (arrayIndex? left.1).getD 0 ≤ (arrayIndex? right.1).getD 0) ++
    members.filter fun entry => (arrayIndex? entry.1).isNone

/-- `Object.values`. -/
def objectValues (members : List (String × α)) : List α :=
  (enumerate members).map Prod.snd

theorem lookup_of_enumerate {name : String} {value : α} {members rest : List (String × α)}
    (noIndex : arrayIndex? name = none) (first : enumerate members = (name, value) :: rest) :
    members.lookup name = some value := by
  have kept : (arrayIndex? name).isNone = true := by rw [noIndex]; rfl
  rw [← @lookup_filter _ (fun key => (arrayIndex? key).isNone) name kept members]
  rcases List.append_eq_cons_iff.mp first with ⟨-, others⟩ | ⟨indices, isSorted, -⟩
  · rw [others]
    simp
  · have member := congrArg ((name, value) ∈ ·) isSorted
    simp only [List.mem_insertionSort, List.mem_cons_self, eq_iff_iff, iff_true] at member
    have isIndex := (List.mem_filter.mp member).2
    rw [noIndex] at isIndex
    cases isIndex

private theorem mem_enumerate {entry : String × α} {members : List (String × α)} :
    entry ∈ enumerate members ↔ entry ∈ members := by
  simp only [enumerate, List.mem_append, List.mem_insertionSort, List.mem_filter]
  cases index : arrayIndex? entry.1 with
  | none => simp
  | some _ => simp

theorem mem_objectValues {value : α} {members : List (String × α)} :
    value ∈ objectValues members ↔ ∃ name, (name, value) ∈ members := by
  simp only [objectValues, List.mem_map, mem_enumerate, Prod.exists, exists_eq_right]

@[simp] theorem objectValues_singleton (key : String) (value : α) :
    objectValues [(key, value)] = [value] := by
  cases index : arrayIndex? key with
  | none => simp [objectValues, enumerate, index]
  | some _ => simp [objectValues, enumerate, index]

namespace Json

/-! ## Reading and testing values -/

/-- The own property `value.name`; anything but an object has none of the
properties a program asks for by a fixed name. -/
def field : Json → String → Option Json
  | .obj members, name => members.lookup name
  | _, _ => none

theorem sizeOf_field_lt {value member : Json} {name : String}
    (found : value.field name = some member) : sizeOf member < sizeOf value := by
  cases value with
  | obj members =>
      have smaller := List.sizeOf_lt_of_mem (mem_of_lookup found)
      simp only [Prod.mk.sizeOf_spec] at smaller
      simp only [Json.obj.sizeOf_spec]
      omega
  | _ => cases found

/-- `{ ...value, [name]: replacement }`. -/
def withField (value : Json) (name : String) (replacement : Json) : Json :=
  match value with
  | .obj members => .obj (setMember name replacement members)
  | _ => .obj [(name, replacement)]

@[simp] theorem field_withField_self (members : List (String × Json))
    (name : String) (replacement : Json) :
    ((Json.obj members).withField name replacement).field name =
      some replacement := by
  simp [withField, field]

theorem field_withField_of_ne {name other : String} (different : other ≠ name)
    (members : List (String × Json)) (replacement : Json) :
    ((Json.obj members).withField name replacement).field other =
      (Json.obj members).field other := by
  simp [withField, field, lookup_setMember_of_ne different]

def isTruthy : Json → Bool
  | .null => false
  | .bool value => value
  | .num text => decide (text ≠ "0")
  | .str value => decide (value ≠ "")
  | .arr _ => true
  | .obj _ => true

def truthy : Option Json → Bool
  | none => false
  | some value => value.isTruthy

/-- `value ?? fallback`. -/
def orElse : Option Json → Json → Json
  | none, fallback => fallback
  | some .null, fallback => fallback
  | some value, _ => value

theorem orElse_some {value : Json} (present : value ≠ .null) (fallback : Json) :
    orElse (some value) fallback = value := by
  cases value with
  | null => exact absurd rfl present
  | _ => rfl

/-- `typeof value === 'object'` for a value that is not `null`. -/
def isObjectLike : Json → Bool
  | .arr _ => true
  | .obj _ => true
  | _ => false

/-- `value === text`. -/
def isText : Json → String → Bool
  | .str value, text => decide (value = text)
  | _, _ => false

@[simp] theorem isText_iff {value : Json} {text : String} :
    value.isText text = true ↔ value = .str text := by
  cases value <;> simp [isText]

/-- `items.includes(text)`. -/
def includesText (items : List Json) (text : String) : Bool :=
  items.any (·.isText text)

@[simp] theorem includesText_iff {items : List Json} {text : String} :
    includesText items text = true ↔ Json.str text ∈ items := by
  simp only [includesText, List.any_eq_true, isText_iff]
  constructor
  · rintro ⟨value, member, rfl⟩
    exact member
  · intro member
    exact ⟨_, member, rfl⟩

def asString? : Json → Option String
  | .str value => some value
  | _ => none

@[simp] theorem asString?_eq_some {value : Json} {text : String} :
    value.asString? = some text ↔ value = .str text := by
  cases value <;> simp [asString?]

def isString (value : Json) : Bool :=
  value.asString?.isSome

/-- `Array.isArray(value) ? value : [value]`. -/
def arrayOf : Json → List Json
  | .arr items => items
  | value => [value]

def ownProperty : Json → String → Option Json
  | .obj members, name => members.lookup name
  | .arr items, name =>
      match (arrayIndex? name).bind (items[·]?) with
      | some value => some value
      | none => if name = "length" then some (.num (toString items.length)) else none
  | _, _ => none

def ownValue : Json → List String → Option Json
  | value, [] => some value
  | value, name :: rest => (value.ownProperty name).bind fun next => next.ownValue rest

/-! ## Inherited properties and conversion to text -/

/-- What reading a property can produce: a JSON value, or something found on
the prototype chain of one. -/
inductive Reference
  | json (value : Json)
  | function (name : String)
  | objectPrototype
  | arrayPrototype

def objectPrototypeMethods : List String :=
  ["__defineGetter__", "__defineSetter__", "hasOwnProperty",
    "__lookupGetter__", "__lookupSetter__", "isPrototypeOf",
    "propertyIsEnumerable", "toString", "valueOf", "toLocaleString"]

def arrayPrototypeMethods : List String :=
  ["at", "concat", "copyWithin", "fill", "find", "findIndex", "findLast",
    "findLastIndex", "lastIndexOf", "pop", "push", "reverse", "shift",
    "unshift", "slice", "sort", "splice", "includes", "indexOf", "join",
    "keys", "entries", "values", "forEach", "filter", "flat", "flatMap",
    "map", "every", "some", "reduce", "reduceRight", "toLocaleString",
    "toString", "toReversed", "toSorted", "toSpliced", "with"]

/-- A property of `Object.prototype`. -/
def objectPrototypeProperty (name : String) : Option Reference :=
  if name = "__proto__" then some (.json .null)
  else if name = "constructor" then some (.function "Object")
  else if name ∈ objectPrototypeMethods then some (.function name)
  else none

/-- A property of `Array.prototype`, itself an empty array. -/
def arrayPrototypeProperty (name : String) : Option Reference :=
  if name = "__proto__" then some .objectPrototype
  else if name = "constructor" then some (.function "Array")
  else if name = "length" then some (.json (.num "0"))
  else if name ∈ arrayPrototypeMethods then some (.function name)
  else objectPrototypeProperty name

/-- `name in value ? value[name]`, for values with `typeof value === 'object'`;
`none` when the property is absent or `value` is not such a value. -/
def Reference.property : Reference → String → Option Reference
  | .json (.obj members), name =>
      match members.lookup name with
      | some value => some (.json value)
      | none =>
          if name = "__proto__" then some .objectPrototype
          else objectPrototypeProperty name
  | .json (.arr items), name =>
      match (arrayIndex? name).bind (items[·]?) with
      | some value => some (.json value)
      | none =>
          if name = "length" then some (.json (.num (toString items.length)))
          else if name = "__proto__" then some .arrayPrototype
          else arrayPrototypeProperty name
  | .objectPrototype, name => objectPrototypeProperty name
  | .arrayPrototype, name => arrayPrototypeProperty name
  | _, _ => none

mutual
/-- `String(value)`. An object whose own `toString` is not callable cannot be
converted: its JSON members hide the inherited methods. -/
def toText : Json → Option String
  | .null => some "null"
  | .bool value => some (if value then "true" else "false")
  | .num text => some text
  | .str value => some value
  | .arr items => (itemTexts items).map (String.intercalate ",")
  | .obj members =>
      if (members.lookup "toString").isSome then none
      else some "[object Object]"

/-- The texts `Array.prototype.join` puts together. -/
def itemTexts : List Json → Option (List String)
  | [] => some []
  | .null :: rest => (itemTexts rest).map ("" :: ·)
  | item :: rest => do
      let text ← item.toText
      let texts ← itemTexts rest
      return text :: texts
end

def Reference.toText : Reference → Option String
  | .json value => value.toText
  | .function name => some s!"function {name}() \x7b [native code] \x7d"
  | .objectPrototype => some "[object Object]"
  | .arrayPrototype => some ""

end Json

end TransactionService
