import Mathlib.Data.List.TakeDrop

namespace TransactionService.Text

/-! # String operations of a JavaScript program

Each operation works on the characters of the string. The positions it takes
and returns are character positions. -/

/-- `text.split(separator)` for a one-character separator. -/
def splitOn (separator : Char) (text : String) : List String :=
  (text.toList.splitOn separator).map String.ofList

/-- `text.indexOf(wanted)`; `none` stands for `-1`. -/
def indexOf (wanted : Char) (text : String) : Option Nat :=
  text.toList.findIdx? (· == wanted)

/-- `text.slice(0, position)`. -/
def sliceTo (position : Nat) (text : String) : String :=
  String.ofList (text.toList.take position)

/-- `text.slice(position)`. -/
def sliceFrom (position : Nat) (text : String) : String :=
  String.ofList (text.toList.drop position)

/-- `text.startsWith(start)`. -/
def startsWith (start text : String) : Bool :=
  start.toList.isPrefixOf text.toList

/-- `text.includes(wanted)`. -/
def includes (wanted text : String) : Bool :=
  text.toList.tails.any (wanted.toList.isPrefixOf ·)

/-- The characters that `trim` removes and `\s` matches. -/
def isSpace (character : Char) : Bool :=
  character.toNat ∈ [9, 10, 11, 12, 13, 32, 160, 5760, 8192, 8193, 8194, 8195,
    8196, 8197, 8198, 8199, 8200, 8201, 8202, 8232, 8233, 8239, 8287, 12288,
    65279]

/-- `text.trim()`. -/
def trim (text : String) : String :=
  String.ofList (((text.toList.dropWhile isSpace).reverse.dropWhile isSpace).reverse)

/-- `text.split(/\s+/).filter(Boolean)`. -/
def words (text : String) : List String :=
  ((text.toList.splitOnP isSpace).filter (· ≠ [])).map String.ofList

/-- `text.replace(/\s+/g, replacement)` from inside or outside a run of spaces. -/
def replaceSpaces (replacement : List Char) : (insideRun : Bool) → List Char → List Char
  | _, [] => []
  | insideRun, character :: rest =>
      if isSpace character then
        (if insideRun then [] else replacement) ++ replaceSpaces replacement true rest
      else
        character :: replaceSpaces replacement false rest

/-- Replace every `old` by `new`. -/
def replaceChar (old new : Char) (text : String) : String :=
  String.ofList (text.toList.map fun character =>
    if character = old then new else character)

/-- An optional text as a condition sees it: an empty text counts as missing. -/
def given (text : Option String) : Option String :=
  text.filter (· ≠ "")

@[simp] theorem given_none : given none = none := rfl

@[simp] theorem given_empty : given (some "") = none := rfl

theorem given_some {text : String} (nonempty : text ≠ "") :
    given (some text) = some text := by
  simp [given, nonempty]

@[simp] theorem given_given (text : Option String) : given (given text) = given text := by
  simp [given]

/-! ## A string cut at its first separator -/

theorem indexOf_eq_some {wanted : Char} {text : String} {position : Nat}
    (found : indexOf wanted text = some position) :
    ∃ before after : List Char, text = String.ofList (before ++ wanted :: after) ∧
      wanted ∉ before ∧ before.length = position := by
  rcases List.findIdx?_eq_some_iff_getElem.mp found with
    ⟨bound, atPosition, earlier⟩
  refine ⟨text.toList.take position, text.toList.drop (position + 1), ?_, ?_, ?_⟩
  · have same : text.toList[position] = wanted := by simpa using atPosition
    rw [← same, List.getElem_cons_drop, List.take_append_drop,
      String.ofList_toList]
  · intro member
    rcases List.mem_take_iff_getElem.mp member with ⟨index, inside, equal⟩
    have before := earlier index (by omega)
    simp [equal] at before
  · rw [List.length_take]
    omega

theorem indexOf_append {wanted : Char} {before : List Char}
    (after : List Char) (absent : wanted ∉ before) :
    indexOf wanted (String.ofList (before ++ wanted :: after)) =
      some before.length := by
  unfold indexOf
  rw [String.toList_ofList, List.findIdx?_append]
  have none : List.findIdx? (· == wanted) before = none := by
    rw [List.findIdx?_eq_none_iff]
    intro character member
    exact beq_eq_false_iff_ne.mpr fun equal => absent (equal ▸ member)
  simp [none, List.findIdx?_cons]

theorem sliceTo_append (before after : List Char) :
    sliceTo before.length (String.ofList (before ++ after)) =
      String.ofList before := by
  simp [sliceTo]

theorem sliceFrom_append_cons (before after : List Char) (separator : Char) :
    sliceFrom (before.length + 1) (String.ofList (before ++ separator :: after)) =
      String.ofList after := by
  simp [sliceFrom]

/-! ## Numerals -/

theorem toString_nat_injective {left right : Nat} (same : toString left = toString right) :
    left = right := by
  have digits : Nat.toDigits 10 left = Nat.toDigits 10 right := by
    simpa using congrArg String.toList same
  have values := congrArg (fun digits => Nat.ofDigitChars 10 digits 0) digits
  simpa using values

private theorem minus_not_mem_toString (number : Nat) : '-' ∉ (toString number).toList := by
  intro member
  have written : '-' ∈ Nat.toDigits 10 number := by simpa using member
  have digit := Nat.isDigit_of_mem_toDigits (by decide) (by decide) written
  exact absurd digit (by decide)

theorem toString_negSucc_ne (left right : Nat) :
    toString (Int.negSucc left) ≠ toString right := by
  intro same
  have signed : "-" ++ toString (left + 1) = toString right := same
  apply minus_not_mem_toString right
  simp [← signed]

theorem toString_int_injective {left right : Int}
    (same : toString left = toString right) : left = right := by
  cases left with
  | ofNat left =>
      cases right with
      | ofNat right => exact congrArg Int.ofNat (toString_nat_injective same)
      | negSucc right => exact absurd same.symm (toString_negSucc_ne right left)
  | negSucc left =>
      cases right with
      | ofNat right => exact absurd same (toString_negSucc_ne left right)
      | negSucc right =>
          have signed : "-" ++ toString (left + 1) = "-" ++ toString (right + 1) := same
          have unsigned : toString (left + 1) = toString (right + 1) := by
            have characters := congrArg String.toList signed
            simp only [String.toList_append, List.append_cancel_left_eq] at characters
            exact String.toList_inj.mp characters
          have equal := toString_nat_injective unsigned
          rw [Nat.succ.inj equal]

end TransactionService.Text
