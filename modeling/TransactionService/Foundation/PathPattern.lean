import Mathlib.Data.List.Pairwise

namespace TransactionService.PathPattern

/-! # Path patterns

Routes that are chosen by a method and a pattern for the segments of a path. -/

/-- A segment that is given, or any segment that is not empty, under a name. -/
inductive Part
  | literal (text : String)
  | parameter (name : String)
  deriving DecidableEq

def matchPath : List Part → List String → Option (List (String × String))
  | [], [] => some []
  | .literal text :: pattern, segment :: path =>
      if segment = text then matchPath pattern path else none
  | .parameter name :: pattern, segment :: path =>
      if segment = "" then none else ((name, segment) :: ·) <$> matchPath pattern path
  | _, _ => none

/-- Whether the patterns have no path in common, as their literals or their lengths
show. -/
def apart : List Part → List Part → Bool
  | [], [] => false
  | .literal text :: pattern, .literal other :: others => text ≠ other || apart pattern others
  | _ :: pattern, _ :: others => apart pattern others
  | _, _ => true

def fill (values : String → String) : List Part → List String
  | [] => []
  | .literal text :: pattern => text :: fill values pattern
  | .parameter name :: pattern => values name :: fill values pattern

def parameters : List Part → List String
  | [] => []
  | .literal _ :: pattern => parameters pattern
  | .parameter name :: pattern => name :: parameters pattern

theorem matchPath_fill {values : String → String} {pattern : List Part}
    (nonempty : ∀ name ∈ parameters pattern, values name ≠ "") :
    matchPath pattern (fill values pattern) =
      some ((parameters pattern).map fun name => (name, values name)) := by
  induction pattern with
  | nil => rfl
  | cons part pattern induction =>
      cases part with
      | literal text =>
          rw [fill, matchPath, if_pos rfl]
          exact induction nonempty
      | parameter name =>
          have isGiven := nonempty name List.mem_cons_self
          rw [fill, matchPath, if_neg isGiven, induction fun other member =>
            nonempty other (List.mem_cons_of_mem _ member)]
          rfl

theorem matchPath_tail {part : Part} {pattern : List Part} {segment : String}
    {path : List String} (matched : (matchPath (part :: pattern) (segment :: path)).isSome) :
    (matchPath pattern path).isSome ∧ ∀ text, part = .literal text → segment = text := by
  cases part with
  | literal text =>
      rw [matchPath] at matched
      split at matched
      · rename_i same
        exact ⟨matched, by rintro _ ⟨⟩; exact same⟩
      · cases matched
  | parameter name =>
      rw [matchPath] at matched
      split at matched
      · cases matched
      · rw [Option.map_eq_map, Option.isSome_map] at matched
        exact ⟨matched, by rintro _ ⟨⟩⟩

theorem not_matched_of_apart {pattern others : List Part} {path : List String}
    (separate : apart pattern others = true) (matched : (matchPath pattern path).isSome) :
    matchPath others path = none := by
  by_contra otherMatches
  replace otherMatches := Option.isSome_iff_ne_none.mpr otherMatches
  induction path generalizing pattern others with
  | nil =>
      cases pattern with
      | nil =>
          cases others with
          | nil => cases separate
          | cons other others => cases other <;> cases otherMatches
      | cons part pattern => cases part <;> cases matched
  | cons segment path induction =>
      cases pattern with
      | nil => cases matched
      | cons part pattern =>
          cases others with
          | nil => cases otherMatches
          | cons other others =>
              rcases matchPath_tail matched with ⟨tail, isLiteral⟩
              rcases matchPath_tail otherMatches with ⟨otherTail, isOtherLiteral⟩
              refine induction ?_ tail otherTail
              cases part with
              | parameter name => cases other <;> exact separate
              | literal text =>
                  cases other with
                  | parameter name => exact separate
                  | literal otherText =>
                      have same : text = otherText :=
                        (isLiteral text rfl).symm.trans (isOtherLiteral otherText rfl)
                      simpa [apart, same] using separate

private theorem apart_comm (pattern others : List Part) :
    apart pattern others = apart others pattern := by
  induction pattern generalizing others with
  | nil =>
      cases others with
      | nil => rfl
      | cons other others => cases other <;> rfl
  | cons part pattern induction =>
      cases others with
      | nil => cases part <;> rfl
      | cons other others =>
          cases part with
          | parameter name => cases other <;> exact induction others
          | literal text =>
              cases other with
              | parameter name => exact induction others
              | literal otherText => simp only [apart, induction others, ne_comm]

/-! ## Tables of routes -/

structure Registered (Method Target : Type) where
  method : Method
  pattern : List Part
  target : Target
  deriving DecidableEq

section

variable {Method Target : Type}

def Separate (first second : Registered Method Target) : Prop :=
  first.method ≠ second.method ∨ apart first.pattern second.pattern = true

instance : Std.Symm (@Separate Method Target) where
  symm first second separate := by
    rcases separate with methods | patterns
    · exact .inl methods.symm
    · exact .inr (apart_comm first.pattern second.pattern ▸ patterns)

/-- A router sends a request to a registration when no other fits it; nothing is said
about requests that several fit. -/
def Routes (table : List (Registered Method Target))
    (router : Method → List String → Option (Target × List (String × String))) : Prop :=
  ∀ route ∈ table, ∀ path values, matchPath route.pattern path = some values →
    (∀ other ∈ table, other.method = route.method →
      (matchPath other.pattern path).isSome → other = route) →
    router route.method path = some (route.target, values)

/-- In a table whose routes are separate, each route gets the paths of its pattern,
whatever the order in which the router looks at them. -/
theorem Routes.reaches {table : List (Registered Method Target)}
    {router : Method → List String → Option (Target × List (String × String))}
    (routes : Routes table router) (separate : table.Pairwise Separate)
    {route : Registered Method Target} (member : route ∈ table) {values : String → String}
    (nonempty : ∀ name ∈ parameters route.pattern, values name ≠ "") :
    router route.method (fill values route.pattern) =
      some (route.target, (parameters route.pattern).map fun name => (name, values name)) := by
  have matched := matchPath_fill nonempty
  refine routes route member _ _ matched fun other isOther sameMethod otherMatches => ?_
  by_contra different
  rcases separate.forall isOther member different with methods | patterns
  · exact methods sameMethod
  · rw [not_matched_of_apart patterns otherMatches] at matched
    cases matched

variable [DecidableEq Method]

instance (first second : Registered Method Target) : Decidable (Separate first second) :=
  inferInstanceAs (Decidable (first.method ≠ second.method ∨ _))

def dispatch (table : List (Registered Method Target)) (method : Method)
    (path : List String) : Option (Target × List (String × String)) :=
  table.findSome? fun route =>
    if route.method = method then
      (matchPath route.pattern path).map fun values => (route.target, values)
    else none

theorem dispatch_routes (table : List (Registered Method Target)) :
    Routes table (dispatch table) := by
  intro route member path values matched only
  have fits : (if route.method = route.method then
      (matchPath route.pattern path).map fun values => (route.target, values) else none) =
      some (route.target, values) := by
    rw [if_pos rfl, matched]
    rfl
  induction table with
  | nil => cases member
  | cons first rest induction =>
      unfold dispatch
      rw [List.findSome?_cons]
      split
      · rename_i found answers
        split at answers
        · rename_i sameMethod
          have firstFits : (matchPath first.pattern path).isSome := by
            rcases Option.map_eq_some_iff.mp answers with ⟨_, isMatch, -⟩
            rw [isMatch]
            rfl
          have same := only first List.mem_cons_self sameMethod firstFits
          rw [same, matched] at answers
          exact answers.symm
        · cases answers
      · rename_i silent
        rcases List.mem_cons.mp member with rfl | later
        · rw [fits] at silent
          cases silent
        · exact induction later fun other isOther =>
            only other (List.mem_cons_of_mem _ isOther)

end

end TransactionService.PathPattern
