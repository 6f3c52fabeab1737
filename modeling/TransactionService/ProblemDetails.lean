import TransactionService.Validation

namespace TransactionService.ProblemDetails

/-! # Problem details of Zod issues

`lib/errors/problem-details.ts`. An issue of a union carries the issues of every
branch that was tried. -/

inductive ZodIssueCode
  | invalidType
  | tooSmall
  | tooBig
  | invalidUnion
  | other (code : String)

inductive PathSegment
  | key (name : String)
  | index (position : Nat)

/-- `isUnionIssue` tells the two kinds apart: only a union has `unionErrors`. -/
inductive ZodIssue
  | leaf (code : ZodIssueCode) (path : List PathSegment) (message : String)
  | union (path : List PathSegment) (unionErrors : List (List ZodIssue))

def ZodIssue.countAfter (unionCounter : Nat) : ZodIssue → Nat
  | .leaf _ _ _ => unionCounter
  | .union _ _ => unionCounter + 1

def maxUnionDepth : Nat := 3

def rangeError : String := "RANGE_ERROR"

def zodIssueToCode : ZodIssueCode → String
  | .invalidType => malformedValueError
  | .tooSmall => rangeError
  | .tooBig => rangeError
  | _ => parsingError

/-! ## Paths and labels -/

def PathSegment.text : PathSegment → String
  | .key name => name
  | .index position => "[" ++ toString position ++ "]"

/-- `text.replace(/\.\[/g, '[')`. -/
def replaceDotBracket : List Char → List Char
  | [] => []
  | '.' :: '[' :: rest => '[' :: replaceDotBracket rest
  | character :: rest => character :: replaceDotBracket rest

def formatPath (path : List PathSegment) : String :=
  String.ofList (replaceDotBracket
    (String.intercalate "." (path.map PathSegment.text)).toList)

def joinLocation (location : Option String) (path : String) : String :=
  match Text.given location with
  | some location => if path = "" then location else location ++ "." ++ path
  | none => path

/-- `String.fromCharCode(code)`; a surrogate is no character here. -/
def fromCharCode (code : Nat) : String :=
  String.singleton (Char.ofNat (code % 65536))

/-- Letters at even depths, numbers at odd ones. -/
def labelSegment (index depth : Nat) : String :=
  if depth % 2 = 1 then toString (index + 1)
  else if depth = 0 then fromCharCode (65 + index)
  else fromCharCode (97 + index)

def extendLabel (parentLabel segment : String) : String :=
  if parentLabel = "" then segment else parentLabel ++ "." ++ segment

/-! ## The traversal -/

section

variable (location : Option String)

def summaryDetail (label : String) (path : List PathSegment) : ProblemDetail :=
  let place := joinLocation location (formatPath path)
  makeProblemDetail parsingError
    (if place = "" then "(" ++ label ++ "): Input did not match any available schema"
      else "(" ++ label ++ ") at " ++ place ++ ": Input did not match any available schema")

def leafDetail (parentLabel : String) (code : ZodIssueCode) (path : List PathSegment)
    (message : String) : ProblemDetail :=
  let place := joinLocation location (formatPath path)
  let labelPrefix := if parentLabel = "" then "" else "(" ++ parentLabel ++ ") "
  makeProblemDetail (zodIssueToCode code)
    (if place = "" then labelPrefix ++ message
      else labelPrefix ++ "at " ++ place ++ ": " ++ message)

mutual

def traverseIssue (parentLabel : String) (depth unionCounter : Nat) :
    ZodIssue → List ProblemDetail
  | .leaf code path message => [leafDetail location parentLabel code path message]
  | .union path unionErrors =>
      let label := extendLabel parentLabel (labelSegment unionCounter depth)
      summaryDetail location label path ::
        if depth < maxUnionDepth then traverseBranches label depth 0 unionErrors else []

def traverseIssues (parentLabel : String) (depth : Nat) :
    (unionCounter : Nat) → List ZodIssue → List ProblemDetail
  | _, [] => []
  | unionCounter, issue :: rest =>
      traverseIssue parentLabel depth unionCounter issue ++
        traverseIssues parentLabel depth (issue.countAfter unionCounter) rest

def traverseBranches (label : String) (depth : Nat) :
    (index : Nat) → List (List ZodIssue) → List ProblemDetail
  | _, [] => []
  | index, issues :: rest =>
      traverseIssues (label ++ "." ++ labelSegment index (depth + 1)) (depth + 2) 0 issues ++
        traverseBranches label depth (index + 1) rest

end

def zodProblemDetails (issues : List ZodIssue) : List ProblemDetail :=
  traverseIssues location "" 0 0 issues

end

/-! ## The issues of a tree -/

def unionsIn (issues : List ZodIssue) : Nat :=
  issues.foldl (fun unionCounter issue => issue.countAfter unionCounter) 0

/-- An issue and where it is: the unions around it, innermost first, each as its
number among the unions of its list and the branch that was taken; the number of
unions in its own list, and of those before it. -/
structure Node where
  enclosing : List (Nat × Nat)
  unionsInList : Nat
  unionsBefore : Nat
  issue : ZodIssue

def Node.isUnion (node : Node) : Prop :=
  ∃ path unionErrors, node.issue = .union path unionErrors

mutual

def preorderIssue (enclosing : List (Nat × Nat)) (unionsInList unionsBefore : Nat) :
    ZodIssue → List Node
  | .leaf code path message =>
      [{ enclosing, unionsInList, unionsBefore, issue := .leaf code path message }]
  | .union path unionErrors =>
      { enclosing, unionsInList, unionsBefore, issue := .union path unionErrors } ::
        preorderBranches enclosing unionsBefore 0 unionErrors

def preorder (enclosing : List (Nat × Nat)) (unionsInList : Nat) :
    (unionsBefore : Nat) → List ZodIssue → List Node
  | _, [] => []
  | unionsBefore, issue :: rest =>
      preorderIssue enclosing unionsInList unionsBefore issue ++
        preorder enclosing unionsInList (issue.countAfter unionsBefore) rest

def preorderBranches (enclosing : List (Nat × Nat)) (union : Nat) :
    (branch : Nat) → List (List ZodIssue) → List Node
  | _, [] => []
  | branch, issues :: rest =>
      preorder ((union, branch) :: enclosing) (unionsIn issues) 0 issues ++
        preorderBranches enclosing union (branch + 1) rest

end

def allIssues (issues : List ZodIssue) : List Node :=
  preorder [] (unionsIn issues) 0 issues

def branchLabel : List (Nat × Nat) → String
  | [] => ""
  | (union, branch) :: outer =>
      extendLabel (branchLabel outer) (labelSegment union (2 * outer.length)) ++ "." ++
        labelSegment branch (2 * outer.length + 1)

def unionLabel (outer : List (Nat × Nat)) (union : Nat) : String :=
  extendLabel (branchLabel outer) (labelSegment union (2 * outer.length))

def Node.describe (location : Option String) (node : Node) : ProblemDetail :=
  match node.issue with
  | .leaf code path message =>
      leafDetail location (branchLabel node.enclosing) code path message
  | .union path _ =>
      summaryDetail location (unionLabel node.enclosing node.unionsBefore) path

/-! ## Where the issues are -/

/-- The node is in a list whose issues are inside these unions, from the given
number on, or further inside. -/
def Under (enclosing : List (Nat × Nat)) (unionsBefore : Nat) (node : Node) : Prop :=
  (node.enclosing = enclosing ∧ unionsBefore ≤ node.unionsBefore) ∨
    ∃ union branch, unionsBefore ≤ union ∧ (union, branch) :: enclosing <:+ node.enclosing

theorem Under.suffix {enclosing : List (Nat × Nat)} {unionsBefore : Nat} {node : Node}
    (under : Under enclosing unionsBefore node) : enclosing <:+ node.enclosing := by
  rcases under with ⟨same, -⟩ | ⟨union, branch, -, inside⟩
  · exact same ▸ List.suffix_rfl
  · exact (List.suffix_cons _ _).trans inside

theorem le_countAfter (unionCounter : Nat) (issue : ZodIssue) :
    unionCounter ≤ issue.countAfter unionCounter := by
  cases issue with
  | leaf code path message => exact Nat.le_refl _
  | union path unionErrors => exact Nat.le_succ _

theorem Under.mono {enclosing : List (Nat × Nat)} {fewer unionsBefore : Nat} {node : Node}
    (under : Under enclosing unionsBefore node) (atMost : fewer ≤ unionsBefore) :
    Under enclosing fewer node := by
  rcases under with ⟨same, after⟩ | ⟨union, branch, after, inside⟩
  · exact .inl ⟨same, atMost.trans after⟩
  · exact .inr ⟨union, branch, atMost.trans after, inside⟩

def InBranch (enclosing : List (Nat × Nat)) (union branch : Nat) (node : Node) : Prop :=
  ∃ taken, branch ≤ taken ∧ (union, taken) :: enclosing <:+ node.enclosing

mutual

theorem preorderIssue_under (enclosing : List (Nat × Nat)) (unionsInList unionsBefore : Nat) :
    ∀ issue : ZodIssue, ∀ node ∈ preorderIssue enclosing unionsInList unionsBefore issue,
      (node.enclosing = enclosing ∧ node.unionsBefore = unionsBefore ∧ node.issue = issue) ∨
        (issue.countAfter unionsBefore = unionsBefore + 1 ∧
          InBranch enclosing unionsBefore 0 node)
  | .leaf _ _ _, _, member => by
      rw [preorderIssue, List.mem_singleton] at member
      rw [member]
      exact .inl ⟨rfl, rfl, rfl⟩
  | .union _ unionErrors, node, member => by
      rw [preorderIssue] at member
      rcases List.mem_cons.mp member with rfl | inside
      · exact .inl ⟨rfl, rfl, rfl⟩
      · exact .inr ⟨rfl,
          preorderBranches_under enclosing unionsBefore 0 unionErrors node inside⟩

theorem preorder_under (enclosing : List (Nat × Nat)) (unionsInList unionsBefore : Nat) :
    ∀ issues : List ZodIssue,
      ∀ node ∈ preorder enclosing unionsInList unionsBefore issues,
        Under enclosing unionsBefore node
  | [], _, member => by cases member
  | issue :: rest, node, member => by
      rw [preorder] at member
      rcases List.mem_append.mp member with here | later
      · rcases preorderIssue_under enclosing unionsInList unionsBefore issue node here with
          ⟨same, number, -⟩ | ⟨-, branch, -, inside⟩
        · exact .inl ⟨same, Nat.le_of_eq number.symm⟩
        · exact .inr ⟨unionsBefore, branch, Nat.le_refl _, inside⟩
      · exact (preorder_under enclosing unionsInList _ rest node later).mono
          (le_countAfter unionsBefore issue)

theorem preorderBranches_under (enclosing : List (Nat × Nat)) (union branch : Nat) :
    ∀ unionErrors : List (List ZodIssue),
      ∀ node ∈ preorderBranches enclosing union branch unionErrors,
        InBranch enclosing union branch node
  | [], _, member => by cases member
  | issues :: rest, node, member => by
      rw [preorderBranches] at member
      rcases List.mem_append.mp member with here | later
      · exact ⟨branch, Nat.le_refl _,
          (preorder_under ((union, branch) :: enclosing) _ 0 issues node here).suffix⟩
      · rcases preorderBranches_under enclosing union (branch + 1) rest node later with
          ⟨taken, after, inside⟩
        exact ⟨taken, Nat.le_of_succ_le after, inside⟩

end

theorem inside_unique {enclosing reached : List (Nat × Nat)} {first second : Nat × Nat}
    (left : first :: enclosing <:+ reached) (right : second :: enclosing <:+ reached) :
    first = second := by
  have same := (List.suffix_of_suffix_length_le left right (Nat.le_refl _)).eq_of_length rfl
  exact (List.cons.inj same).1

theorem not_inside_self {enclosing : List (Nat × Nat)} {step : Nat × Nat} :
    ¬ step :: enclosing <:+ enclosing := by
  intro inside
  have longer := inside.length_le
  rw [List.length_cons] at longer
  omega

/-! ## What is reported -/

def reported (nodes : List Node) : List Node :=
  nodes.filter fun node => node.enclosing.length ≤ 2

theorem reported_append (left right : List Node) :
    reported (left ++ right) = reported left ++ reported right :=
  List.filter_append ..

theorem reported_cons {node : Node} (shallow : node.enclosing.length ≤ 2)
    (nodes : List Node) : reported (node :: nodes) = node :: reported nodes :=
  List.filter_cons_of_pos (by simpa using shallow)

private theorem reported_branches_deep {enclosing : List (Nat × Nat)} (deep : 2 ≤ enclosing.length)
    (union branch : Nat) (unionErrors : List (List ZodIssue)) :
    reported (preorderBranches enclosing union branch unionErrors) = [] := by
  rw [reported, List.filter_eq_nil_iff]
  intro node member shallow
  rcases preorderBranches_under enclosing union branch unionErrors node member with
    ⟨taken, -, suffix⟩
  have longer := suffix.length_le
  have bound := of_decide_eq_true shallow
  rw [List.length_cons] at longer
  omega

mutual

/-- The depth counts two for every enclosing union. -/
private theorem traverseIssue_eq (location : Option String) (enclosing : List (Nat × Nat))
    (shallow : enclosing.length ≤ 2) (unionsInList unionCounter : Nat) :
    ∀ issue : ZodIssue,
      traverseIssue location (branchLabel enclosing) (2 * enclosing.length) unionCounter
          issue =
        (reported (preorderIssue enclosing unionsInList unionCounter issue)).map
          (Node.describe location)
  | .leaf _ _ _ => by
      rw [traverseIssue, preorderIssue, reported_cons shallow]
      rfl
  | .union path unionErrors => by
      rw [traverseIssue, preorderIssue, reported_cons shallow, List.map_cons]
      by_cases below : enclosing.length < 2
      · rw [if_pos (by unfold maxUnionDepth; omega),
          ← traverseBranches_eq location enclosing below unionCounter 0 unionErrors]
        rfl
      · rw [if_neg (by unfold maxUnionDepth; omega),
          reported_branches_deep (Nat.le_of_not_lt below)]
        rfl

theorem traverseIssues_eq (location : Option String) (enclosing : List (Nat × Nat))
    (shallow : enclosing.length ≤ 2) (unionsInList unionCounter : Nat) :
    ∀ issues : List ZodIssue,
      traverseIssues location (branchLabel enclosing) (2 * enclosing.length) unionCounter
          issues =
        (reported (preorder enclosing unionsInList unionCounter issues)).map
          (Node.describe location)
  | [] => rfl
  | issue :: rest => by
      rw [traverseIssues, preorder, reported_append, List.map_append,
        traverseIssue_eq location enclosing shallow unionsInList unionCounter issue,
        traverseIssues_eq location enclosing shallow unionsInList
          (issue.countAfter unionCounter) rest]

theorem traverseBranches_eq (location : Option String) (enclosing : List (Nat × Nat))
    (below : enclosing.length < 2) (union index : Nat) :
    ∀ unionErrors : List (List ZodIssue),
      traverseBranches location (unionLabel enclosing union) (2 * enclosing.length) index
          unionErrors =
        (reported (preorderBranches enclosing union index unionErrors)).map
          (Node.describe location)
  | [] => rfl
  | issues :: rest => by
      rw [traverseBranches, preorderBranches, reported_append, List.map_append,
        ← traverseBranches_eq location enclosing below union (index + 1) rest,
        ← traverseIssues_eq location ((union, index) :: enclosing) below (unionsIn issues) 0
          issues]
      rfl

end

/-! ## The numbers of the unions of a list -/

def NumberedInOrder (left right : Node) : Prop :=
  left.isUnion → right.isUnion → left.enclosing = right.enclosing →
    left.unionsBefore < right.unionsBefore

mutual

private theorem preorderIssue_numbered (enclosing : List (Nat × Nat))
    (unionsInList unionsBefore : Nat) :
    ∀ issue : ZodIssue,
      (preorderIssue enclosing unionsInList unionsBefore issue).Pairwise NumberedInOrder
  | .leaf _ _ _ => List.pairwise_singleton ..
  | .union _ unionErrors => by
      rw [preorderIssue, List.pairwise_cons]
      refine ⟨?_, preorderBranches_numbered enclosing unionsBefore 0 unionErrors⟩
      intro node member _ _ same
      rcases preorderBranches_under enclosing unionsBefore 0 unionErrors node member with
        ⟨branch, -, inside⟩
      rw [← same] at inside
      exact absurd inside not_inside_self

theorem preorder_numbered (enclosing : List (Nat × Nat)) (unionsInList unionsBefore : Nat) :
    ∀ issues : List ZodIssue,
      (preorder enclosing unionsInList unionsBefore issues).Pairwise NumberedInOrder
  | [] => .nil
  | issue :: rest => by
      rw [preorder, List.pairwise_append]
      refine ⟨preorderIssue_numbered enclosing unionsInList unionsBefore issue,
        preorder_numbered enclosing unionsInList _ rest, ?_⟩
      intro left here right later leftUnion _ same
      have rightUnder := preorder_under enclosing unionsInList _ rest right later
      rcases preorderIssue_under enclosing unionsInList unionsBefore issue left here with
        ⟨leftHere, number, isIssue⟩ | ⟨counted, branch, -, inside⟩
      · rcases leftUnion with ⟨path, unionErrors, isUnion⟩
        rw [← isIssue, isUnion] at rightUnder
        rcases rightUnder with ⟨-, after⟩ | ⟨_, _, -, inside⟩
        · rw [number]
          exact after
        · rw [← same, leftHere] at inside
          exact absurd inside not_inside_self
      · rw [same] at inside
        rcases rightUnder with ⟨rightHere, -⟩ | ⟨_, _, after, otherInside⟩
        · rw [rightHere] at inside
          exact absurd inside not_inside_self
        · cases inside_unique inside otherInside
          omega

theorem preorderBranches_numbered (enclosing : List (Nat × Nat)) (union branch : Nat) :
    ∀ unionErrors : List (List ZodIssue),
      (preorderBranches enclosing union branch unionErrors).Pairwise NumberedInOrder
  | [] => .nil
  | issues :: rest => by
      rw [preorderBranches, List.pairwise_append]
      refine ⟨preorder_numbered ((union, branch) :: enclosing) _ 0 issues,
        preorderBranches_numbered enclosing union (branch + 1) rest, ?_⟩
      intro left here right later _ _ same
      have inside := (preorder_under ((union, branch) :: enclosing) _ 0 issues left here).suffix
      rw [same] at inside
      rcases preorderBranches_under enclosing union (branch + 1) rest right later with
        ⟨taken, after, otherInside⟩
      cases inside_unique inside otherInside
      omega

end

private theorem le_countAll (unionCounter : Nat) (issues : List ZodIssue) :
    unionCounter ≤ issues.foldl (fun counter issue => issue.countAfter counter) unionCounter := by
  induction issues generalizing unionCounter with
  | nil => exact Nat.le_refl _
  | cons issue rest induction =>
      exact (le_countAfter unionCounter issue).trans (induction (issue.countAfter unionCounter))

mutual

private theorem preorderIssue_inList (enclosing : List (Nat × Nat))
    (unionsInList unionsBefore : Nat) :
    ∀ issue : ZodIssue, issue.countAfter unionsBefore ≤ unionsInList →
      ∀ node ∈ preorderIssue enclosing unionsInList unionsBefore issue,
        node.isUnion → node.unionsBefore < node.unionsInList
  | .leaf _ _ _, _, _, member, isUnion => by
      cases List.mem_singleton.mp member
      exact absurd isUnion (by rintro ⟨_, _, ⟨⟩⟩)
  | .union _ unionErrors, bound, node, member, isUnion => by
      rw [preorderIssue] at member
      rcases List.mem_cons.mp member with rfl | inside
      · exact bound
      · exact preorderBranches_inList enclosing unionsBefore 0 unionErrors node inside isUnion

theorem preorder_inList (enclosing : List (Nat × Nat)) (unionsInList unionsBefore : Nat) :
    ∀ issues : List ZodIssue,
      issues.foldl (fun counter issue => issue.countAfter counter) unionsBefore ≤
        unionsInList →
      ∀ node ∈ preorder enclosing unionsInList unionsBefore issues,
        node.isUnion → node.unionsBefore < node.unionsInList
  | [], _, _, member, _ => by cases member
  | issue :: rest, bound, node, member, isUnion => by
      rw [List.foldl_cons] at bound
      rw [preorder] at member
      rcases List.mem_append.mp member with here | later
      · exact preorderIssue_inList enclosing unionsInList unionsBefore issue
          ((le_countAll _ rest).trans bound) node here isUnion
      · exact preorder_inList enclosing unionsInList _ rest bound node later isUnion

theorem preorderBranches_inList (enclosing : List (Nat × Nat)) (union branch : Nat) :
    ∀ unionErrors : List (List ZodIssue),
      ∀ node ∈ preorderBranches enclosing union branch unionErrors,
        node.isUnion → node.unionsBefore < node.unionsInList
  | [], _, member, _ => by cases member
  | issues :: rest, node, member, isUnion => by
      rw [preorderBranches] at member
      rcases List.mem_append.mp member with here | later
      · exact preorder_inList ((union, branch) :: enclosing) (unionsIn issues) 0 issues
          (Nat.le_refl _) node here isUnion
      · exact preorderBranches_inList enclosing union (branch + 1) rest node later isUnion

end

/-! ## Labels -/

theorem extendLabel_injective {parentLabel left right : String}
    (same : extendLabel parentLabel left = extendLabel parentLabel right) : left = right := by
  unfold extendLabel at same
  split at same
  · exact same
  · have chars := congrArg String.toList same
    simp only [String.toList_append] at chars
    exact String.toList_inj.mp (List.append_cancel_left chars)

theorem toNat_ofNat {code : Nat} (small : code < 128) : (Char.ofNat code).toNat = code := by
  have valid : code.isValidChar := .inl (by omega)
  rw [Char.ofNat, dif_pos valid]
  rfl

theorem fromCharCode_injective {left right : Nat} (leftSmall : left < 128)
    (rightSmall : right < 128) (same : fromCharCode left = fromCharCode right) :
    left = right := by
  have chars := congrArg String.toList same
  simp only [fromCharCode, String.toList_singleton, List.cons.injEq, and_true] at chars
  rw [Nat.mod_eq_of_lt (by omega), Nat.mod_eq_of_lt (by omega)] at chars
  have codes := congrArg Char.toNat chars
  rwa [toNat_ofNat leftSmall, toNat_ofNat rightSmall] at codes

theorem labelSegment_even (index halfDepth : Nat) :
    labelSegment index (2 * halfDepth) =
      fromCharCode ((if halfDepth = 0 then 65 else 97) + index) := by
  unfold labelSegment
  rw [if_neg (by omega)]
  by_cases top : halfDepth = 0
  · rw [if_pos (by omega), if_pos top]
  · rw [if_neg (by omega), if_neg top]

theorem unionLabel_injective {outer : List (Nat × Nat)} {left right : Nat}
    (leftSmall : left < 26) (rightSmall : right < 26)
    (same : unionLabel outer left = unionLabel outer right) : left = right := by
  have segments := extendLabel_injective same
  rw [labelSegment_even, labelSegment_even] at segments
  have codes := fromCharCode_injective (by split <;> omega) (by split <;> omega) segments
  omega

theorem branchLabel_cons (outer : List (Nat × Nat)) (union branch : Nat) :
    branchLabel ((union, branch) :: outer) =
      unionLabel outer union ++ ("." ++ labelSegment branch (2 * outer.length + 1)) :=
  String.append_assoc ..

private theorem branchLabel_nonempty {enclosing : List (Nat × Nat)} (inside : enclosing ≠ []) :
    branchLabel enclosing ≠ "" := by
  cases enclosing with
  | nil => exact absurd rfl inside
  | cons step outer =>
      rw [branchLabel_cons]
      intro empty
      have chars := congrArg String.toList empty
      simp at chars

private theorem leafDetail_inside {location : Option String} {parentLabel : String}
    (inside : parentLabel ≠ "") (code : ZodIssueCode) (path : List PathSegment)
    (message : String) :
    (leafDetail location parentLabel code path message).detail =
      "(" ++ parentLabel ++ ") " ++ (leafDetail location "" code path message).detail := by
  unfold leafDetail makeProblemDetail
  dsimp only
  rw [if_neg inside, if_pos rfl]
  split
  · rw [String.empty_append]
  · rw [String.empty_append]
    simp only [String.append_assoc]

/-- Every issue under at most two unions is reported once, in order; issues in a
branch are reported under its label. -/
theorem reports_in_preorder (location : Option String) (issues : List ZodIssue) :
    zodProblemDetails location issues =
        (reported (allIssues issues)).map (Node.describe location) ∧
    (∀ node ∈ allIssues issues, node.enclosing ≠ [] →
      ∀ code path message, node.issue = .leaf code path message →
        (node.describe location).detail = "(" ++ branchLabel node.enclosing ++ ") " ++
          (leafDetail location "" code path message).detail) ∧
    (∀ outer union branch, ∃ extension, extension ≠ "" ∧
      branchLabel ((union, branch) :: outer) = unionLabel outer union ++ extension) ∧
    (allIssues issues).Pairwise (fun left right => left.isUnion → right.isUnion →
      left.enclosing = right.enclosing → right.unionsInList ≤ 26 →
      unionLabel left.enclosing left.unionsBefore ≠
        unionLabel right.enclosing right.unionsBefore) ∧
    (zodProblemDetails location issues = [] ↔ issues = []) := by
  have isPreorder : zodProblemDetails location issues =
      (reported (allIssues issues)).map (Node.describe location) :=
    traverseIssues_eq location [] (Nat.zero_le 2) (unionsIn issues) 0 issues
  refine ⟨isPreorder, ?_, ?_, ?_, ?_⟩
  · intro node _ inside code path message isLeaf
    unfold Node.describe
    rw [isLeaf]
    exact leafDetail_inside (branchLabel_nonempty inside) code path message
  · intro outer union branch
    refine ⟨_, ?_, branchLabel_cons outer union branch⟩
    intro empty
    have chars := congrArg String.toList empty
    simp at chars
  · have inList : ∀ node ∈ allIssues issues, node.isUnion →
        node.unionsBefore < node.unionsInList :=
      preorder_inList [] (unionsIn issues) 0 issues (Nat.le_refl _)
    refine (preorder_numbered [] (unionsIn issues) 0 issues).imp_of_mem ?_
    intro left right _ rightMember numbered leftUnion rightUnion same small sameLabel
    have before := numbered leftUnion rightUnion same
    have inRange := inList right rightMember rightUnion
    rw [same] at sameLabel
    have sameNumber := unionLabel_injective (by omega) (by omega) sameLabel
    omega
  · cases issues with
    | nil => simp [zodProblemDetails, traverseIssues]
    | cons issue rest =>
        cases issue <;> simp [zodProblemDetails, traverseIssues, traverseIssue]

end TransactionService.ProblemDetails
