import Mathlib.Data.List.Sort
import Mathlib.Order.Defs.LinearOrder

namespace TransactionService.StableSort

/-! # The first element of a stable sort

Sorting by a rank puts first what no other element undercuts; of several such
elements it is the one that came first. -/

variable {Item : Type u} {Rank : Type v} [LinearOrder Rank] (rank : Item → Rank)

def FirstLeast (items : List Item) (least : Item) : Prop :=
  ∃ before after, items = before ++ least :: after ∧
    (∀ other ∈ before, rank least < rank other) ∧ ∀ other ∈ after, rank least ≤ rank other

variable {rank}

theorem FirstLeast.le {items : List Item} {least : Item}
    (isLeast : FirstLeast rank items least) : ∀ other ∈ items, rank least ≤ rank other := by
  rcases isLeast with ⟨before, after, rfl, smaller, notLarger⟩
  intro other member
  rcases List.mem_append.mp member with earlier | later
  · exact le_of_lt (smaller other earlier)
  · rcases List.mem_cons.mp later with rfl | later
    · exact le_refl _
    · exact notLarger other later

theorem FirstLeast.mem {items : List Item} {least : Item}
    (isLeast : FirstLeast rank items least) : least ∈ items := by
  rcases isLeast with ⟨before, after, rfl, -, -⟩
  simp

theorem head_eq_none {items : List Item} :
    (items.insertionSort fun left right => rank left ≤ rank right).head? = none ↔
      items = [] := by
  rw [List.head?_eq_none_iff, ← List.length_eq_zero_iff, List.length_insertionSort,
    List.length_eq_zero_iff]

theorem firstLeast_of_head {items : List Item} {least : Item}
    (isHead : (items.insertionSort fun left right => rank left ≤ rank right).head? =
      some least) : FirstLeast rank items least := by
  induction items generalizing least with
  | nil => cases isHead
  | cons first items induction =>
      rw [List.insertionSort_cons] at isHead
      cases sorted : items.insertionSort fun left right => rank left ≤ rank right with
      | nil =>
          have empty : items = [] := (@head_eq_none _ _ _ rank items).mp (by rw [sorted]; rfl)
          rw [sorted] at isHead
          cases isHead
          exact ⟨[], [], by rw [empty]; rfl, by simp, by simp⟩
      | cons head others =>
          have headLeast : FirstLeast rank items head := induction (by rw [sorted]; rfl)
          rw [sorted, List.orderedInsert] at isHead
          by_cases stays : rank first ≤ rank head
          · rw [if_pos stays] at isHead
            cases isHead
            exact ⟨[], items, rfl, by simp,
              fun other member => le_trans stays (headLeast.le other member)⟩
          · rw [if_neg stays] at isHead
            cases isHead
            rcases headLeast with ⟨before, after, rfl, smaller, notLarger⟩
            refine ⟨first :: before, after, rfl, ?_, notLarger⟩
            intro other member
            rcases List.mem_cons.mp member with rfl | member
            · exact lt_of_not_ge stays
            · exact smaller other member

end TransactionService.StableSort
