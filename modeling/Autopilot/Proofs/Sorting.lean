import Mathlib.Data.List.Sort

/-!
Sorting by an order that elements carry. The sorted list ascends, and it keeps elements
of equal order as they stood.
-/

namespace Autopilot

variable {α : Type} (order : α → Int)

theorem pairwise_mergeSort_order (list : List α) :
    (list.mergeSort fun a b => order a ≤ order b).Pairwise fun a b => order a ≤ order b := by
  have sorted := @List.pairwise_mergeSort _ (fun a b : α => decide (order a ≤ order b))
    (by simp only [decide_eq_true_eq]; omega)
    (by simp only [Bool.or_eq_true, decide_eq_true_eq]; omega) list
  exact sorted.imp fun le => of_decide_eq_true le

/-- Elements of one order are in order already, so sorting keeps them as a sublist. -/
theorem filter_mergeSort_order (list : List α) (level : Int) :
    ((list.mergeSort fun a b => order a ≤ order b).filter fun a => order a = level) =
      list.filter fun a => order a = level := by
  have even : (list.filter fun a => order a = level).Pairwise
      fun a b => decide (order a ≤ order b) := by
    refine List.pairwise_of_forall_mem_list fun a first b second => ?_
    have here := of_decide_eq_true (List.mem_filter.1 first).2
    have there := of_decide_eq_true (List.mem_filter.1 second).2
    exact decide_eq_true (by omega)
  have kept : (list.filter fun a => order a = level).Sublist
      (list.mergeSort fun a b => order a ≤ order b) :=
    List.sublist_mergeSort
      (by simp only [decide_eq_true_eq]; omega)
      (by simp only [Bool.or_eq_true, decide_eq_true_eq]; omega) even List.filter_sublist
  have within := kept.filter fun a => decide (order a = level)
  rw [List.filter_filter] at within
  simp only [Bool.and_self] at within
  refine (within.eq_of_length ?_).symm
  exact ((List.mergeSort_perm list _).filter _).length_eq.symm

end Autopilot
