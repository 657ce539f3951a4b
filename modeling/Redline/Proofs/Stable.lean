import Mathlib.Data.List.Basic

/-!
# Stable orders

A list is put in the order of a rank *stably* if the items of one rank keep their order
(`StablySorted`).  Merge sort does that.  What is left of the two lists when some items are
taken out is in stable order again, and so are the images of the items.
-/

namespace Redline

/-- A list is another one in the order of a rank, in which the items of one rank keep
their order. -/
structure StablySorted {α : Type} (rank : α → Int) (as bs : List α) : Prop where
  /-- No item is lost or added. -/
  perm : bs.Perm as
  /-- The ranks do not go down. -/
  ordered : bs.Pairwise fun a b => rank a ≤ rank b
  stable : ∀ n, bs.filter (fun b => rank b = n) = as.filter fun a => rank a = n

section

variable {α β : Type} {rank : α → Int} {as bs as' bs' : List α}

theorem mergeSort_stablySorted (rank : α → Int) (as : List α) :
    StablySorted rank as (as.mergeSort fun a b => rank a ≤ rank b) := by
  have htrans : ∀ a b c, decide (rank a ≤ rank b) = true → decide (rank b ≤ rank c) = true →
      decide (rank a ≤ rank c) = true := by
    intro a b c hab hbc
    rw [decide_eq_true_eq] at hab hbc ⊢
    exact Int.le_trans hab hbc
  have htotal : ∀ a b, (decide (rank a ≤ rank b) || decide (rank b ≤ rank a)) = true := by
    intro a b
    simpa using Int.le_total (rank a) (rank b)
  have hperm := List.mergeSort_perm as fun a b => rank a ≤ rank b
  refine ⟨hperm, (List.pairwise_mergeSort htrans htotal as).imp of_decide_eq_true, fun n => ?_⟩
  -- Items of one rank are in order, so merge sort keeps them as they stand.
  have hpair : (as.filter fun a => rank a = n).Pairwise fun a b => decide (rank a ≤ rank b) = true := by
    refine List.pairwise_of_forall_mem_list fun a ha b hb => ?_
    have hrank := of_decide_eq_true (List.mem_filter.1 ha).2
    have hrank' := of_decide_eq_true (List.mem_filter.1 hb).2
    exact decide_eq_true (Int.le_of_eq (hrank.trans hrank'.symm))
  have hkept := (List.sublist_mergeSort htrans htotal hpair List.filter_sublist).filter fun a => rank a = n
  rw [List.filter_filter] at hkept
  simp only [Bool.and_self] at hkept
  exact (hkept.eq_of_length (hperm.filter _).length_eq.symm).symm

theorem StablySorted.filter (h : StablySorted rank as bs) (p : α → Bool) :
    StablySorted rank (as.filter p) (bs.filter p) := by
  refine ⟨h.perm.filter p, h.ordered.filter p, fun n => ?_⟩
  rw [List.filter_comm, h.stable n, List.filter_comm]

theorem StablySorted.map {f : β → α} {as bs : List β} (h : StablySorted (fun b => rank (f b)) as bs) :
    StablySorted rank (as.map f) (bs.map f) := by
  refine ⟨h.perm.map f, List.pairwise_map.2 h.ordered, fun n => ?_⟩
  rw [List.filter_map, List.filter_map]
  exact congrArg (List.map f) (h.stable n)

/-- The ranks of a list in order do not depend on how it was arranged. -/
theorem StablySorted.ranks_eq (h : StablySorted rank as bs) (h' : StablySorted rank as' bs') (hperm : as.Perm as') :
    bs.map rank = bs'.map rank := by
  have hranks : (bs.map rank).Perm (bs'.map rank) := ((h.perm.trans hperm).trans h'.perm.symm).map rank
  exact List.Perm.eq_of_pairwise (fun m n _ _ => Int.le_antisymm) (List.pairwise_map.2 h.ordered)
    (List.pairwise_map.2 h'.ordered) hranks

end

end Redline
