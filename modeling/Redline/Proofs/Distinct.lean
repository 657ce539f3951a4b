import Mathlib.Data.List.Induction
import Mathlib.Data.List.Nodup

/-!
# Lists without repetitions

Of the items that a list has more than once, `List.eraseDups` keeps the first.  What it
does with one more item at the end tells it for lists that are gone through from their
front.
-/

namespace Redline

theorem eraseDups_map {α β : Type} [BEq α] [BEq β] {f : α → β} (hf : ∀ a b, (f a == f b) = (a == b)) :
    ∀ as : List α, (as.map f).eraseDups = as.eraseDups.map f
  | [] => rfl
  | a :: as => by
      rw [List.map_cons, List.eraseDups_cons, List.eraseDups_cons, List.map_cons, List.filter_map]
      have hkept : as.filter ((fun b => !b == f a) ∘ f) = as.filter fun b => !b == a :=
        List.filter_congr fun b _ => by rw [Function.comp, hf]
      rw [hkept, eraseDups_map hf]
termination_by as => as.length
decreasing_by exact Nat.lt_succ_of_le (List.length_filter_le _ _)

section

variable {α : Type} [BEq α] [LawfulBEq α] {as : List α} {a : α}

theorem eraseDups_concat_of_mem (h : a ∈ as) : (as ++ [a]).eraseDups = as.eraseDups := by
  rw [List.eraseDups_append]
  simp [List.removeAll, h]

theorem eraseDups_concat (h : a ∉ as) : (as ++ [a]).eraseDups = as.eraseDups ++ [a] := by
  rw [List.eraseDups_append]
  simp [List.removeAll, h, List.eraseDups_cons]

theorem nodup_eraseDups (as : List α) : as.eraseDups.Nodup := by
  induction as using List.reverseRecOn with
  | nil => exact List.Pairwise.nil
  | append_singleton as a ih =>
      by_cases h : a ∈ as
      · rwa [eraseDups_concat_of_mem h]
      · rw [eraseDups_concat h, List.nodup_append]
        refine ⟨ih, List.pairwise_singleton _ _, fun b hb c hc heq => ?_⟩
        rw [heq, List.mem_singleton.1 hc, List.mem_eraseDups] at hb
        exact h hb

theorem eraseDups_filter (p : α → Bool) (as : List α) : (as.filter p).eraseDups = as.eraseDups.filter p := by
  induction as using List.reverseRecOn with
  | nil => rfl
  | append_singleton as a ih =>
      rw [List.filter_append]
      cases hp : p a with
      | false =>
          have hnone : [a].filter p = [] := by simp [hp]
          rw [hnone, List.append_nil, ih]
          by_cases h : a ∈ as
          · rw [eraseDups_concat_of_mem h]
          · rw [eraseDups_concat h, List.filter_append, hnone, List.append_nil]
      | true =>
          have hself : [a].filter p = [a] := by simp [hp]
          rw [hself]
          by_cases h : a ∈ as
          · rw [eraseDups_concat_of_mem h, eraseDups_concat_of_mem (List.mem_filter.2 ⟨h, hp⟩), ih]
          · have hkept : a ∉ as.filter p := fun hmem => h (List.mem_filter.1 hmem).1
            rw [eraseDups_concat h, eraseDups_concat hkept, List.filter_append, hself, ih]

/-- Items are kept in the order in which they first come. -/
theorem eraseDups_firsts (as : List α) :
    as.eraseDups.Pairwise fun a b => ∃ l m, as = l ++ a :: m ∧ b ∉ l := by
  induction as using List.reverseRecOn with
  | nil => exact List.Pairwise.nil
  | append_singleton as a ih =>
      have hold : as.eraseDups.Pairwise fun b c => ∃ l m, as ++ [a] = l ++ b :: m ∧ c ∉ l := by
        refine ih.imp fun ⟨l, m, heq, hc⟩ => ⟨l, m ++ [a], ?_, hc⟩
        rw [heq, List.append_assoc, List.cons_append]
      by_cases h : a ∈ as
      · rwa [eraseDups_concat_of_mem h]
      · rw [eraseDups_concat h, List.pairwise_append]
        refine ⟨hold, List.pairwise_singleton _ _, fun b hb c hc => ?_⟩
        obtain ⟨l, m, rfl⟩ := List.append_of_mem (List.mem_eraseDups.1 hb)
        rw [List.mem_singleton.1 hc]
        exact ⟨l, m ++ [a], by simp, fun hl => h (List.mem_append_left _ hl)⟩

end

end Redline
