import Redline.Proofs.Diff.Hunk

/-!
# Numbers that can be read and written

A number of more than 4300 digits is neither read nor written.  So the hunk of a header
can be shown exactly if the two numbers of the header are not too long, and no line
below it gets a number that is (`Legible`).  A header of short numbers is not enough,
since the lines are counted on from them.
-/

namespace Redline.Diff

open Text (isDecimal maxDigits)
open Number (natText intText)

/-! ## Numbers that are written -/

/-- The numbers that the lines of a hunk get. -/
def written (old new : Nat) : List Text → List Nat
  | [] => []
  | l :: ls =>
      match l with
      | '+' :: _ => new :: written old (new + 1) ls
      | '-' :: _ => old :: written (old + 1) new ls
      | ' ' :: _ => old :: new :: written (old + 1) (new + 1) ls
      | _ => written old new ls

/-- A number of at most so many digits as can be read and written. -/
def Short (n : Nat) : Prop := (natText n).length ≤ maxDigits

instance (n : Nat) : Decidable (Short n) := inferInstanceAs (Decidable (_ ≤ _))

theorem writeInteger_then {n : Nat} {x : Except Fault Unit} :
    (do discard (writeInteger (n : Int)); x) = .ok () ↔ Short n ∧ x = .ok () := by
  have htext : intText (((n : Int).natAbs : Nat) : Int) = natText n := rfl
  unfold writeInteger
  rw [htext]
  by_cases h : Short n
  · rw [if_neg (Nat.not_lt.2 h)]
    exact (and_iff_right h).symm
  · rw [if_pos (Nat.lt_of_not_le h)]
    exact iff_of_false (fun h => nomatch h) fun hx => h hx.1

theorem checkNumbers_eq_ok {old new : Nat} {ls : List Text} :
    checkNumbers old new ls = .ok () ↔ ∀ n ∈ written old new ls, Short n := by
  fun_induction written old new ls with
  | case1 old new => simp [checkNumbers]
  | case2 old new ls t ih =>
      rw [checkNumbers, writeInteger_then, List.forall_mem_cons]
      exact and_congr_right fun _ => ih
  | case3 old new ls t ih =>
      rw [checkNumbers, writeInteger_then, List.forall_mem_cons]
      exact and_congr_right fun _ => ih
  | case4 old new ls t ih =>
      rw [checkNumbers, writeInteger_then, writeInteger_then, List.forall_mem_cons, List.forall_mem_cons]
      exact and_congr_right fun _ => and_congr_right fun _ => ih
  | case5 old new l ls hplus hminus hspace ih =>
      rw [checkNumbers]
      · exact ih
      · exact hplus
      · exact hminus
      · exact hspace

/-! ## Hunks that can be shown -/

/-- The numbers of a header in a patch can be read, and those of the lines below it can
be written. -/
def Legible (patch header : Text) : Prop :=
  ∀ start old new rest, Text.find? header patch = some start → readHeader header = some (old, new, rest) →
    old.length ≤ maxDigits ∧ new.length ≤ maxDigits ∧
      ∀ n ∈ written (valueOf old) (valueOf new) (hunkText patch header start).lines.tail, Short n

section

variable {patch header old new rest : Text} {start : Nat}

/-- The hunk of a header that stands in a patch. -/
theorem change_eq_ok (hfind : Text.find? header patch = some start)
    (hread : readHeader header = some (old, new, rest)) {c : Change} :
    change patch header = .ok c ↔ old.length ≤ maxDigits ∧ new.length ≤ maxDigits ∧
      (∀ n ∈ written (valueOf old) (valueOf new) (hunkText patch header start).lines.tail, Short n) ∧
      c = ⟨annotate (hunkText patch header start) (valueOf old) (valueOf new), valueOf old, valueOf new⟩ := by
  obtain ⟨oldCount, newCount, hold, -, hnew, -, -⟩ := readHeader_eq_some hread
  unfold change lineNumbers
  simp only [hfind, hread, lineNumber_eq hold, lineNumber_eq hnew]
  by_cases ho : old.length ≤ maxDigits
  · by_cases hn : new.length ≤ maxDigits
    · rw [if_pos ho, if_pos hn, ← checkNumbers_eq_ok]
      show Except.map _ (numberedFrom _ _ _) = _ ↔ _
      rw [except_map_eq_ok, numberedFrom]
      cases hcheck : checkNumbers (valueOf old) (valueOf new) (hunkText patch header start).lines.tail with
      | error e => simp [bind, Except.bind]
      | ok u => simp [bind, Except.bind, pure, Except.pure, ho, hn, eq_comm]
    · simp [if_pos ho, hn, bind, Except.bind]
  · simp [ho, bind, Except.bind]

/-- The hunk of a header can be shown exactly if the numbers in it are not too long. -/
theorem exists_change_iff : (∃ c, change patch header = .ok c) ↔ Legible patch header := by
  cases hfind : Text.find? header patch with
  | none => simp [Legible, change, hfind]
  | some start =>
      cases hread : readHeader header with
      | none => simp [Legible, change, lineNumbers, hfind, hread]
      | some numbers =>
          obtain ⟨old, new, rest⟩ := numbers
          simp only [change_eq_ok hfind hread, Legible, hfind, hread]
          constructor
          · rintro ⟨c, ho, hn, hw, -⟩ start' old' new' rest' hstart hnumbers
            cases hstart
            cases hnumbers
            exact ⟨ho, hn, hw⟩
          · intro h
            obtain ⟨ho, hn, hw⟩ := h start old new rest rfl rfl
            exact ⟨_, ho, hn, hw, rfl⟩

end

end Redline.Diff
