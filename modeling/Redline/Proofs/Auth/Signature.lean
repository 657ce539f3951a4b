import Redline.Auth.Signature

/-!
# Which headers sign a body

A header is cut at its equals signs, and both parts are compared.  The digest is written in
hexadecimal digits, and no equals sign is among them.  So the only header that signs a body
is the one that the secret and the body give (`verify_iff`).
-/

namespace Redline

namespace Text

variable {c : Char} {a b t piece : Text}

theorem splitFrom_ne_nil (separator : Text) (skip : Nat) (piece t : Text) : splitFrom separator skip piece t ≠ [] := by
  induction t generalizing skip piece with
  | nil => simp [splitFrom]
  | cons d t ih =>
      cases skip with
      | succ skip => exact ih skip piece
      | zero =>
          rw [splitFrom]
          split
          next => exact List.cons_ne_nil _ _
          next => exact ih 0 (d :: piece)

theorem splitFrom_of_not_mem (h : c ∉ t) : splitFrom [c] 0 piece t = [piece.reverse ++ t] := by
  induction t generalizing piece with
  | nil => simp [splitFrom]
  | cons d t ih =>
      rw [List.mem_cons, not_or] at h
      have hne : ([c].isPrefixOf (d :: t)) = false := by simp [List.isPrefixOf, h.1]
      rw [splitFrom, hne, if_neg Bool.false_ne_true, ih h.2]
      simp

theorem splitFrom_append (h : c ∉ a) :
    splitFrom [c] 0 piece (a ++ c :: t) = (piece.reverse ++ a) :: splitFrom [c] 0 [] t := by
  induction a generalizing piece with
  | nil => simp [splitFrom, List.isPrefixOf]
  | cons d a ih =>
      rw [List.mem_cons, not_or] at h
      have hne : ([c].isPrefixOf (d :: (a ++ c :: t))) = false := by simp [List.isPrefixOf, h.1]
      rw [List.cons_append, splitFrom, hne, if_neg Bool.false_ne_true, ih h.2]
      simp

/-- A text has two pieces if the separator is in it once. -/
theorem splitOn_eq_pair : splitOn t [c] = [a, b] ↔ t = a ++ c :: b ∧ c ∉ a ∧ c ∉ b := by
  unfold splitOn
  constructor
  · intro h
    by_cases hmem : c ∈ t
    · obtain ⟨front, rest, rfl, hfront⟩ := List.eq_append_cons_of_mem hmem
      rw [splitFrom_append hfront] at h
      injection h with hpiece h
      by_cases hrest : c ∈ rest
      · -- A second separator makes a third piece.
        obtain ⟨front', rest', rfl, hfront'⟩ := List.eq_append_cons_of_mem hrest
        rw [splitFrom_append hfront'] at h
        injection h with _ h
        exact absurd h (splitFrom_ne_nil _ _ _ _)
      · rw [splitFrom_of_not_mem hrest] at h
        injection h with hb
        rw [← hpiece, ← hb]
        exact ⟨rfl, hfront, hrest⟩
    · rw [splitFrom_of_not_mem hmem] at h
      injection h with _ h
      cases h
  · rintro ⟨rfl, ha, hb⟩
    rw [splitFrom_append ha, splitFrom_of_not_mem hb]
    rfl

end Text

namespace Auth

/-- A digest is written in hexadecimal digits. -/
theorem digit_of_mem_digestText {secret : String} {body : List UInt8} {c : Char} (h : c ∈ digestText secret body) :
    c ∈ "0123456789abcdef".toList := by
  have hbytes : (List.range 256).all (fun n => (Text.hex 2 n).all ("0123456789abcdef".toList.contains ·)) = true := by
    decide +kernel
  obtain ⟨b, -, hb⟩ := List.mem_flatMap.1 h
  have hbyte := List.all_eq_true.1 hbytes b.toNat (List.mem_range.2 b.toNat_lt)
  exact List.contains_iff_mem.1 (List.all_eq_true.1 hbyte c hb)

theorem signatureHeader_eq (secret : String) (body : List UInt8) :
    signatureHeader secret body = "sha256".toList ++ '=' :: digestText secret body := by
  have hname : "sha256=".toList = "sha256".toList ++ ['='] := by decide
  unfold signatureHeader
  generalize digestText secret body = digest
  rw [hname, List.append_assoc, List.singleton_append]

/-- A header signs a body exactly if it is the signature of that body. -/
theorem verify_iff {secret : String} {body : List UInt8} {header : Option String} :
    verify (some secret) body header = true ↔ header = some (String.ofList (signatureHeader secret body)) := by
  cases header with
  | none => simp [verify]
  | some header =>
      have hheader : header = String.ofList (signatureHeader secret body) ↔
          header.toList = signatureHeader secret body := by
        constructor
        · rintro rfl
          exact String.toList_ofList
        · intro h
          rw [← h, String.ofList_toList]
      rw [Option.some.injEq, hheader, signatureHeader_eq]
      constructor
      · intro h
        unfold verify at h
        dsimp only at h
        split at h
        next name value hsplit =>
          obtain ⟨hn, hv⟩ := Bool.and_eq_true_iff.1 h
          rw [← beq_iff_eq.1 hn, ← beq_iff_eq.1 hv]
          exact (Text.splitOn_eq_pair.1 hsplit).1
        next => cases h
      · intro h
        have hname : '=' ∉ "sha256".toList := by decide
        have hdigest : '=' ∉ digestText secret body := fun hmem => absurd (digit_of_mem_digestText hmem) (by decide)
        have hsplit := Text.splitOn_eq_pair.2 ⟨h, hname, hdigest⟩
        simp only [verify, hsplit, beq_self_eq_true, Bool.and_self]

end Auth

end Redline
