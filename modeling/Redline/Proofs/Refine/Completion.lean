import Redline.Proofs.Refine.Tally

/-!
# Files that are processed to the end

A file counts as processed only if all modifications that were registered for it were
applied, one after the other and none without success, and if the text that came of it
was found to be in order (`Completes`).  A modification that fails, or a text that is not
in order, makes the whole file fail, so no half of a change leaves it
(`refineFile_processes`).
-/

namespace Redline

namespace Patcher

open Outline

/-- The modifications from a number on are applied one after the other, and none of them
fails. -/
inductive AppliesFrom : Nat → Patcher → Parsers → Patcher → Parsers → Prop where
  | none {index : Nat} {p : Patcher} {q : Parsers} (h : p.modifications.length ≤ index) :
      AppliesFrom index p q p q
  | next {index : Nat} {p p₁ p' : Patcher} {q q₁ q' : Parsers} {m : Modification} {result : PatchResult}
      (hm : p.modifications[index]? = some m) (happly : p.apply m q = .ok (result, p₁) q₁)
      (hsuccess : result.success = true) (hrest : AppliesFrom (index + 1) p₁ q₁ p' q') :
      AppliesFrom index p q p' q'

section

variable {p p' : Patcher} {q q' : Parsers} {result : PatchResult}

theorem length_apply {m : Modification} (h : p.apply m q = .ok (result, p') q') :
    p'.modifications.length = p.modifications.length := by
  have hrows : p'.suggestionRows = p.suggestionRows := apply_leaves p m q (result, p') q' h
  simpa [suggestionRows] using congrArg List.length hrows

theorem applyFrom_applies {index count : Nat} (hcount : index + count = p.modifications.length)
    (h : p.applyFrom index count q = .ok (result, p') q') (hsuccess : result.success = true) :
    AppliesFrom index p q p' q' := by
  induction count generalizing p q index with
  | zero =>
      cases h
      exact .none (Nat.le_of_eq hcount.symm)
  | succ count ih =>
      rw [applyFrom] at h
      cases hm : p.modifications[index]? with
      | none =>
          rw [hm] at h
          cases h
          exact .none (List.getElem?_eq_none_iff.1 hm)
      | some m =>
          rw [hm] at h
          obtain ⟨⟨result₁, p₁⟩, q₁, happly, h⟩ := bind_eq_ok.1 h
          have hlength := length_apply happly
          dsimp only at h
          split at h
          next hsuccess₁ => exact .next hm happly hsuccess₁ (ih (by omega) h)
          next hfailed =>
            cases h
            exact absurd hsuccess hfailed

/-- If the modifications are applied with success, then each of them is, and the text is
formatted if there is one. -/
theorem applyAll_applies {formatter : Formatter} (h : p.applyAll formatter q = .ok (result, p') q')
    (hsuccess : result.success = true) :
    ∃ applied q₁, AppliesFrom 0 p q applied q₁ ∧
      (p.modifications = [] ∧ p' = applied ∧ q' = q₁ ∨ applied.format formatter q₁ = .ok p' q') := by
  unfold applyAll at h
  split at h
  next hempty =>
    cases h
    have hnil := List.isEmpty_iff.1 hempty
    exact ⟨p, q, .none (by rw [hnil]; exact Nat.le_refl 0), Or.inl ⟨hnil, rfl, rfl⟩⟩
  next =>
    obtain ⟨⟨result₁, applied⟩, q₁, happly, h⟩ := bind_eq_ok.1 h
    dsimp only at h
    split at h
    next hsuccess₁ =>
      obtain ⟨formatted, q₂, hformat, h⟩ := bind_eq_ok.1 h
      cases h
      exact ⟨applied, q₁, applyFrom_applies (Nat.zero_add _) happly hsuccess₁, Or.inr hformat⟩
    next hfailed =>
      cases h
      exact absurd hsuccess hfailed

end

end Patcher

namespace Refine

open Session

/-- A draft is finished: every registered modification is applied, the text is formatted
if there is one, and what comes of it is in order. -/
def Completes (d : Draft) (w : World) (r : FileResult) : Prop :=
  ∃ applied q₁ final q₂ verdict q₃, Patcher.AppliesFrom 0 d.patcher w.parsers applied q₁ ∧
    (d.patcher.modifications = [] ∧ final = applied ∧ q₂ = q₁ ∨ applied.format w.formatter q₁ = .ok final q₂) ∧
    final.validate q₂ = .ok verdict q₃ ∧ verdict.valid = true ∧ r.content = final.content

/-- The draft of a text with the changes that are registered for some comments. -/
def drafted (path : String) (content : Text) (comments : List Comment) : Session Draft := do
  let (patcher, groups) ← prepare path content comments
  refineGroups path content groups { patcher := patcher }

/-- A file is processed to its end with a result. -/
def Processes (c : PullContext) (path : Json) (comments : List Comment) (w : World) (r : FileResult) : Prop :=
  ∃ name content w₁ d w₂, path = .str name ∧ textAt c path w = .ok (some (name, content)) w₁ ∧
    drafted name content comments w₁ = .ok d w₂ ∧ Completes d w₂ r

section

variable {w w' : World} {r : FileResult}

/-- A draft is finished if its modifications can be applied and the text passes the
check. -/
theorem finish_applyAll {d : Draft} (h : finish d w = .ok (some r) w') :
    ∃ result final q₁ verdict q₂, d.patcher.applyAll w.formatter w.parsers = .ok (result, final) q₁ ∧
      result.success = true ∧ final.validate q₁ = .ok verdict q₂ ∧ verdict.valid = true ∧
      r.content = final.content := by
  obtain ⟨formatter, w₁, hformatter, h⟩ := bind_eq_ok.1 h
  cases hformatter
  obtain ⟨⟨result, final⟩, w₂, hread, h⟩ := bind_eq_ok.1 h
  obtain ⟨q₁, happly, rfl⟩ := reading_eq_ok.1 hread
  dsimp only at h
  cases hsuccess : result.success with
  | false =>
      rw [hsuccess] at h
      cases h
  | true =>
      rw [hsuccess] at h
      obtain ⟨verdict, w₃, hverdict, h⟩ := bind_eq_ok.1 h
      obtain ⟨q₂, hvalidate, rfl⟩ := reading_eq_ok.1 hverdict
      cases hvalid : verdict.valid with
      | false =>
          rw [hvalid] at h
          cases h
      | true =>
          rw [hvalid] at h
          cases h
          exact ⟨result, final, q₁, verdict, q₂, happly, hsuccess, hvalidate, hvalid, rfl⟩

theorem finish_completes {d : Draft} (h : finish d w = .ok (some r) w') : Completes d w r := by
  obtain ⟨result, final, q₂, verdict, q₃, happly, hsuccess, hvalidate, hvalid, hcontent⟩ := finish_applyAll h
  obtain ⟨applied, q₁, happlies, hformat⟩ := Patcher.applyAll_applies happly hsuccess
  exact ⟨applied, q₁, final, q₂, verdict, q₃, happlies, hformat, hvalidate, hvalid, hcontent⟩

theorem refineFile_drafted {c : PullContext} {path : Json} {comments : List Comment}
    (h : refineFile c path comments w = .ok (some r) w') :
    ∃ name content w₁ d w₂, textAt c path w = .ok (some (name, content)) w₁ ∧
      drafted name content comments w₁ = .ok d w₂ ∧ finish d w₂ = .ok (some r) w' := by
  obtain ⟨name, content, w₁, htext, hrefine⟩ := refineFile_some h
  rw [refineText_eq] at hrefine
  obtain ⟨⟨patcher, groups⟩, w₂, hprepare, hrefine⟩ := bind_eq_ok.1 hrefine
  obtain ⟨d, w₃, hgroups, hfinish⟩ := bind_eq_ok.1 hrefine
  exact ⟨name, content, w₁, d, w₃, htext, (bind_of_ok hprepare).trans hgroups, hfinish⟩

/-- A file with a result was processed to its end. -/
theorem refineFile_processes {c : PullContext} {path : Json} {comments : List Comment}
    (h : refineFile c path comments w = .ok (some r) w') : Processes c path comments w r := by
  obtain ⟨name, content, w₁, d, w₂, htext, hdraft, hfinish⟩ := refineFile_drafted h
  exact ⟨name, content, w₁, d, w₂, textAt_name htext, htext, hdraft, finish_completes hfinish⟩

end

end Refine

end Redline
