import Redline.Proofs.Desk.Supervision
import Redline.Proofs.Refine.Account

/-!
# What is told of a refinement

A run over the comments of a pull request never ends in a fault.  It answers whether it
succeeded: there was nothing to do, or files were processed and their changes committed
(`run_answer`).  The supervision around it knows failure only as a fault, and drops the
answer.  So it tells of success once in every run, and never of failure
(`refinement_told_as_success`).
-/

namespace Redline

namespace Refine

open Session

/-- A run succeeds exactly if there are no comments, or if its account names a file as
processed. -/
theorem run_answer (c : PullContext) (w : World) : ∃ succeeded w', run c w = .ok succeeded w' ∧
    (succeeded = true ↔ Pull.unresolved c w = .ok [] w' ∨ ∃ h : Course c w, h.account.processed ≠ []) := by
  obtain ⟨succeeded, w', hrun⟩ : ∃ succeeded w', run c w = .ok succeeded w' := recover_ok _ _ _
  have hcourse : ∀ h : Course c w, succeeded = !h.account.processed.isEmpty := by
    intro h
    have htold := h.run_ok
    rw [hrun] at htold
    injection htold with htold
    rw [htold, h.answer_eq_processed]
  have hnothing : ∀ {w₀}, Pull.unresolved c w = .ok [] w₀ → succeeded = true ∧ w' = w₀ := by
    intro w₀ hnone
    have htold : run c w = .ok true w₀ := recover_of_ok ((bind_of_ok hnone).trans rfl)
    rw [hrun] at htold
    injection htold with hsucceeded hworld
    exact ⟨hsucceeded, hworld⟩
  refine ⟨succeeded, w', hrun, ⟨?_, ?_⟩⟩
  · rintro rfl
    cases hcomments : Pull.unresolved c w with
    | error e w₀ =>
        have hfailed : run c w = .ok false w₀ := recover_of_error (bind_of_error hcomments)
        rw [hrun] at hfailed
        cases hfailed
    | ok comments w₀ =>
        cases comments with
        | nil => exact Or.inl ((hnothing hcomments).2 ▸ rfl)
        | cons k ks =>
            cases hon : runOn c (k :: ks) w₀ with
            | error e w₁ =>
                have hfailed : run c w = .ok false w₁ := recover_of_error ((bind_of_ok hcomments).trans hon)
                rw [hrun] at hfailed
                cases hfailed
            | ok answer w₁ =>
                obtain ⟨h, -, -, -⟩ := Course.exists_of_runOn hcomments (List.cons_ne_nil k ks) hon
                exact Or.inr ⟨h, by simpa using hcourse h⟩
  · rintro (hnone | ⟨h, hprocessed⟩)
    · exact (hnothing hnone).1
    · rw [hcourse h]
      simpa using hprocessed

end Refine

namespace Desk

open Session
open Refine (firstPull declining Course)

/-- Whatever a run answers, success is told of it once, and nothing else. -/
theorem refinement_told_as_success (c : PullContext) (w : World) :
    ∃ opened w₁ succeeded w₂ closed w₃, Refine.run c w₁ = .ok succeeded w₂ ∧
      (succeeded = true ↔ Pull.unresolved c w₁ = .ok [] w₂ ∨ ∃ h : Course c w₁, h.account.processed ≠ []) ∧
      Enters (supervised (office c) refinement (discard (Refine.run c))) (handleRefinement c) w
        [.labels opening (.arr [refinement.label]) w (.ok opened w₁), .body w₁ (.ok () w₂),
          .labels .null opening w₂ (.ok closed w₃),
          .comment refinement.success w₃ (Pull.postComment c refinement.success w₃)] ∧
      handleRefinement c w = Pull.postComment c refinement.success w₃ ∧
      ∀ w₄, Pull.open c w₃ = .ok () w₄ →
        (after (handleRefinement c) w).forge.log = w₄.forge.log ++ [.comment refinement.success] := by
  obtain ⟨opened, w₁, hopen⟩ : ∃ opened w₁, (office c).manageLabels opening (.arr [refinement.label]) w =
      .ok opened w₁ := recover_ok _ _ _
  obtain ⟨succeeded, w₂, hrun, hanswer⟩ := Refine.run_answer c w₁
  obtain ⟨closed, w₃, hclose⟩ : ∃ closed w₃, (office c).manageLabels .null opening w₂ = .ok closed w₃ :=
    recover_ok _ _ _
  -- Here the answer is lost.
  have hbody : discard (Refine.run c) w₁ = .ok () w₂ := discard_of_ok hrun
  obtain ⟨htold, henters⟩ := supervise_of_ok (o := refinement) hopen hbody hclose
  rw [hbody] at henters
  have hcomment : handleRefinement c w = Pull.postComment c refinement.success w₃ :=
    htold.trans (congrFun bind_pure_unit w₃)
  refine ⟨opened, w₁, succeeded, w₂, closed, w₃, hrun, hanswer, henters, hcomment, fun w₄ hreached => ?_⟩
  have hafter : after (handleRefinement c) w = after (Pull.postComment c refinement.success) w₃ := by
    unfold after
    rw [hcomment]
  rw [hafter, Pull.postComment, after_bind_of_ok hreached]
  exact after_send_log fun _ => rfl

/-- A pull request with the label that asks for a refinement, whose comments cannot be
fetched. -/
def unreachable : World :=
  { declining with
    forge := { declining.forge with
      labels := [refinement.label]
      outage := fun _ r => match r with
        | .remarks => some "down"
        | _ => none } }

def answerUnder (c : PullContext) (w : World) : Option Bool :=
  match Pull.manageLabels c opening (.arr [refinement.label]) w with
  | .ok _ w₁ =>
      match Refine.run c w₁ with
      | .ok succeeded _ => some succeeded
      | .error _ _ => none
  | .error _ _ => none

/-- The comments that are posted by some requests. -/
def postedBy (rs : List Forge.Request) : List (Option String) :=
  rs.filterMap fun r => match r with
    | .comment body => some body.str?
    | _ => none

/-- A run that could not fetch the comments is told as a success. -/
theorem unreachable_told_as_success : answerUnder firstPull unreachable = some false ∧
    postedBy (after (handleRefinement firstPull) unreachable).forge.log = [refinement.success.str?] := by
  decide +kernel

end Desk

end Redline
