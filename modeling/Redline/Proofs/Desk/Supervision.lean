import Redline.Proofs.Journal
import Redline.Proofs.Desk.Labels
import Redline.Proofs.Refine.Lookups

/-!
# The label of a supervised operation

Under supervision an operation is put between two attempts to manage labels.  The
first puts the label on that says that the pull request is being worked on, and the
second takes it off.  The second is made exactly once, whether the operation has a
result or ends in a fault and whichever requests fail.  So the label can be left
behind only if that one attempt failed (`supervise_closes_once`).
-/

namespace Redline.Desk

open Pull (inProgress manageLabels Labelled Served)
open Session
open Refine (firstPull)

/-! ## What is done under supervision -/

/-- Something that is done under supervision, with where it starts and how it ends. -/
inductive Act (σ α : Type) where
  | labels (add remove : Json) (start : σ) (result : EStateM.Result Fault σ Bool)
  | comment (body : Json) (start : σ) (result : EStateM.Result Fault σ Unit)
  | body (start : σ) (result : EStateM.Result Fault σ α)

/-- An office that keeps a journal of what it does. -/
def Office.journaled {σ : Type} (d : Office σ) (α : Type) : Office (σ × List (Act σ α)) where
  manageLabels add remove := noted (.labels add remove) (d.manageLabels add remove)
  postComment body := noted (.comment body) (d.postComment body)

/-- An operation under supervision, with a journal of what is done. -/
def supervised {σ α : Type} (d : Office σ) (o : Operation) (body : EStateM Fault σ α) :
    EStateM Fault (σ × List (Act σ α)) α :=
  supervise (d.journaled α) o (noted .body body)

def opening : Json := .arr [.str inProgress]

section

variable {σ α : Type} {d : Office σ} {o : Operation} {body : EStateM Fault σ α} {s s₁ s₂ s₃ s₄ : σ}
  {opened closed : Bool}

/-- The label is put on, and the operation starts whether or not that succeeded. -/
theorem perform_eq (hopen : d.manageLabels opening (.arr [o.label]) s = .ok opened s₁) :
    perform d o body s = body s₁ := by
  rw [perform]
  exact bind_of_ok (discard_of_ok hopen)

theorem perform_enters (hopen : d.manageLabels opening (.arr [o.label]) s = .ok opened s₁) :
    Enters (perform (d.journaled α) o (noted .body body)) (perform d o body) s
      [.labels opening (.arr [o.label]) s (.ok opened s₁), .body s₁ (body s₁)] := by
  have hlabels : Enters ((d.journaled α).manageLabels opening (.arr [o.label]))
      (d.manageLabels opening (.arr [o.label])) s [.labels opening (.arr [o.label]) s (.ok opened s₁)] :=
    hopen ▸ Enters.noted _ _
  exact hlabels.discard.bind (discard_of_ok hopen) (Enters.noted _ _)

theorem close_enters (hclose : d.manageLabels .null opening s = .ok closed s₁) :
    Enters (close (d.journaled α)) (close d) s [.labels .null opening s (.ok closed s₁)] := by
  have hlabels : Enters ((d.journaled α).manageLabels .null opening) (d.manageLabels .null opening) s
      [.labels .null opening s (.ok closed s₁)] := hclose ▸ Enters.noted _ _
  exact hlabels.discard

/-- After an operation with a result the label is taken off, and success is told. -/
theorem supervise_of_ok {a : α} (hopen : d.manageLabels opening (.arr [o.label]) s = .ok opened s₁)
    (hbody : body s₁ = .ok a s₂) (hclose : d.manageLabels .null opening s₂ = .ok closed s₃) :
    supervise d o body s = (do d.postComment o.success; return a) s₃ ∧
      Enters (supervised d o body) (supervise d o body) s
        [.labels opening (.arr [o.label]) s (.ok opened s₁), .body s₁ (body s₁),
          .labels .null opening s₂ (.ok closed s₃), .comment o.success s₃ (d.postComment o.success s₃)] := by
  have hrun : attempt (perform d o body) s = .ok (.ok a) s₂ := by
    simp only [attempt, perform_eq hopen, hbody]
  have hclosed : close d s₂ = .ok () s₃ := discard_of_ok hclose
  constructor
  · rw [supervise, bind_of_ok hrun]
    exact bind_of_ok hclosed
  · have hstart : Enters _ (attempt (perform d o body)) s _ := (perform_enters hopen).attempt
    refine hstart.bind hrun ((close_enters hclose).bind hclosed ?_)
    cases htold : d.postComment o.success s₃ with
    | ok u s₄ => exact htold ▸ (Enters.noted _ _).bind htold (Enters.pure a)
    | error e s₄ => exact htold ▸ (Enters.noted _ _).bind_error htold

/-- After a fault the fault is told first, and then the label is taken off whether
or not it could be told. -/
theorem supervise_of_error {e : Fault} (hopen : d.manageLabels opening (.arr [o.label]) s = .ok opened s₁)
    (hbody : body s₁ = .error e s₂)
    (htold : ∃ told, attempt (d.postComment (.str (o.failure e))) s₂ = .ok told s₃)
    (hclose : d.manageLabels .null opening s₃ = .ok closed s₄) :
    (∃ e', supervise d o body s = .error e' s₄) ∧
      Enters (supervised d o body) (supervise d o body) s
        [.labels opening (.arr [o.label]) s (.ok opened s₁), .body s₁ (body s₁),
          .comment (.str (o.failure e)) s₂ (d.postComment (.str (o.failure e)) s₂),
          .labels .null opening s₃ (.ok closed s₄)] := by
  obtain ⟨told, htold⟩ := htold
  have hrun : attempt (perform d o body) s = .ok (.error e) s₂ := by
    simp only [attempt, perform_eq hopen, hbody]
  have hclosed : close d s₃ = .ok () s₄ := discard_of_ok hclose
  have hstart : Enters _ (attempt (perform d o body)) s _ := (perform_enters hopen).attempt
  have hcomment : Enters (attempt ((d.journaled α).postComment (.str (o.failure e))))
      (attempt (d.postComment (.str (o.failure e)))) s₂
      [.comment (.str (o.failure e)) s₂ (d.postComment (.str (o.failure e)) s₂)] := (Enters.noted _ _).attempt
  constructor
  · rw [supervise, bind_of_ok hrun]
    dsimp only
    rw [bind_of_ok htold, bind_of_ok hclosed]
    cases told with
    | ok u => exact ⟨e, rfl⟩
    | error e' => exact ⟨e', rfl⟩
  · refine hstart.bind hrun (hcomment.bind htold ((close_enters hclose).bind hclosed ?_))
    cases told with
    | ok u => exact Enters.throw e
    | error e' => exact Enters.throw e'

end

/-! ## The labels of a pull request -/

section

variable {c : PullContext} {w : World} {names : List String}

/-- Before an operation the label is put on and the one that asks for the operation
is taken off, as far as requests do not fail. -/
theorem open_cases (hw : Labelled names w) (hset : names.Nodup) {label : String} (hne : label ≠ inProgress) :
    ∃ opened w₁ names₁, manageLabels c opening (.arr [.str label]) w = .ok opened w₁ ∧
      w₁.forge.outage = w.forge.outage ∧ Labelled names₁ w₁ ∧ names₁.Nodup ∧
      (Served c w → inProgress ∈ names₁ ∧ label ∉ names₁ ∧
        names₁.erase inProgress = names.filter fun n => n ≠ label && n ≠ inProgress) := by
  have hadd : Pull.labelsIn opening = .ok ([inProgress].map .str) := rfl
  have hremove : Pull.labelsIn (.arr [.str label]) = .ok [.str label] := rfl
  obtain ⟨opened, new, w₁, hrun, houtage, hnew, hcases⟩ :=
    Pull.manageLabels_cases (c := c) hw hadd hremove (by rwa [List.mem_singleton])
  have hnodup : (names ++ new).Nodup := by
    rw [List.nodup_append]
    refine ⟨hset, (hnew.sublist.trans List.filter_sublist).nodup (List.pairwise_singleton _ _), ?_⟩
    intro n hn m hm heq
    have hfresh := (List.mem_filter.1 (hnew.subset hm)).2
    rw [← heq, List.contains_iff_mem.2 hn] at hfresh
    cases hfresh
  rcases hcases with ⟨-, hall, hlabels⟩ | ⟨-, hfail, hlabels⟩
  · refine ⟨opened, w₁, _, hrun, houtage, hlabels, hnodup.erase label, fun _ => ⟨?_, ?_, ?_⟩⟩
    · rw [List.mem_erase_of_ne hne.symm, List.mem_append, hall]
      by_cases hthere : inProgress ∈ names
      · exact Or.inl hthere
      · exact Or.inr (List.mem_filter.2 ⟨List.mem_singleton_self _, by simpa using hthere⟩)
    · exact hnodup.not_mem_erase
    · rw [(hnodup.erase label).erase_eq_filter, hnodup.erase_eq_filter, List.filter_filter, List.filter_append]
      have hgone : new.filter (fun n => n != inProgress && n != label) = [] := by
        rw [List.filter_eq_nil_iff]
        intro n hn
        have := List.mem_singleton.1 (List.mem_filter.1 (hnew.subset hn)).1
        simp [this]
      rw [hgone, List.append_nil]
      refine List.filter_congr fun n _ => ?_
      rw [Bool.and_comm]
      simp [bne, Bool.beq_eq_decide_eq]
  · exact ⟨opened, w₁, _, hrun, houtage, hlabels, hnodup, fun hserved => absurd hserved hfail⟩

/-- Afterwards the label is taken off, and if that is not so the attempt says it. -/
theorem close_cases (hw : Labelled names w) :
    ∃ closed w', manageLabels c .null opening w = .ok closed w' ∧
      (closed = true ∧ Labelled (names.erase inProgress) w' ∨
        closed = false ∧ ¬ Served c w ∧ Labelled names w') := by
  have hadd : Pull.labelsIn .null = .ok (([] : List String).map .str) := rfl
  have hremove : Pull.labelsIn opening = .ok [.str inProgress] := rfl
  obtain ⟨closed, new, w', hrun, -, hnew, hcases⟩ :=
    Pull.manageLabels_cases (c := c) hw hadd hremove List.not_mem_nil
  obtain rfl := List.prefix_nil.1 hnew
  rw [List.append_nil] at hcases
  exact ⟨closed, w', hrun, hcases.imp (fun h => ⟨h.1, h.2.2⟩) id⟩

/-- The label is left behind only if the attempt to take it off failed, which it
does not if no request fails. -/
theorem labels_after_close {w' w'' : World} {closed : Bool} (hset : names.Nodup)
    (hcases : closed = true ∧ Labelled (names.erase inProgress) w' ∨
      closed = false ∧ ¬ Served c w ∧ Labelled names w')
    (hend : Alike w' w'') :
    (.str inProgress ∈ w''.forge.labels → closed = false) ∧
      (Served c w → Labelled (names.erase inProgress) w'') := by
  rcases hcases with ⟨-, hlabels⟩ | ⟨hfalse, hfail, -⟩
  · have hend : w''.forge.labels = (names.erase inProgress).map .str := hlabels.of_alike hend
    refine ⟨fun hleft => ?_, fun _ => hend⟩
    rw [hend, Json.str_mem_map_str] at hleft
    exact absurd hleft hset.not_mem_erase
  · exact ⟨fun _ => hfalse, fun hserved => absurd hserved hfail⟩

end

/-! ## Supervision of a pull request -/

section

variable {α : Type} {c : PullContext} {o : Operation} {body : Session α} {w : World} {label : String}
  {names : List String}

/-- An operation under supervision is followed by exactly one attempt to take the
label off, whatever comes of it and whichever requests fail.  The label stays behind
only if that attempt tells that it failed.  If no request fails, the operation runs
under its label and without the one that asks for it, and in the end both are gone. -/
theorem supervise_closes_once (hlabel : o.label = .str label) (hne : label ≠ inProgress)
    (hbody : LeavesLabels body) (hw : Labelled names w) (hset : names.Nodup) :
    ∃ opened w₁ w₂ closed w₃ told start result rest,
      Enters (supervised (office c) o body) (supervise (office c) o body) w
        ([.labels opening (.arr [o.label]) w (.ok opened w₁), .body w₁ (body w₁)] ++ rest) ∧
      (rest = [.labels .null opening w₂ (.ok closed w₃), .comment told start result] ∨
        rest = [.comment told start result, .labels .null opening w₂ (.ok closed w₃)]) ∧
      (.str inProgress ∈ (after (supervise (office c) o body) w).forge.labels → closed = false) ∧
      (Served c w → .str inProgress ∈ w₁.forge.labels ∧ .str label ∉ w₁.forge.labels ∧
        (after (supervise (office c) o body) w).forge.labels =
          (names.filter fun n => n ≠ label && n ≠ inProgress).map .str) := by
  obtain ⟨opened, w₁, names₁, hopen, houtage, hlabels₁, hset₁, hnames₁⟩ := open_cases (c := c) hw hset hne
  rw [← hlabel] at hopen
  have hserved₁ : Served c w → Served c w₁ := fun hserved =>
    ⟨fun count r => houtage ▸ hserved.1 count r, hserved.2⟩
  have hstart : Served c w → .str inProgress ∈ w₁.forge.labels ∧ .str label ∉ w₁.forge.labels := by
    intro hserved
    rw [show w₁.forge.labels = names₁.map .str from hlabels₁, Json.str_mem_map_str, Json.str_mem_map_str]
    exact ⟨(hnames₁ hserved).1, (hnames₁ hserved).2.1⟩
  have hkept := hbody w₁
  cases hrun : body w₁ with
  | ok a w₂ =>
      rw [after_of_ok hrun] at hkept
      obtain ⟨closed, w₃, hclose, hcases⟩ := close_cases (c := c) (hlabels₁.of_alike hkept)
      obtain ⟨heq, henters⟩ := supervise_of_ok (d := office c) hopen hrun hclose
      have hend : Alike w₃ (after (supervise (office c) o body) w) := by
        have hcomment : Within [.look, .word] (do (office c).postComment o.success; return a) :=
          (Pull.postComment_within (by decide) (by decide) c o.success).bind fun _ => Within.pure a
        unfold after
        rw [heq]
        exact hcomment.alike w₃
      obtain ⟨hfalse, hgone⟩ := labels_after_close hset₁ hcases hend
      refine ⟨opened, w₁, w₂, closed, w₃, _, _, _, _, henters, Or.inl rfl, hfalse, fun hserved => ?_⟩
      rw [← (hnames₁ hserved).2.2]
      exact ⟨(hstart hserved).1, (hstart hserved).2, hgone ((hserved₁ hserved).of_alike hkept)⟩
  | error e w₂ =>
      rw [after_of_error hrun] at hkept
      let tell := Pull.postComment c (.str (o.failure e))
      have hword : Within [.look, .word] tell := Pull.postComment_within (by decide) (by decide) c _
      have htold : Alike w₂ (after tell w₂) := hword.alike w₂
      obtain ⟨closed, w₃, hclose, hcases⟩ := close_cases (c := c) (hlabels₁.of_alike (hkept.trans htold))
      obtain ⟨⟨e', heq⟩, henters⟩ := supervise_of_error (d := office c) hopen hrun (attempt_ok tell w₂) hclose
      have hend : Alike w₃ (after (supervise (office c) o body) w) := by
        rw [after_of_error heq]
        exact ⟨rfl, rfl⟩
      obtain ⟨hfalse, hgone⟩ := labels_after_close hset₁ hcases hend
      refine ⟨opened, w₁, _, closed, w₃, _, _, _, _, henters, Or.inr rfl, hfalse, fun hserved => ?_⟩
      rw [← (hnames₁ hserved).2.2]
      exact ⟨(hstart hserved).1, (hstart hserved).2, hgone ((hserved₁ hserved).of_alike (hkept.trans htold))⟩

end

/-- A pull request on which a review is asked for. -/
def awaiting : World where
  forge := { labels := [.str "bug", .str "agentic-review"] }
  reviewer := Advisor.constant (.ok none)
  refiner := Advisor.constant (.ok (.json .null))
  parsers := Outline.Parsers.sound
  formatter := Formatter.absent

theorem supervise_closes_once_review : Served firstPull awaiting ∧
    ∃ opened w₁ rest,
      Enters (supervised (office firstPull) review (reviewPull firstPull))
        (supervise (office firstPull) review (reviewPull firstPull)) awaiting
        ([.labels opening (.arr [review.label]) awaiting (.ok opened w₁), .body w₁ (reviewPull firstPull w₁)]
          ++ rest) ∧
      .str inProgress ∈ w₁.forge.labels ∧
      (after (supervise (office firstPull) review (reviewPull firstPull)) awaiting).forge.labels = [.str "bug"] := by
  have hserved : Served firstPull awaiting := ⟨fun _ _ => rfl, .str "o/r", rfl⟩
  have hlabels : Labelled ["bug", "agentic-review"] awaiting := rfl
  obtain ⟨opened, w₁, _, _, _, _, _, _, rest, henters, _, _, hend⟩ :=
    supervise_closes_once (c := firstPull) (o := review) rfl (by decide)
      (fun w => (reviewPull_within firstPull).alike w) hlabels (by decide)
  have hothers : (["bug", "agentic-review"].filter fun n => n ≠ "agentic-review" && n ≠ inProgress) = ["bug"] := by
    decide
  obtain ⟨hstart, -, hleft⟩ := hend hserved
  rw [hothers] at hleft
  exact ⟨hserved, opened, w₁, rest, henters, hstart, hleft⟩

end Redline.Desk
