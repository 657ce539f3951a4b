import Redline.Proofs.Recovery
import Redline.Review.Reviewer

/-!
# Reviews by a reviewer who does not change its mind

If the answer to a prompt depends on nothing but the prompt, a review is a function of what
is reviewed.  A file has the findings of its units one after the other if every unit was
answered, and no findings if one was not (`fileFindings`).  Files with different names have
their findings each for itself and in their order (`reviewFiles_gives`).
-/

namespace Redline

namespace Table

theorem set_of_fresh {κ α : Type} [BEq κ] {name : κ} (value : α) {entries : List (κ × α)}
    (h : ∀ e ∈ entries, (e.1 == name) = false) : set name value entries = entries ++ [(name, value)] := by
  induction entries with
  | nil => rfl
  | cons e es ih =>
      have hhead := h e List.mem_cons_self
      have htail := ih fun e' he' => h e' (List.mem_cons_of_mem e he')
      simp [set, hhead, htail]

end Table

/-- Every prompt has one answer, however many prompts came before. -/
def Advisor.Consults {α : Type} (answer : Text → Except Fault α) (a : Advisor α) : Prop :=
  ∀ count prompt, a.reply count prompt = answer prompt

namespace Review

variable {answer : Text → Except Fault (Option (List Finding))}

/-! ## Operations with one result -/

section

variable {α β : Type}

/-- With a reviewer who answers in one way only an operation always has the same result, or
always meets a fault. -/
def Gives (answer : Text → Except Fault (Option (List Finding))) (x : Asking α) (result : Option α) : Prop :=
  ∀ a, a.Consults answer → ∃ o b, attempt x a = .ok o b ∧ b.Consults answer ∧ o.toOption = result

namespace Gives

theorem pure (r : α) : Gives answer (Pure.pure r) (some r) := fun a ha => ⟨.ok r, a, rfl, ha, rfl⟩

theorem throw (e : Fault) : Gives answer (MonadExcept.throw e : Asking α) none := fun a ha =>
  ⟨.error e, a, rfl, ha, rfl⟩

theorem lift (y : Except Fault α) : Gives answer (Redline.lift y) y.toOption := fun a ha =>
  ⟨y, a, by cases y <;> rfl, ha, rfl⟩

theorem bind {x : Asking α} {f : α → Asking β} {result : Option α} {results : α → Option β}
    (hx : Gives answer x result) (hf : ∀ r, Gives answer (f r) (results r)) :
    Gives answer (x >>= f) (result.bind results) := by
  intro a ha
  obtain ⟨o, b, hrun, hb, rfl⟩ := hx a ha
  cases o with
  | error e => exact ⟨.error e, b, attempt_eq_error.2 (bind_of_error (attempt_eq_error.1 hrun)), hb, rfl⟩
  | ok r =>
      obtain ⟨o, b', hrun', hb', hresult⟩ := hf r b hb
      refine ⟨o, b', ?_, hb', hresult⟩
      rw [attempt, bind_of_ok (attempt_eq_ok.1 hrun)]
      exact hrun'

theorem bind_some {x : Asking α} {f : α → Asking β} {r : α} {result : Option β} (hx : Gives answer x (some r))
    (hf : Gives answer (f r) result) : Gives answer (x >>= f) result := by
  intro a ha
  obtain ⟨o, b, hrun, hb, ho⟩ := hx a ha
  cases o with
  | error e => cases ho
  | ok r' =>
      cases ho
      obtain ⟨o, b', hrun', hb', hresult⟩ := hf b hb
      refine ⟨o, b', ?_, hb', hresult⟩
      rw [attempt, bind_of_ok (attempt_eq_ok.1 hrun)]
      exact hrun'

theorem recover {x : Asking α} {result : Option α} (hx : Gives answer x result) (fallback : α) :
    Gives answer (Redline.recover fallback x) (some (result.getD fallback)) := by
  intro a ha
  obtain ⟨o, b, hrun, hb, rfl⟩ := hx a ha
  cases o with
  | error e => exact ⟨.ok fallback, b, attempt_eq_ok.2 (recover_of_error (attempt_eq_error.1 hrun)), hb, rfl⟩
  | ok r => exact ⟨.ok r, b, attempt_eq_ok.2 (recover_of_ok (attempt_eq_ok.1 hrun)), hb, rfl⟩

end Gives

end

theorem ask_gives (prompt : Text) : Gives answer (Advisor.ask prompt) (answer prompt).toOption := by
  intro a ha
  refine ⟨answer prompt, { a with asked := a.asked ++ [prompt] }, ?_, ha, rfl⟩
  simp only [attempt, Advisor.ask, ha a.asked.length prompt]
  cases answer prompt <;> rfl

/-! ## Findings -/

theorem mapM_congr {α β : Type} {f g : α → Option β} {as : List α} (h : ∀ a ∈ as, f a = g a) :
    as.mapM f = as.mapM g := by
  induction as with
  | nil => rfl
  | cons a as ih =>
      rw [List.mapM_cons, List.mapM_cons, h a List.mem_cons_self, ih fun b hb => h b (List.mem_cons_of_mem a hb)]

/-- The findings on a unit, unless it cannot be asked for them or is not answered. -/
def unitFindings? (answer : Text → Except Fault (Option (List Finding))) (f : FileToReview) (u : ChangedUnit) :
    Option (List Finding) := do
  let prompt ← (unitPrompt f.file.name u f.isTest f.remarks).toOption
  (← (answer prompt).toOption)

/-- The findings on a file: those on its units in their order if there are some on every
unit, and none otherwise. -/
def fileFindings (answer : Text → Except Fault (Option (List Finding))) (f : FileToReview) : List Finding :=
  ((f.units.mapM (unitFindings? answer f)).map List.flatten).getD []

theorem reviewUnit_gives (f : FileToReview) (u : ChangedUnit) :
    Gives answer (reviewUnit f.file.name u f.isTest f.remarks) (unitFindings? answer f u) := by
  refine (Gives.lift _).bind fun prompt => (ask_gives prompt).bind fun r => ?_
  cases r with
  | none => exact Gives.throw _
  | some findings => exact Gives.pure findings

theorem reviewUnits_gives (f : FileToReview) (us : List ChangedUnit) :
    Gives answer (reviewUnits f us) ((us.mapM (unitFindings? answer f)).map List.flatten) := by
  induction us with
  | nil => exact Gives.pure []
  | cons u us ih =>
      have heq : ((u :: us).mapM (unitFindings? answer f)).map List.flatten =
          (unitFindings? answer f u).bind fun first =>
            ((us.mapM (unitFindings? answer f)).map List.flatten).bind fun rest => some (first ++ rest) := by
        rw [List.mapM_cons]
        cases unitFindings? answer f u with
        | none => rfl
        | some first => cases us.mapM (unitFindings? answer f) <;> rfl
      rw [heq]
      exact (reviewUnit_gives f u).bind fun first => ih.bind fun rest => Gives.pure (first ++ rest)

theorem reviewFileOrNone_gives (f : FileToReview) :
    Gives answer (reviewFileOrNone f) (some (fileFindings answer f)) :=
  (reviewUnits_gives f f.units).recover []

/-- Files that are named by different texts have their findings in their order, after those
that were found so far. -/
theorem reviewFilesFrom_gives (fs : List FileToReview) (found : List (Json × List Finding))
    (hnamed : ∀ v ∈ found.map (·.1) ++ fs.map (·.file.name), ∃ name, v = .str name)
    (hnodup : (found.map (·.1) ++ fs.map (·.file.name)).Nodup) :
    Gives answer (reviewFilesFrom found fs)
      (some (found ++ fs.map fun f => (f.file.name, fileFindings answer f))) := by
  induction fs generalizing found with
  | nil =>
      rw [List.map_nil, List.append_nil]
      exact Gives.pure found
  | cons f fs ih =>
      obtain ⟨name, hname⟩ := hnamed f.file.name (by simp)
      have hkey : Gives answer (Redline.lift f.file.name.key) (some f.file.name) := by
        rw [hname]
        exact Gives.lift _
      have hset : Table.set f.file.name (fileFindings answer f) found =
          found ++ [(f.file.name, fileFindings answer f)] := by
        refine Table.set_of_fresh _ fun e he => ?_
        obtain ⟨other, hother⟩ := hnamed e.1 (List.mem_append_left _ (List.mem_map_of_mem he))
        have hne : e.1 ≠ f.file.name :=
          (List.nodup_append.1 hnodup).2.2 e.1 (List.mem_map_of_mem he) f.file.name List.mem_cons_self
        rw [hname, hother, Json.beq_str, beq_eq_false_iff_ne]
        intro heq
        exact hne (by rw [hother, hname, heq])
      have hassoc : (found ++ [(f.file.name, fileFindings answer f)]).map (·.1) ++ fs.map (·.file.name) =
          found.map (·.1) ++ (f :: fs).map (·.file.name) := by simp
      have hrest := ih _ (hassoc ▸ hnamed) (hassoc ▸ hnodup)
      rw [List.append_assoc, ← hset] at hrest
      exact (reviewFileOrNone_gives f).bind_some (hkey.bind_some hrest)

theorem reviewFiles_gives {fs : List FileToReview} (hnamed : ∀ f ∈ fs, ∃ name, f.file.name = .str name)
    (hnodup : (fs.map (·.file.name)).Nodup) :
    Gives answer (reviewFiles fs) (some (fs.map fun f => (f.file.name, fileFindings answer f))) := by
  refine reviewFilesFrom_gives fs [] (fun v hv => ?_) hnodup
  obtain ⟨f, hf, rfl⟩ := List.mem_map.1 hv
  exact hnamed f hf

end Review

end Redline
