import Mathlib.Data.List.Perm.Subperm
import Redline.Proofs.Refine.Commits
import Redline.Proofs.Refine.Lookups

/-!
# How often a comment is marked

Every comment is in one group.  What is registered for a group are the changed code and,
if the refiner gave imports, a modification of their own for these, and both carry the
suggestions of all comments of the group.  So if no two comments have the same id, a
suggestion is handed over to be marked at most twice, and it is handed over twice exactly
if imports came with the change of its group (`marked_per_modification`).
-/

namespace Redline

open Session

/-! ## Repeated parts of a list -/

section

variable {α β γ : Type}

theorem flatMap_subperm {as : List α} {f g : α → List β} (h : ∀ a ∈ as, (f a).Subperm (g a)) :
    (as.flatMap f).Subperm (as.flatMap g) := by
  induction as with
  | nil => exact List.nil_subperm
  | cons a as ih =>
      rw [List.flatMap_cons, List.flatMap_cons]
      exact (h a List.mem_cons_self).append (ih fun b hb => h b (List.mem_cons_of_mem a hb))

theorem nodup_of_subperm {bs cs : List β} (h : bs.Subperm cs) {f : β → γ} (hcs : (cs.map f).Nodup) :
    (bs.map f).Nodup := by
  obtain ⟨ds, hperm, hsub⟩ := h
  exact (hperm.map f).nodup_iff.1 (hcs.sublist (hsub.map f))

/-- If the parts of a list have no item in common, an item is there as often as its part is
repeated. -/
theorem count_of_repeated [BEq β] [LawfulBEq β] {as : List α} {part : α → List β}
    (hnodup : (as.flatMap part).Nodup) (times : α → Nat) {a : α} (ha : a ∈ as) {b : β} (hb : b ∈ part a) :
    (as.flatMap fun a => (List.replicate (times a) (part a)).flatten).count b = times a := by
  have hzero : ∀ as : List α, b ∉ as.flatMap part →
      (as.flatMap fun a => (List.replicate (times a) (part a)).flatten).count b = 0 := by
    intro as hnot
    refine List.count_eq_zero.2 fun hmem => hnot ?_
    obtain ⟨a, ha, hmem⟩ := List.mem_flatMap.1 hmem
    obtain ⟨bs, hbs, hmem⟩ := List.mem_flatten.1 hmem
    exact List.mem_flatMap.2 ⟨a, ha, List.eq_of_mem_replicate hbs ▸ hmem⟩
  induction as with
  | nil => cases ha
  | cons a' as ih =>
      rw [List.flatMap_cons, List.nodup_append] at hnodup
      obtain ⟨hpart, hrest, hdisjoint⟩ := hnodup
      rw [List.flatMap_cons, List.count_append, List.count_flatten, List.map_replicate, List.sum_replicate_nat]
      rcases List.mem_cons.1 ha with rfl | ha
      · have hnot : b ∉ as.flatMap part := fun h => hdisjoint b hb b h rfl
        rw [hzero as hnot, List.count_eq_one_of_mem hpart hb, Nat.mul_one, Nat.add_zero]
      · have hnot : b ∉ part a' := fun h => hdisjoint b h b (List.mem_flatMap.2 ⟨a, ha, hb⟩) rfl
        rw [List.count_eq_zero.2 hnot, Nat.mul_zero, Nat.zero_add, ih hrest ha]

end

namespace Refine

/-! ## The groups of processed files -/

/-- The groups that are treated in a file that ends up processed, each with the name and
the text of the file. -/
def FileStep.treated (c : PullContext) (f : FileStep) : List (String × Text × GroupStep) :=
  match f.result, textAt c f.path f.start with
  | some _, .ok (some (name, content)) w => (textSteps name content f.comments w).map fun s => (name, content, s)
  | _, _ => []

section

variable {c : PullContext} {files : List (Json × List Comment)} {w : World} {f : FileStep}

theorem FileStep.treated_none (h : f.result = none) : f.treated c = [] := by rw [treated, h]

theorem FileStep.treated_some {r : FileResult} {name : String} {content : Text} {w₁ : World} (hr : f.result = some r)
    (htext : textAt c f.path f.start = .ok (some (name, content)) w₁) :
    f.treated c = (textSteps name content f.comments w₁).map fun s => (name, content, s) := by
  rw [treated, hr, htext]

theorem mem_treated_of_treats {name : String} {content : Text} {s : GroupStep}
    (h : Treats c files w name content s) : (name, content, s) ∈ (fileSteps c files w).flatMap (·.treated c) := by
  obtain ⟨f, hf, hsome, w₁, htext, hs⟩ := h
  obtain ⟨r, hr⟩ := Option.isSome_iff_exists.1 hsome
  refine List.mem_flatMap.2 ⟨f, hf, ?_⟩
  rw [FileStep.treated_some hr htext]
  exact List.mem_map_of_mem hs

theorem refineGroup_of_treats {name : String} {content : Text} {s : GroupStep}
    (h : Treats c files w name content s) :
    refineGroup name content s.before s.group s.start = .ok s.after s.final := by
  obtain ⟨_, -, -, _, -, hs⟩ := h
  exact refineGroup_of_mem hs

/-- What is carried out in a file are the suggestions of what is registered for its groups,
as often as they are registered. -/
theorem implemented_perm (hf : f ∈ fileSteps c files w) :
    (f.implemented.map (·.1)).Perm ((f.treated c).flatMap (·.2.2.marks)) := by
  unfold FileStep.implemented
  cases hr : f.result with
  | none =>
      rw [FileStep.treated_none hr]
      exact List.Perm.refl _
  | some r =>
      obtain ⟨name, content, w₁, -, htext, himplemented, -⟩ := processed_file hf hr
      have hids : (r.implemented.map fun id => (id, f.path)).map (·.1) = r.implemented := by
        rw [List.map_map]
        exact List.map_id r.implemented
      rw [FileStep.treated_some hr htext, Option.map_some, Option.getD_some, hids, List.flatMap_map]
      exact himplemented

theorem treated_subperm (c : PullContext) (f : FileStep) :
    ((f.treated c).flatMap (·.2.2.group)).Subperm f.comments := by
  unfold FileStep.treated
  split
  next name content w₁ _ _ =>
    rw [List.flatMap_map]
    exact textSteps_subperm name content f.comments w₁
  next => exact List.nil_subperm

variable {comments : List Comment}

/-- No comment is treated twice in a run. -/
theorem groups_subperm (hfiles : Comment.byFile comments = .ok files) :
    (((fileSteps c files w).flatMap (·.treated c)).flatMap (·.2.2.group)).Subperm comments := by
  have hsteps : ((fileSteps c files w).flatMap (·.comments)).Sublist (files.flatMap (·.2)) := by
    have h := (fileSteps_files c files w).flatMap (·.2)
    rwa [List.flatMap_map] at h
  have hperm : (files.flatMap (·.2)).Perm comments := by
    rw [byFile_eq hfiles]
    exact groupBy_perm _ comments
  rw [List.flatMap_assoc]
  exact (flatMap_subperm fun f _ => treated_subperm c f).trans (hsteps.subperm.trans hperm.subperm)

end

/-! ## A run -/

/-- A suggestion belongs to a group for which a modification is registered, with imports
or without, in a file that ends up processed. -/
def Carries (c : PullContext) (files : List (Json × List Comment)) (w : World) (id : String) (imports : Bool) :
    Prop :=
  ∃ name content s, Treats c files w name content s ∧ (∃ m, s.Registers m) ∧ id ∈ s.ids ∧
    s.bringsImports name content = imports

section

variable {c : PullContext} {files : List (Json × List Comment)} {comments : List Comment} {t : Tally}
  {w w₀ w₁ : World}

theorem Tallied.marks_perm (h : Tallied c w files w₀ t w₁) :
    (t.implemented.map (·.1)).Perm (((fileSteps c files w₀).flatMap (·.treated c)).flatMap (·.2.2.marks)) := by
  rw [h.tally_eq.1, List.map_flatMap, List.flatMap_assoc]
  exact List.Perm.flatMap_left _ fun f hf => implemented_perm hf

/-- A suggestion is handed over once for each modification of its group. -/
theorem Tallied.count_eq (h : Tallied c w files w₀ t w₁) (hfiles : Comment.byFile comments = .ok files)
    (hids : (comments.map (·.id.displayed)).Nodup) {id : String} {imports : Bool}
    (hid : Carries c files w₀ id imports) : (t.implemented.map (·.1)).count id = imports.toNat + 1 := by
  obtain ⟨name, content, s, hs, hm, hmem, rfl⟩ := hid
  have hnodup : (((fileSteps c files w₀).flatMap (·.treated c)).flatMap (·.2.2.ids)).Nodup := by
    have h := nodup_of_subperm (groups_subperm (w := w₀) (c := c) hfiles) hids
    rwa [List.map_flatMap] at h
  obtain ⟨-, hcopies⟩ := (GroupStep.copies_cases (refineGroup_of_treats hs)).resolve_left fun hno => hno.1 hm
  rw [h.marks_perm.count_eq, ← hcopies]
  exact count_of_repeated hnodup (·.2.2.copies) (mem_treated_of_treats hs) hmem

theorem Tallied.carries_of_mem (h : Tallied c w files w₀ t w₁) {id : String} (hid : id ∈ t.implemented.map (·.1)) :
    ∃ imports, Carries c files w₀ id imports := by
  obtain ⟨⟨i, path⟩, hmem, rfl⟩ := List.mem_map.1 hid
  rw [h.tally_eq.1] at hmem
  obtain ⟨name, content, s, -, hs, hm, hmem⟩ := mem_implemented_iff.1 hmem
  exact ⟨_, name, content, s, hs, hm, hmem, rfl⟩

/-- A suggestion is handed over as often as modifications are registered for its group:
twice if the change of the code unit comes with imports, and once if it does not.  So all
suggestions that are handed over are different exactly if no change that is registered comes
with imports.  The comments are looked up in order to be marked as often as they are handed
over, if the changes are committed. -/
theorem marked_per_modification (h : Tallied c w files w₀ t w₁) (hcomments : Pull.unresolved c w = .ok comments w₀)
    (hids : (comments.map (·.id.displayed)).Nodup) :
    (∀ id, (t.implemented.map (·.1)).count id = 2 ↔ Carries c files w₀ id true) ∧
      (∀ id, (t.implemented.map (·.1)).count id = 1 ↔ Carries c files w₀ id false) ∧
      (∀ id, (t.implemented.map (·.1)).count id ≤ 2) ∧
      ((t.implemented.map (·.1)).Nodup ↔ ∀ id, ¬Carries c files w₀ id true) ∧
      ∃ new, (after (run c) w).forge.log = w.forge.log ++ new ∧
        (Commits c t w₁ → asked new = t.numbers) ∧ (¬Commits c t w₁ → asked new = []) := by
  have hfiles : Comment.byFile comments = .ok files := by
    obtain ⟨comments', hcomments', -, hfiles⟩ := h.grouped
    rw [hcomments] at hcomments'
    cases hcomments'
    exact hfiles
  have hcount : ∀ id, (t.implemented.map (·.1)).count id = 0 ∨
      ∃ imports, Carries c files w₀ id imports ∧ (t.implemented.map (·.1)).count id = imports.toNat + 1 := by
    intro id
    by_cases hid : id ∈ t.implemented.map (·.1)
    · obtain ⟨imports, hcarries⟩ := h.carries_of_mem hid
      exact Or.inr ⟨imports, hcarries, h.count_eq hfiles hids hcarries⟩
    · exact Or.inl (List.count_eq_zero.2 hid)
  have htimes : ∀ id imports, (t.implemented.map (·.1)).count id = imports.toNat + 1 ↔
      Carries c files w₀ id imports := by
    intro id imports
    refine ⟨fun heq => ?_, h.count_eq hfiles hids⟩
    rcases hcount id with hzero | ⟨imports', hcarries, heq'⟩
    · exact absurd (hzero.symm.trans heq) (Nat.succ_ne_zero _).symm
    · have hinj : ∀ b b' : Bool, b.toNat = b'.toNat → b = b' := by decide
      rwa [hinj imports imports' (Nat.succ.inj (heq.symm.trans heq'))]
  have hle : ∀ id, (t.implemented.map (·.1)).count id ≤ 2 := by
    intro id
    rcases hcount id with hzero | ⟨imports, -, heq⟩
    · omega
    · have := Bool.toNat_le imports
      omega
  refine ⟨fun id => htimes id true, fun id => htimes id false, hle, ?_, ?_⟩
  · rw [List.nodup_iff_count_le_one]
    refine forall_congr' fun id => ?_
    have htwice : _ = 2 ↔ _ := htimes id true
    have := hle id
    rw [← htwice]
    omega
  · obtain ⟨_, ⟨new, hlog, rfl⟩, hasked⟩ := h.run_asks
    exact ⟨new, hlog, hasked⟩

end

/-! ## A comment that is marked twice -/

/-- A world with one comment, on a function that the refiner changes with an import. -/
def importing : World where
  forge :=
    { branches := [("head", [("a.py", .text "def f():\n    a\n    b\n".toList)])]
      remarks := [{ id := .int 5, body := .str "use os", path := .str "a.py", line := .int 2 }]
      threadReply := some true }
  reviewer := Advisor.constant (.ok none)
  refiner := Advisor.constant (.ok (.refinement
    { name := "f", path := "a.py", startLine := 1, endLine := 3, code := "def f():\n    a\n    os".toList,
      imports := some "import os".toList }))
  parsers := Outline.Parsers.sound
  formatter := Formatter.absent

/-- The ids of the comments that are not settled. -/
def pendingIds (c : PullContext) (w : World) : List String :=
  match Pull.unresolved c w with
  | .ok comments _ => comments.map (·.id.displayed)
  | .error _ _ => []

theorem pendingIds_of_ok {c : PullContext} {w w₀ : World} {comments : List Comment}
    (h : Pull.unresolved c w = .ok comments w₀) : pendingIds c w = comments.map (·.id.displayed) := by
  rw [pendingIds, h]

theorem importing_tally : (tallyOf firstPull importing).map (fun t => t.implemented.map (·.1)) =
    some ["5", "5"] ∧ pendingIds firstPull importing = ["5"] := by
  decide +kernel

theorem marked_per_modification_importing : ∃ comments files w₀ t w₁,
    Pull.unresolved firstPull importing = .ok comments w₀ ∧ (comments.map (·.id.displayed)).Nodup ∧
      Tallied firstPull importing files w₀ t w₁ ∧ Carries firstPull files w₀ "5" true ∧
      ¬(t.implemented.map (·.1)).Nodup := by
  obtain ⟨htally, hpending⟩ := importing_tally
  obtain ⟨t, ht, hids⟩ := Option.map_eq_some_iff.1 htally
  obtain ⟨files, w₀, w₁, htallied⟩ := tallied_of_tallyOf ht
  obtain ⟨comments, hcomments, -⟩ := htallied.grouped
  rw [pendingIds_of_ok hcomments] at hpending
  have hnodup : (comments.map (·.id.displayed)).Nodup := by
    rw [hpending]
    exact List.nodup_singleton _
  obtain ⟨htwice, -, -, hdistinct, -⟩ := marked_per_modification htallied hcomments hnodup
  have hcarries : Carries firstPull files w₀ "5" true := (htwice "5").1 (by rw [hids]; decide)
  exact ⟨comments, files, w₀, t, w₁, hcomments, hnodup, htallied, hcarries, fun h => hdistinct.1 h "5" hcarries⟩

/-- The only comment is handed over twice, and it is answered twice. -/
theorem comment_marked_twice :
    pendingIds firstPull importing = ["5"] ∧
      (tallyOf firstPull importing).map (fun t => t.implemented.map (·.1)) = some ["5", "5"] ∧
      markedBy (after (run firstPull) importing).forge.log = ["5", "5"] := by
  decide +kernel

end Refine

end Redline
