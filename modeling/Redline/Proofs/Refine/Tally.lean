import Redline.Proofs.Refine.Steps
import Redline.Refine.Run

/-!
# What is carried out and what is passed over

The suggestions that count as carried out in a file are those of its registered
modifications, and a modification is registered with all comments of its group.
What the refiner answered about them plays no part in it.  The suggestions that
are passed over are the ones that the answers name, whether or not something was
registered (`refineText_some`).
-/

namespace Redline

/-! ## Suggestions of modifications -/

namespace Patcher

open Outline

/-- The suggestions of each registered modification. -/
def suggestionRows (p : Patcher) : List (List String) := p.modifications.map (·.suggestions)

theorem suggestions_eq (p : Patcher) : p.suggestions = p.suggestionRows.flatten := List.flatMap_def

theorem edited_suggestions (p : Patcher) (start stop : Int) (m : Modification) (updated : Text)
    (tree : Option Tree) : (p.edited start stop m updated tree).suggestionRows = p.suggestionRows := by
  have hkept : ∀ m' : Modification,
      (Modification.afterEdit start stop (start + m.replacement.length) m').suggestions = m'.suggestions := by
    intro m'
    simp only [Modification.afterEdit]
    split
    next => rfl
    next =>
      split
      next => rfl
      next => split <;> rfl
  simp only [suggestionRows, edited, List.map_map, Function.comp_def, hkept]

/-- An operation leaves a patcher with modifications of some suggestions. -/
def Leaves (rows : List (List String)) (x : Reading (PatchResult × Patcher)) : Prop :=
  Ensures (fun a => a.2.suggestionRows = rows) x

theorem applyIn_leaves (p : Patcher) (tree : Tree) (m : Modification) :
    Leaves p.suggestionRows (p.applyIn tree m) := by
  unfold applyIn
  split
  next e _ => exact Ensures.pure rfl
  next => exact Ensures.pure rfl
  next start stop _ =>
    intro q a r hrun
    simp only [replaceAt] at hrun
    cases hrefusal : tree.refusal with
    | some e =>
        simp only [hrefusal] at hrun
        cases hrun
        rfl
    | none =>
        simp only [hrefusal] at hrun
        cases hparse : parse (p.language.getD "") (p.content.splice start stop m.replacement) q with
        | ok tree r' =>
            simp only [hparse] at hrun
            cases hrun
            exact edited_suggestions p start stop m _ tree
        | error e r' =>
            simp only [hparse] at hrun
            cases hrun
            rfl

theorem apply_leaves (p : Patcher) (m : Modification) : Leaves p.suggestionRows (p.apply m) := by
  have hensure : Ensures (fun p' => p'.suggestionRows = p.suggestionRows) p.ensureTree := by
    unfold ensureTree
    split
    next language _ _ => exact Ensures.bind (fun _ _ _ _ => trivial) fun tree (_ : True) => Ensures.pure rfl
    next => exact Ensures.pure rfl
  refine hensure.bind fun p' hp' => ?_
  rw [← hp']
  cases p'.tree with
  | some tree => exact applyIn_leaves p' tree m
  | none => exact Ensures.pure rfl

theorem applyFrom_leaves (p : Patcher) (index count : Nat) : Leaves p.suggestionRows (p.applyFrom index count) := by
  induction count generalizing p index with
  | zero => exact Ensures.pure rfl
  | succ count ih =>
      rw [applyFrom]
      split
      next => exact Ensures.pure rfl
      next m _ =>
        refine (apply_leaves p m).bind fun (result, p') hp' => ?_
        rw [← hp']
        dsimp only
        split
        next => exact ih p' (index + 1)
        next => exact Ensures.pure rfl

theorem format_suggestions (p : Patcher) (formatter : Formatter) :
    Ensures (fun p' => p'.suggestionRows = p.suggestionRows) (p.format formatter) := by
  unfold format
  split
  next => exact Ensures.pure rfl
  next language _ =>
    split
    next c t _ =>
      intro q a r hrun
      unfold reformat at hrun
      cases hparse : parse language (c :: t) q with
      | ok tree r' =>
          simp only [hparse] at hrun
          cases hrun
          rfl
      | error e r' =>
          simp only [hparse] at hrun
          cases hrun
          rfl
    next => exact Ensures.pure rfl

/-- Applying modifications keeps their suggestions. -/
theorem applyAll_leaves (p : Patcher) (formatter : Formatter) : Leaves p.suggestionRows (p.applyAll formatter) := by
  unfold applyAll
  split
  next => exact Ensures.pure rfl
  next =>
    refine (applyFrom_leaves p 0 p.modifications.length).bind fun (result, p') hp' => ?_
    rw [← hp']
    dsimp only
    split
    next => exact (format_suggestions p' formatter).bind fun p'' hp'' => Ensures.pure hp''
    next => exact Ensures.pure rfl

end Patcher

namespace Refine

open Session

/-! ## One group -/

/-- The changed code that the refiner gives for a group of comments. -/
def responseTo (path : String) (content : Text) : List Comment → World → Option Refinement
  | [], _ => none
  | first :: rest, w =>
      match reading (Context.extract path content first.line) w with
      | .ok (some excerpt) w₁ =>
          match changes (.str path) excerpt.code ((first :: rest).map Request.ofComment) w₁ with
          | .ok response _ => response
          | .error _ _ => none
      | _ => none

namespace GroupStep

def ids (s : GroupStep) : List String := s.group.map (·.id.displayed)

def response (s : GroupStep) (path : String) (content : Text) : Option Refinement :=
  responseTo path content s.group s.start

/-- Whether the refiner gave imports for a group. -/
def bringsImports (s : GroupStep) (path : String) (content : Text) : Bool :=
  (s.response path content).any (·.bringsImports)

/-- How many modifications were registered for a group. -/
def copies (s : GroupStep) : Nat := s.after.patcher.modifications.length - s.before.patcher.modifications.length

/-- The suggestions of all modifications that were registered for a group. -/
def marks (s : GroupStep) : List String := (List.replicate s.copies s.ids).flatten

def passedOver (s : GroupStep) (path : String) (content : Text) : List Skipped :=
  ((s.response path content).map (·.skipped)).getD []

end GroupStep

section

variable {path : String} {content : Text} {d d' : Draft} {w w' : World}

/-- A response is registered, and what it passes over is noted.  Without one the
draft stays as it is. -/
theorem refineGroup_response {g : List Comment} (h : refineGroup path content d g w = .ok d' w') :
    (responseTo path content g w = none ∧ d' = d) ∨
      ∃ r line, responseTo path content g w = some r ∧
        register d.patcher line r (g.map (·.id.displayed)) = .ok d'.patcher ∧
        d'.skipped = d.skipped ++ r.skipped := by
  cases g with
  | nil =>
      cases h
      exact Or.inl ⟨rfl, rfl⟩
  | cons first rest =>
      unfold refineGroup at h
      unfold responseTo
      obtain ⟨excerpt, w₁, hextract, h⟩ := bind_eq_ok.1 h
      simp only [hextract]
      cases excerpt with
      | none =>
          cases h
          exact Or.inl ⟨rfl, rfl⟩
      | some e =>
          obtain ⟨response, w₂, hchanges, h⟩ := bind_eq_ok.1 h
          simp only [hchanges]
          cases response with
          | none =>
              cases h
              exact Or.inl ⟨rfl, rfl⟩
          | some r =>
              obtain ⟨p, w₃, hregister, h⟩ := bind_eq_ok.1 h
              obtain ⟨hp, rfl⟩ := lift_eq_ok.1 hregister
              cases h
              exact Or.inr ⟨r, first.line, rfl, hp, rfl⟩

end

namespace GroupStep

variable {s : GroupStep} {path : String} {content : Text}

theorem skipped_eq (hs : refineGroup path content s.before s.group s.start = .ok s.after s.final) :
    s.after.skipped = s.before.skipped ++ s.passedOver path content := by
  unfold passedOver response
  rcases refineGroup_response hs with ⟨hnone, hdraft⟩ | ⟨r, line, hsome, -, hskipped⟩
  · rw [hnone, hdraft]
    exact (List.append_nil _).symm
  · rw [hsome, hskipped]
    rfl

/-- A step registers nothing, or a modification of the code unit and, if the response
brings imports, one of those.  Each carries the suggestions of the whole group, whatever the
response says about them. -/
theorem rows_cases (hs : refineGroup path content s.before s.group s.start = .ok s.after s.final) :
    ((¬∃ m, s.Registers m) ∧ s.after.patcher.suggestionRows = s.before.patcher.suggestionRows) ∨
      (∃ m, s.Registers m) ∧ s.after.patcher.suggestionRows =
        List.replicate (s.bringsImports path content).toNat s.ids ++ (s.before.patcher.suggestionRows ++ [s.ids]) := by
  have hsame : s.after.patcher = s.before.patcher → (¬∃ m, s.Registers m) ∧
      s.after.patcher.suggestionRows = s.before.patcher.suggestionRows := by
    intro heq
    exact ⟨fun ⟨m, hm⟩ => hm.ne (congrArg (·.modifications) heq), by rw [heq]⟩
  unfold bringsImports response
  rcases refineGroup_response hs with ⟨-, hdraft⟩ | ⟨r, line, hsome, hregister, -⟩
  · exact Or.inl (hsame (congrArg (·.patcher) hdraft))
  · rcases register_cases hregister with ⟨-, hp⟩ | ⟨unit, imports, -, hids, hp⟩
    · exact Or.inl (hsame hp)
    · refine Or.inr ⟨⟨s.before.patcher.replacementOf unit r.code s.ids, imports, by rw [hp]; rfl⟩, ?_⟩
      rw [hp, hsome, Patcher.suggestionRows, List.map_append, hids, List.map_append]
      rfl

theorem copies_cases (hs : refineGroup path content s.before s.group s.start = .ok s.after s.final) :
    ((¬∃ m, s.Registers m) ∧ s.copies = 0) ∨
      (∃ m, s.Registers m) ∧ s.copies = (s.bringsImports path content).toNat + 1 := by
  have hlength : ∀ p : Patcher, p.suggestionRows.length = p.modifications.length := fun p => List.length_map _
  unfold copies
  rw [← hlength, ← hlength]
  rcases rows_cases hs with ⟨hno, hrows⟩ | ⟨hm, hrows⟩
  · exact Or.inl ⟨hno, by rw [hrows, Nat.sub_self]⟩
  · refine Or.inr ⟨hm, ?_⟩
    rw [hrows, List.length_append, List.length_replicate, List.length_append, List.length_singleton]
    omega

theorem suggestions_perm (hs : refineGroup path content s.before s.group s.start = .ok s.after s.final) :
    s.after.patcher.suggestions.Perm (s.before.patcher.suggestions ++ s.marks) := by
  unfold marks
  rw [Patcher.suggestions_eq, Patcher.suggestions_eq]
  rcases rows_cases hs with ⟨hno, hrows⟩ | ⟨hm, hrows⟩
  · obtain ⟨-, hcopies⟩ := (copies_cases hs).resolve_right fun h => hno h.1
    rw [hrows, hcopies]
    exact List.Perm.of_eq (List.append_nil _).symm
  · obtain ⟨-, hcopies⟩ := (copies_cases hs).resolve_left fun h => h.1 hm
    rw [hrows, hcopies, List.replicate_succ']
    simp only [List.flatten_append, List.flatten_cons, List.flatten_nil, List.append_nil]
    exact List.perm_append_comm_assoc _ _ _

/-- The suggestions of a group are added if a modification is registered. -/
theorem mem_marks_iff (hs : refineGroup path content s.before s.group s.start = .ok s.after s.final) {id : String} :
    id ∈ s.marks ↔ (∃ m, s.Registers m) ∧ id ∈ s.ids := by
  have hcopies : s.copies ≠ 0 ↔ ∃ m, s.Registers m := by
    rcases copies_cases hs with ⟨hno, h⟩ | ⟨hm, h⟩
    · exact ⟨fun hne => absurd h hne, fun hm => absurd hm hno⟩
    · exact ⟨fun _ => hm, fun _ => by rw [h]; exact Nat.succ_ne_zero _⟩
  rw [← hcopies, marks, List.mem_flatten]
  simp only [List.mem_replicate]
  exact ⟨fun ⟨_, ⟨hne, heq⟩, hid⟩ => ⟨hne, heq ▸ hid⟩, fun ⟨hne, hid⟩ => ⟨s.ids, ⟨hne, rfl⟩, hid⟩⟩

end GroupStep

/-! ## One file -/

section

variable {path : String} {content : Text} {d d' : Draft} {w w' : World}

theorem refineGroups_cons {g : List Comment} {gs : List (List Comment)}
    (h : refineGroups path content (g :: gs) d w = .ok d' w') :
    ∃ d₁ w₁, refineGroup path content d g w = .ok d₁ w₁ ∧ refineGroups path content gs d₁ w₁ = .ok d' w' ∧
      groupSteps path content (g :: gs) d w = ⟨g, d, w, d₁, w₁⟩ :: groupSteps path content gs d₁ w₁ := by
  obtain ⟨d₁, w₁, hstep, hrest⟩ := bind_eq_ok.1 h
  exact ⟨d₁, w₁, hstep, hrest, by simp only [groupSteps, hstep]⟩

/-- What is passed over in a file is what the responses to its groups pass over. -/
theorem refineGroups_skipped {gs : List (List Comment)} (h : refineGroups path content gs d w = .ok d' w') :
    d'.skipped = d.skipped ++ (groupSteps path content gs d w).flatMap (·.passedOver path content) := by
  induction gs generalizing d w with
  | nil =>
      cases h
      exact (List.append_nil _).symm
  | cons g gs ih =>
      obtain ⟨d₁, w₁, hstep, hrest, hsteps⟩ := refineGroups_cons h
      have hfirst : d₁.skipped = d.skipped ++ _ := @GroupStep.skipped_eq ⟨g, d, w, d₁, w₁⟩ path content hstep
      rw [ih hrest, hfirst, hsteps, List.flatMap_cons, List.append_assoc]

/-- What is carried out in a file are the suggestions of the modifications that are
registered for its groups. -/
theorem refineGroups_suggestions {gs : List (List Comment)} (h : refineGroups path content gs d w = .ok d' w') :
    d'.patcher.suggestions.Perm (d.patcher.suggestions ++ (groupSteps path content gs d w).flatMap (·.marks)) := by
  induction gs generalizing d w with
  | nil =>
      cases h
      exact List.Perm.of_eq (List.append_nil _).symm
  | cons g gs ih =>
      obtain ⟨d₁, w₁, hstep, hrest, hsteps⟩ := refineGroups_cons h
      have hfirst := @GroupStep.suggestions_perm ⟨g, d, w, d₁, w₁⟩ path content hstep
      rw [hsteps, List.flatMap_cons, ← List.append_assoc]
      exact (ih hrest).trans (hfirst.append_right _)

theorem finish_some {r : FileResult} (h : finish d w = .ok (some r) w') :
    r.implemented = d.patcher.suggestions ∧ r.skipped = d.skipped := by
  obtain ⟨formatter, w₁, -, h⟩ := bind_eq_ok.1 h
  obtain ⟨⟨result, p⟩, w₂, hread, h⟩ := bind_eq_ok.1 h
  obtain ⟨q, happly, rfl⟩ := reading_eq_ok.1 hread
  have hrows : p.suggestionRows = d.patcher.suggestionRows := Patcher.applyAll_leaves _ _ _ _ _ happly
  have hkept : p.suggestions = d.patcher.suggestions := by
    rw [Patcher.suggestions_eq, Patcher.suggestions_eq, hrows]
  dsimp only at h
  cases hsuccess : result.success with
  | false =>
      rw [hsuccess] at h
      cases h
  | true =>
      rw [hsuccess] at h
      obtain ⟨verdict, w₃, -, h⟩ := bind_eq_ok.1 h
      cases hvalid : verdict.valid with
      | false =>
          rw [hvalid] at h
          cases h
      | true =>
          rw [hvalid] at h
          cases h
          exact ⟨hkept, rfl⟩

theorem refineGroup_of_mem {comments : List Comment} {s : GroupStep} (hs : s ∈ textSteps path content comments w) :
    refineGroup path content s.before s.group s.start = .ok s.after s.final := by
  unfold textSteps stepsAfter at hs
  split at hs
  next =>
    exact (groupSteps_invariant (fun _ _ _ _ _ _ _ _ => trivial) (trivial : (fun _ _ => True) _ _) hs).2.2
  next => exact absurd hs List.not_mem_nil

/-- The suggestions that count as carried out in a text, and those that are passed
over. -/
theorem refineText_some {comments : List Comment} {r : FileResult}
    (h : refineText path content comments w = .ok (some r) w') :
    r.implemented.Perm ((textSteps path content comments w).flatMap (·.marks)) ∧
      r.skipped = (textSteps path content comments w).flatMap (·.passedOver path content) := by
  rw [refineText_eq] at h
  obtain ⟨⟨patcher, groups⟩, w₁, hprepare, h⟩ := bind_eq_ok.1 h
  obtain ⟨d, w₂, hgroups, hfinish⟩ := bind_eq_ok.1 h
  have hfresh : patcher.suggestions = [] := by
    obtain ⟨tree, q, r, -, rfl, -⟩ := prepare_eq_ok hprepare
    rfl
  have hsteps : textSteps path content comments w = groupSteps path content groups { patcher := patcher } w₁ := by
    rw [textSteps, hprepare, stepsAfter]
  obtain ⟨himplemented, hskipped⟩ := finish_some hfinish
  rw [hsteps]
  refine ⟨?_, ?_⟩
  · have hperm := refineGroups_suggestions hgroups
    rw [hfresh] at hperm
    rwa [himplemented]
  · rw [hskipped, refineGroups_skipped hgroups]
    rfl

end

/-! ## The files of a run -/

/-- The name and the text of a file of a pull request, if it has a text. -/
def textAt (c : PullContext) (path : Json) : Session (Option (String × Text)) := do
  Pull.open c
  match path, ← Pull.fileContent path (← forge).head.ref with
  | .str name, some (ch :: t) => return some (name, ch :: t)
  | _, _ => return none

theorem refineFile_eq (c : PullContext) (path : Json) (comments : List Comment) :
    refineFile c path comments = recover none (do
      match ← textAt c path with
      | some (name, content) => refineText name content comments
      | none => return none) := by
  unfold refineFile textAt
  refine congrArg (recover none) ?_
  simp only [bind_assoc]
  refine bind_congr fun _ => bind_congr fun f => bind_congr fun text => ?_
  rcases text with _ | _ | ⟨ch, t⟩
  · cases path <;> rfl
  · cases path <;> rfl
  · cases path with
    | str name => rw [pure_bind]
    | _ => rfl

/-- A file that is processed has a text, which is refined. -/
theorem refineFile_some {c : PullContext} {path : Json} {comments : List Comment} {w w' : World} {r : FileResult}
    (h : refineFile c path comments w = .ok (some r) w') :
    ∃ name content w₁, textAt c path w = .ok (some (name, content)) w₁ ∧
      refineText name content comments w₁ = .ok (some r) w' := by
  rw [refineFile_eq] at h
  obtain h | ⟨hnone, -⟩ := recover_eq_ok.1 h
  · obtain ⟨file, w₁, hfile, h⟩ := bind_eq_ok.1 h
    cases file with
    | none => cases h
    | some file => exact ⟨file.1, file.2, w₁, hfile, h⟩
  · cases hnone

/-- What happened to a file. -/
structure FileStep where
  path : Json
  comments : List Comment
  start : World
  result : Option FileResult
  final : World

/-- The files of a run one after the other. -/
def fileSteps (c : PullContext) : List (Json × List Comment) → World → List FileStep
  | [], _ => []
  | (path, comments) :: rest, w =>
      match refineFile c path comments w with
      | .ok r w' => ⟨path, comments, w, r, w'⟩ :: fileSteps c rest w'
      | .error _ _ => []

theorem refineFile_of_mem {c : PullContext} {files : List (Json × List Comment)} {w : World} {f : FileStep}
    (h : f ∈ fileSteps c files w) : refineFile c f.path f.comments f.start = .ok f.result f.final := by
  induction files generalizing w with
  | nil => exact absurd h List.not_mem_nil
  | cons file rest ih =>
      rw [fileSteps] at h
      split at h
      next r w' hrun =>
        rcases List.mem_cons.1 h with rfl | h
        · exact hrun
        · exact ih h
      next => exact absurd h List.not_mem_nil

/-- Refining files never fails, and its tally adds up what came of them. -/
theorem refineFiles_eq (c : PullContext) (files : List (Json × List Comment)) (t : Tally) (w : World) :
    ∃ w', refineFiles c files t w =
      .ok ((fileSteps c files w).foldl (fun t f => t.add f.path f.result) t) w' := by
  induction files generalizing t w with
  | nil => exact ⟨w, rfl⟩
  | cons file rest ih =>
      obtain ⟨path, comments⟩ := file
      cases hrun : refineFile c path comments w with
      | error e w₁ => exact absurd hrun (recover_ne_error _ _ _ _ _)
      | ok r w₁ =>
          obtain ⟨w', hrest⟩ := ih (t.add path r) w₁
          refine ⟨w', ?_⟩
          rw [refineFiles, bind_of_ok hrun, hrest]
          simp only [fileSteps, hrun, List.foldl_cons]

namespace FileStep

def implemented (f : FileStep) : List (String × Json) :=
  (f.result.map fun r => r.implemented.map (·, f.path)).getD []

def skipped (f : FileStep) : List SkippedIn :=
  (f.result.map fun r => r.skipped.map fun s => ⟨f.path, .str s.id, .str s.reason⟩).getD []

/-- What every file adds to a part of the tally is added up. -/
theorem foldl_add_part {α : Type} {part : Tally → List α} {new : FileStep → List α}
    (hadd : ∀ (t : Tally) (f : FileStep), part (t.add f.path f.result) = part t ++ new f) (fs : List FileStep)
    (t : Tally) : part (fs.foldl (fun t f => t.add f.path f.result) t) = part t ++ fs.flatMap new := by
  induction fs generalizing t with
  | nil => exact (List.append_nil _).symm
  | cons f fs ih => rw [List.foldl_cons, ih, hadd, List.flatMap_cons, List.append_assoc]

theorem foldl_add (fs : List FileStep) (t : Tally) :
    (fs.foldl (fun t f => t.add f.path f.result) t).implemented = t.implemented ++ fs.flatMap implemented ∧
      (fs.foldl (fun t f => t.add f.path f.result) t).skipped = t.skipped ++ fs.flatMap skipped := by
  constructor
  · refine foldl_add_part (fun t f => ?_) fs t
    unfold implemented
    cases hr : f.result <;> simp [Tally.add]
  · refine foldl_add_part (fun t f => ?_) fs t
    unfold skipped
    cases hr : f.result <;> simp [Tally.add]

end FileStep

/-! ## The groups of a run -/

/-- In a run over files, a group of comments is treated in a file that ends up
processed. -/
def Treats (c : PullContext) (files : List (Json × List Comment)) (w : World) (name : String) (content : Text)
    (s : GroupStep) : Prop :=
  ∃ f ∈ fileSteps c files w, f.result.isSome = true ∧
    ∃ w₁, textAt c f.path f.start = .ok (some (name, content)) w₁ ∧ s ∈ textSteps name content f.comments w₁

theorem textAt_name {c : PullContext} {path : Json} {name : String} {content : Text} {w w' : World}
    (h : textAt c path w = .ok (some (name, content)) w') : path = .str name := by
  obtain ⟨_, w₁, -, h⟩ := bind_eq_ok.1 h
  obtain ⟨_, w₂, -, h⟩ := bind_eq_ok.1 h
  obtain ⟨text, w₃, -, h⟩ := bind_eq_ok.1 h
  cases path with
  | str s =>
      rcases text with _ | _ | ⟨ch, t⟩
      · cases h
      · cases h
      · cases h
        rfl
  | _ => cases h

section

variable {c : PullContext} {files : List (Json × List Comment)} {w : World} {f : FileStep} {r : FileResult}

/-- What a processed file counts as carried out and as passed over. -/
theorem processed_file (hf : f ∈ fileSteps c files w) (hr : f.result = some r) :
    ∃ name content w₁, f.path = .str name ∧ textAt c f.path f.start = .ok (some (name, content)) w₁ ∧
      r.implemented.Perm ((textSteps name content f.comments w₁).flatMap (·.marks)) ∧
      r.skipped = (textSteps name content f.comments w₁).flatMap (·.passedOver name content) := by
  have hrun := refineFile_of_mem hf
  rw [hr] at hrun
  obtain ⟨name, content, w₁, htext, hrefine⟩ := refineFile_some hrun
  exact ⟨name, content, w₁, textAt_name htext, htext, refineText_some hrefine⟩

/-- A suggestion counts as carried out if a modification was registered for its
group. -/
theorem mem_implemented_iff {id : String} {path : Json} :
    (id, path) ∈ (fileSteps c files w).flatMap (·.implemented) ↔
      ∃ name content s, path = .str name ∧ Treats c files w name content s ∧
        (∃ m, s.Registers m) ∧ id ∈ s.ids := by
  rw [List.mem_flatMap]
  constructor
  · rintro ⟨f, hf, hmem⟩
    cases hr : f.result with
    | none => simp [FileStep.implemented, hr] at hmem
    | some r =>
        obtain ⟨name, content, w₁, hpath, htext, himplemented, -⟩ := processed_file hf hr
        simp only [FileStep.implemented, hr, Option.map_some, Option.getD_some, List.mem_map, Prod.mk.injEq] at hmem
        obtain ⟨i, hi, rfl, rfl⟩ := hmem
        obtain ⟨s, hs, hmark⟩ := List.mem_flatMap.1 (himplemented.mem_iff.1 hi)
        obtain ⟨hregisters, hid⟩ := (GroupStep.mem_marks_iff (refineGroup_of_mem hs)).1 hmark
        exact ⟨name, content, s, hpath, ⟨f, hf, by rw [hr]; rfl, w₁, htext, hs⟩, hregisters, hid⟩
  · rintro ⟨name, content, s, rfl, ⟨f, hf, hsome, w₁, htext, hs⟩, hregisters, hid⟩
    obtain ⟨r, hr⟩ := Option.isSome_iff_exists.1 hsome
    obtain ⟨name', content', w₁', hpath, htext', himplemented, -⟩ := processed_file hf hr
    rw [htext] at htext'
    cases htext'
    have hmark := (GroupStep.mem_marks_iff (refineGroup_of_mem hs)).2 ⟨hregisters, hid⟩
    have hi : id ∈ r.implemented := himplemented.mem_iff.2 (List.mem_flatMap.2 ⟨s, hs, hmark⟩)
    refine ⟨f, hf, ?_⟩
    rw [FileStep.implemented, hr, hpath]
    exact List.mem_map_of_mem hi

/-- A suggestion counts as passed over if the response to some group says so. -/
theorem mem_skipped_iff {k : SkippedIn} : k ∈ (fileSteps c files w).flatMap (·.skipped) ↔
    ∃ name content s, Treats c files w name content s ∧ ∃ skip ∈ s.passedOver name content,
      k = ⟨.str name, .str skip.id, .str skip.reason⟩ := by
  rw [List.mem_flatMap]
  constructor
  · rintro ⟨f, hf, hmem⟩
    cases hr : f.result with
    | none => simp [FileStep.skipped, hr] at hmem
    | some r =>
        obtain ⟨name, content, w₁, hpath, htext, -, hskipped⟩ := processed_file hf hr
        simp only [FileStep.skipped, hr, Option.map_some, Option.getD_some, List.mem_map, hskipped] at hmem
        obtain ⟨skip, hskip, rfl⟩ := hmem
        obtain ⟨s, hs, hskip⟩ := List.mem_flatMap.1 hskip
        exact ⟨name, content, s, ⟨f, hf, by rw [hr]; rfl, w₁, htext, hs⟩, skip, hskip, by rw [hpath]⟩
  · rintro ⟨name, content, s, ⟨f, hf, hsome, w₁, htext, hs⟩, skip, hskip, rfl⟩
    obtain ⟨r, hr⟩ := Option.isSome_iff_exists.1 hsome
    obtain ⟨name', content', w₁', hpath, htext', -, hskipped⟩ := processed_file hf hr
    rw [htext] at htext'
    cases htext'
    have hk : skip ∈ r.skipped := hskipped ▸ List.mem_flatMap.2 ⟨s, hs, hskip⟩
    refine ⟨f, hf, ?_⟩
    rw [FileStep.skipped, hr, hpath]
    exact List.mem_map_of_mem hk

end

end Refine

end Redline
