import Redline.Proofs.Recovery
import Redline.Refine.File

/-!
# The groups of a file one after the other

A file is refined group by group, and what happened to a group is a *step*
(`GroupStep`).  The steps of a file are those up to the first group that meets a
fault (`textSteps`).  `refineGroup_cases` says all that a step can do: it leaves
the file as it is, or it shows an excerpt to the refiner, gets changed code and
registers it.
-/

namespace Redline

/-! ## Parts of a session -/

section

variable {α : Type} {w w' : World}

theorem reading_eq_ok {x : Outline.Reading α} {a : α} :
    Session.reading x w = .ok a w' ↔ ∃ r, x w.parsers = .ok a r ∧ w' = { w with parsers := r } := by
  unfold Session.reading
  cases x w.parsers with
  | ok b r =>
      simp only [EStateM.Result.ok.injEq]
      constructor
      · rintro ⟨rfl, rfl⟩
        exact ⟨r, ⟨rfl, rfl⟩, rfl⟩
      · rintro ⟨s, ⟨rfl, rfl⟩, rfl⟩
        exact ⟨rfl, rfl⟩
  | error e r => simp

theorem reading_of_ok {x : Outline.Reading α} {a : α} {r : Outline.Parsers} (h : x w.parsers = .ok a r) :
    Session.reading x w = .ok a { w with parsers := r } :=
  reading_eq_ok.2 ⟨r, h, rfl⟩

end

/-- Whether a refinement comes with imports that are to be registered. -/
def Refinement.bringsImports (r : Refinement) : Bool := r.imports.any fun t => !t.allBlank

namespace Refine

open Session

/-! ## Asking for a change -/

/-- The world after a prompt was sent to the refiner. -/
def prompted (w : World) (prompt : Text) : World :=
  { w with refiner := { w.refiner with asked := w.refiner.asked ++ [prompt] } }

theorem askFor_apply (prompt : Text) (w : World) :
    askFor prompt w = .ok (w.refiner.reply w.refiner.asked.length prompt).toOption (prompted w prompt) := by
  unfold askFor generate Advisor.ask
  cases w.refiner.reply w.refiner.asked.length prompt <;> rfl

theorem code?_eq_some {a : Option Answer} {r : Refinement} (h : Answer.code? a = some r) :
    a = some (.refinement r) := by
  unfold Answer.code? at h
  split at h
  next answer =>
    split at h
    next => cases h
    next =>
      cases h
      rfl
  next => cases h

theorem toOption_eq_some {ε α : Type} {x : Except ε α} {a : α} : x.toOption = some a ↔ x = .ok a := by
  cases x <;> simp [Except.toOption]

section

variable {path : Json} {code : Text} {requests : List Request} {w w' : World}

/-- The refiner answers the prompt for a piece of code and requests with changed
code. -/
def Answers (path : Json) (code : Text) (requests : List Request) (w : World) (answer : Refinement)
    (w' : World) : Prop :=
  ∃ suggestions, requests.mapM (·.suggestion path) = .ok suggestions ∧
    w.refiner.reply w.refiner.asked.length (changePrompt code suggestions) = .ok (.refinement answer) ∧
    w' = prompted w (changePrompt code suggestions)

theorem changesFor_eq {suggestions : List Suggestion} (hs : requests.mapM (·.suggestion path) = .ok suggestions)
    (w : World) : changesFor path code requests w =
      (match Answer.code? (w.refiner.reply w.refiner.asked.length (changePrompt code suggestions)).toOption with
        | none => .ok none (prompted w (changePrompt code suggestions))
        | some answer =>
            match completed path requests answer with
            | .ok r => .ok (some r) (prompted w (changePrompt code suggestions))
            | .error e => .error e (prompted w (changePrompt code suggestions))) := by
  have hlift : lift (requests.mapM (·.suggestion path)) w = .ok suggestions w := lift_eq_ok.2 ⟨hs, rfl⟩
  rw [changesFor, bind_of_ok hlift, bind_of_ok (askFor_apply _ w)]
  cases Answer.code? (w.refiner.reply w.refiner.asked.length (changePrompt code suggestions)).toOption with
  | none => rfl
  | some answer =>
      simp only
      cases completed path requests answer <;> rfl

/-- Changed code comes from an answer to the prompt for the code and the requests.
Without it the refiner was asked in vain, or not at all. -/
theorem changes_cases {o : Option Refinement} (h : changes path code requests w = .ok o w') :
    (o = none ∧ (w' = w ∨ ∃ prompt, w' = prompted w prompt)) ∨
      ∃ answer r, o = some r ∧ Answers path code requests w answer w' ∧
        completed path requests answer = .ok r := by
  unfold changes recover at h
  cases hs : requests.mapM (·.suggestion path) with
  | error e =>
      have hrun : changesFor path code requests w = .error e w := bind_of_error (lift_eq_error.2 ⟨hs, rfl⟩)
      simp only [hrun] at h
      cases h
      exact Or.inl ⟨rfl, Or.inl rfl⟩
  | ok suggestions =>
      simp only [changesFor_eq hs] at h
      cases hcode : Answer.code?
          (w.refiner.reply w.refiner.asked.length (changePrompt code suggestions)).toOption with
      | none =>
          simp only [hcode] at h
          cases h
          exact Or.inl ⟨rfl, Or.inr ⟨_, rfl⟩⟩
      | some answer =>
          simp only [hcode] at h
          cases hdone : completed path requests answer with
          | error e =>
              simp only [hdone] at h
              cases h
              exact Or.inl ⟨rfl, Or.inr ⟨_, rfl⟩⟩
          | ok r =>
              simp only [hdone] at h
              cases h
              have hreply := toOption_eq_some.1 (code?_eq_some hcode)
              exact Or.inr ⟨answer, r, rfl, ⟨suggestions, hs, hreply, rfl⟩, hdone⟩

end

/-! ## Registering a change -/

/-- Imports are registered before all other modifications, unless they are blank. -/
theorem registerImports_cases {p p' : Patcher} {r : Refinement} {ids : List String}
    (h : registerImports p r.imports ids = .ok p') :
    ∃ ms, ms.map (·.suggestions) = List.replicate r.bringsImports.toNat ids ∧
      p' = { p with modifications := ms ++ p.modifications } := by
  unfold Refinement.bringsImports
  cases himports : r.imports with
  | none =>
      rw [himports] at h
      cases h
      exact ⟨[], rfl, rfl⟩
  | some t =>
      rw [himports, registerImports, Patcher.registerImports] at h
      rw [Option.any_some]
      cases hblank : t.allBlank with
      | true =>
          rw [hblank] at h
          cases h
          exact ⟨[], rfl, rfl⟩
      | false =>
          rw [hblank] at h
          cases hpoint : p.insertionPoint with
          | error e =>
              rw [hpoint] at h
              cases h
          | ok point =>
              rw [hpoint] at h
              cases h
              exact ⟨[_], rfl, rfl⟩

/-- A change is registered for the code unit of a line, behind all others, with
its imports before all others.  Without a unit nothing is registered. -/
theorem register_cases {p p' : Patcher} {line : Json} {r : Refinement} {ids : List String}
    (h : register p line r ids = .ok p') :
    (p.unitAt line = .ok none ∧ p' = p) ∨
      ∃ unit imports, p.unitAt line = .ok (some unit) ∧
        imports.map (·.suggestions) = List.replicate r.bringsImports.toNat ids ∧
        p' = { p with modifications := imports ++ (p.modifications ++ [p.replacementOf unit r.code ids]) } := by
  obtain ⟨unit, hunit, h⟩ := except_bind_eq_ok.1 h
  cases unit with
  | none =>
      cases h
      exact Or.inl ⟨hunit, rfl⟩
  | some unit =>
      obtain ⟨p₁, himports, h⟩ := except_bind_eq_ok.1 h
      obtain ⟨imports, hids, rfl⟩ := registerImports_cases himports
      cases h
      refine Or.inr ⟨unit, imports, hunit, hids, ?_⟩
      simp only [Patcher.add, Patcher.replacementOf, Patcher.textOf, List.append_assoc]

/-! ## One group -/

section

variable {path : String} {content : Text} {d d' : Draft} {w w' : World}

/-- A step leaves the draft as it is, or registers the changed code that it got for
the excerpt of the first comment. -/
theorem refineGroup_cases {c : Comment} {cs : List Comment}
    (h : refineGroup path content d (c :: cs) w = .ok d' w') :
    ∃ excerpt w₁, reading (Context.extract path content c.line) w = .ok excerpt w₁ ∧
      ((d' = d ∧ (w' = w₁ ∨ ∃ prompt, w' = prompted w₁ prompt)) ∨
        ∃ e answer r, excerpt = some e ∧
          Answers (.str path) e.code ((c :: cs).map Request.ofComment) w₁ answer w' ∧
          completed (.str path) ((c :: cs).map Request.ofComment) answer = .ok r ∧
          register d.patcher c.line r ((c :: cs).map (·.id.displayed)) = .ok d'.patcher ∧
          d'.skipped = d.skipped ++ r.skipped) := by
  unfold refineGroup at h
  obtain ⟨excerpt, w₁, hextract, h⟩ := bind_eq_ok.1 h
  refine ⟨excerpt, w₁, hextract, ?_⟩
  cases excerpt with
  | none =>
      cases h
      exact Or.inl ⟨rfl, Or.inl rfl⟩
  | some e =>
      obtain ⟨o, w₂, hchanges, h⟩ := bind_eq_ok.1 h
      rcases changes_cases hchanges with ⟨rfl, hw⟩ | ⟨answer, r, rfl, hanswer, hdone⟩
      · cases h
        exact Or.inl ⟨rfl, hw⟩
      · obtain ⟨p, w₃, hregister, h⟩ := bind_eq_ok.1 h
        obtain ⟨hp, rfl⟩ := lift_eq_ok.1 hregister
        cases h
        exact Or.inr ⟨e, answer, r, rfl, hanswer, hdone, hp, rfl⟩

end

/-! ## The steps of a file -/

/-- What happened to a group of comments. -/
structure GroupStep where
  group : List Comment
  before : Draft
  start : World
  after : Draft
  final : World

/-- The step registers a modification of a code unit: behind all those that were
registered before, while its imports go before them. -/
def GroupStep.Registers (s : GroupStep) (m : Modification) : Prop :=
  ∃ imports, s.after.patcher.modifications = imports ++ (s.before.patcher.modifications ++ [m])

theorem GroupStep.Registers.ne {s : GroupStep} {m : Modification} (h : s.Registers m) :
    s.after.patcher.modifications ≠ s.before.patcher.modifications := by
  intro heq
  obtain ⟨imports, hm⟩ := h
  have hlen := congrArg List.length (heq ▸ hm)
  simp only [List.length_append, List.length_singleton] at hlen
  omega

/-- The steps of some groups, up to the first that meets a fault. -/
def groupSteps (path : String) (content : Text) : List (List Comment) → Draft → World → List GroupStep
  | [], _, _ => []
  | g :: gs, d, w =>
      match refineGroup path content d g w with
      | .ok d' w' => ⟨g, d, w, d', w'⟩ :: groupSteps path content gs d' w'
      | .error _ _ => []

/-- Opens a text and groups the comments on it. -/
def prepare (path : String) (content : Text) (comments : List Comment) :
    Session (Patcher × List (List Comment)) := do
  let patcher ← reading (Patcher.open path content)
  let groups ← reading (Comment.byUnit path content comments)
  return (patcher, groups)

/-- The steps after a preparation, if it had a result. -/
def stepsAfter (path : String) (content : Text) :
    EStateM.Result Fault World (Patcher × List (List Comment)) → List GroupStep
  | .ok (patcher, groups) w => groupSteps path content groups { patcher := patcher } w
  | .error _ _ => []

/-- The steps of a text that is refined by comments. -/
def textSteps (path : String) (content : Text) (comments : List Comment) (w : World) : List GroupStep :=
  stepsAfter path content (prepare path content comments w)

theorem open_eq_ok {path : String} {content : Text} {p : Patcher} {q r : Outline.Parsers}
    (h : Patcher.open path content q = .ok p r) : ∃ tree, Context.treeOf path content q = .ok tree r ∧
      p = { path := path, language := Outline.languageOf? path, content := content, tree := tree } := by
  obtain ⟨tree, q₁, htree, h⟩ := (bind_eq_ok (x := Context.treeOf path content)).1 h
  rw [pure_apply] at h
  injection h with hp hq
  exact ⟨tree, hq ▸ htree, hp.symm⟩

/-- A preparation gives a patcher without modifications, and the groups of the comments. -/
theorem prepare_eq_ok {path : String} {content : Text} {comments : List Comment} {p : Patcher}
    {groups : List (List Comment)} {w w' : World} (h : prepare path content comments w = .ok (p, groups) w') :
    ∃ tree q r, Context.treeOf path content w.parsers = .ok tree q ∧
      p = { path := path, language := Outline.languageOf? path, content := content, tree := tree } ∧
      Comment.byUnit path content comments q = .ok groups r := by
  obtain ⟨opened, w₁, hread, h⟩ := bind_eq_ok.1 h
  obtain ⟨gs, w₂, hgroups, h⟩ := bind_eq_ok.1 h
  cases h
  obtain ⟨q, hopen, rfl⟩ := reading_eq_ok.1 hread
  obtain ⟨r, hgroups, -⟩ := reading_eq_ok.1 hgroups
  obtain ⟨tree, htree, hp⟩ := open_eq_ok hopen
  exact ⟨tree, q, r, htree, hp, hgroups⟩

theorem refineText_eq (path : String) (content : Text) (comments : List Comment) :
    refineText path content comments = (do
      let (patcher, groups) ← prepare path content comments
      finish (← refineGroups path content groups { patcher := patcher })) := by
  simp only [refineText, prepare, bind_assoc, pure_bind]

section

variable {path : String} {content : Text}

/-- What a step keeps holds before every step, and every step is a step of one of
the groups. -/
theorem groupSteps_invariant {P : Draft → World → Prop} {gs : List (List Comment)} {d : Draft} {w : World}
    (hstep : ∀ g ∈ gs, ∀ d w d' w', P d w → refineGroup path content d g w = .ok d' w' → P d' w')
    (h : P d w) {s : GroupStep} (hs : s ∈ groupSteps path content gs d w) :
    s.group ∈ gs ∧ P s.before s.start ∧
      refineGroup path content s.before s.group s.start = .ok s.after s.final := by
  induction gs generalizing d w with
  | nil => exact absurd hs List.not_mem_nil
  | cons g gs ih =>
      rw [groupSteps] at hs
      split at hs
      next d' w' hrun =>
        rcases List.mem_cons.1 hs with rfl | hs
        · exact ⟨List.mem_cons_self, h, hrun⟩
        · have hrest := ih (fun f hf => hstep f (List.mem_cons_of_mem g hf))
            (hstep g List.mem_cons_self d w d' w' h hrun) hs
          exact ⟨List.mem_cons_of_mem g hrest.1, hrest.2⟩
      next => exact absurd hs List.not_mem_nil

/-- The groups of the steps are the first ones, in their order. -/
theorem groupSteps_groups (path : String) (content : Text) (gs : List (List Comment)) (d : Draft) (w : World) :
    ((groupSteps path content gs d w).map (·.group)).Sublist gs := by
  induction gs generalizing d w with
  | nil => exact List.Sublist.refl _
  | cons g gs ih =>
      rw [groupSteps]
      split
      next d' w' hrun => exact (ih d' w').cons_cons g
      next => exact List.nil_sublist _

end

end Refine

end Redline
