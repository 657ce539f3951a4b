import Redline.Proofs.Patch.Outcome
import Redline.Patch.Validate

/-!
# The tree and the text stay in step

A patcher is opened and then used: things are looked up and registered,
modifications are applied, the file is formatted and checked.  `Reached` are the
patchers that any such use leads to, whatever the parsers do meanwhile, as long as
no parse right after formatting fails.  The tree of such a patcher is none or the
one that a parse of its text gives (`tree_of_reached`), so nodes are never looked
up in an old text.  A file without a language has no tree and keeps its text.
-/

namespace Redline

open Outline

/-! ## Parsers that agree with a function -/

/-- The parsers may fail, but a tree that they give is the one that a function
gives. -/
def Outline.Parsers.Follows (q : Parsers) (f : String → Text → Tree) : Prop :=
  ∀ count language t tree, q.outcome count language t = .tree tree → tree = f language t

theorem Outline.Parsers.Follows.later {q r : Parsers} {f : String → Text → Tree} (h : q.Follows f)
    (hr : q.Later r) : r.Follows f := by
  intro count language t tree houtcome
  rw [hr.outcome_eq] at houtcome
  exact h count language t tree houtcome

theorem parse_follows {q r : Parsers} {f : String → Text → Tree} {language : String} {t : Text} {tree : Tree}
    (hq : q.Follows f) (h : parse language t q = .ok (some tree) r) : tree = f language t := by
  unfold parse at h
  cases hlookup : q.lookup q.looked language with
  | absent =>
      simp only [hlookup] at h
      cases h
  | failed reason =>
      simp only [hlookup] at h
      cases h
  | found =>
      simp only [hlookup, runParser] at h
      cases houtcome : q.outcome q.parsed language t with
      | failed reason =>
          simp only [houtcome] at h
          cases h
      | nothing =>
          simp only [houtcome] at h
          cases h
      | tree tree' =>
          simp only [houtcome] at h
          cases h
          exact hq _ _ _ _ houtcome

namespace Patcher

/-! ## Using a patcher -/

/-- What can be done with a patcher. -/
inductive Operation where
  | node (line : Json)
  | unit (line : Json)
  | find (text : Text)
  | walk
  | insertion
  | register (n : Option Node) (text suggestions : Json)
  | imports (text suggestions : Json)
  | add (m : Modification)
  | apply (m : Modification)
  /-- All registered modifications are applied and the file is formatted. -/
  | applyAll (formatter : Formatter)
  | validate

/-- The patcher after an operation.  One that meets a fault leaves it as it is. -/
def perform (p : Patcher) : Operation → Reading Patcher
  | .node line => recover p (lift ((p.nodeAt line).map fun _ => p))
  | .unit line => recover p (lift ((p.unitAt line).map fun _ => p))
  | .find text => recover p (lift ((p.findByText text).map fun _ => p))
  | .walk => recover p (lift (p.nodes.map fun _ => p))
  | .insertion => recover p (lift (p.insertionPoint.map fun _ => p))
  | .register n text suggestions => recover p (lift ((p.registerGiven n text suggestions).map (·.2)))
  | .imports text suggestions => recover p (lift ((p.registerImportsGiven text suggestions).map (·.2)))
  | .add m => pure (p.add m)
  | .apply m => do return (← p.apply m).2
  | .applyAll formatter => do return (← p.applyAll formatter).2
  | .validate => recover p (do let _ ← p.validate; return p)

/-- The parse right after formatting does not fail, if the operation has one. -/
def Reparses (p : Patcher) (q : Parsers) : Operation → Prop
  | .applyAll formatter => ∀ result p₁ q₁ language c t, p.modifications ≠ [] →
      p.applyFrom 0 p.modifications.length q = .ok (result, p₁) q₁ → result.success = true →
      p₁.language = some language → formatter language p₁.content = .ok (some (c :: t)) →
      ∃ found r, parse language (c :: t) q₁ = .ok found r
  | _ => True

/-- The patchers that operations lead to, with the parsers then, if no parse right
after formatting fails. -/
inductive Reached (path : String) (content : Text) (q : Parsers) : Patcher → Parsers → Prop where
  | opened {p : Patcher} {r : Parsers} (h : Patcher.open path content q = .ok p r) : Reached path content q p r
  | performed {p p' : Patcher} {r r' : Parsers} (op : Operation) (hreached : Reached path content q p r)
      (hreparses : p.Reparses r op) (h : p.perform op r = .ok p' r') : Reached path content q p' r'

/-- A patcher of a file: the tree is that of its text if there is one, and the text is
still the first one if there is no language. -/
structure InStep (f : String → Text → Tree) (path : String) (content : Text) (p : Patcher) : Prop where
  language_eq : p.language = languageOf? path
  tree_eq : ∀ tree, p.tree = some tree → ∃ language, p.language = some language ∧ tree = f language p.content
  /-- Without a language the text stays. -/
  content_eq : p.language = none → p.content = content

section

variable {f : String → Text → Tree} {path : String} {content : Text} {p p' : Patcher} {q r : Parsers}
  {m : Modification} {result : PatchResult}

theorem Consults.tree_eq {tree : Tree} {q₁ : Parsers} (h : p.Consults q tree q₁) (hq : q.Follows f)
    (hp : p.InStep f path content) : ∃ language, p.language = some language ∧ tree = f language p.content := by
  cases h with
  | held htree => exact hp.tree_eq tree htree
  | parsed hnone hlanguage hparse => exact ⟨_, hlanguage, parse_follows hq hparse⟩

/-- An application keeps the tree and the text in step. -/
theorem Application.inStep (h : p.Application m q result p' r) (hq : q.Follows f) (hp : p.InStep f path content) :
    p'.InStep f path content ∧ q.Later r := by
  cases h with
  | failed hfound hlater =>
      refine ⟨⟨hp.language_eq, fun tree htree => ?_, hp.content_eq⟩, hlater⟩
      obtain ⟨q₁, hconsults⟩ := hfound tree htree
      exact hconsults.tree_eq hq hp
  | applied hconsults hfinds hedit hparse =>
      obtain ⟨language, hlanguage, -⟩ := hconsults.tree_eq hq hp
      refine ⟨⟨hp.language_eq, fun tree htree => ⟨language, hlanguage, ?_⟩, fun hnone => ?_⟩,
        hconsults.later.trans (parse_later hparse)⟩
      · rw [hlanguage] at hparse
        cases htree
        exact parse_follows (hq.later hconsults.later) hparse
      · cases hlanguage.symm.trans hnone

theorem apply_inStep (m : Modification) (hq : q.Follows f) (hp : p.InStep f path content) :
    ∃ result p' r, p.apply m q = .ok (result, p') r ∧ p'.InStep f path content ∧ q.Later r := by
  obtain ⟨result, p', r, happly, hcases⟩ := p.apply_cases m q
  exact ⟨result, p', r, happly, hcases.inStep hq hp⟩

theorem applyFrom_inStep (index count : Nat) (hq : q.Follows f) (hp : p.InStep f path content) :
    ∃ result p' r, p.applyFrom index count q = .ok (result, p') r ∧ p'.InStep f path content ∧ q.Later r := by
  induction count generalizing p q index with
  | zero => exact ⟨_, p, q, rfl, hp, Parsers.Later.refl q⟩
  | succ count ih =>
      rw [applyFrom]
      cases p.modifications[index]? with
      | none => exact ⟨_, p, q, rfl, hp, Parsers.Later.refl q⟩
      | some m =>
          obtain ⟨result, p₁, q₁, happly, hp₁, hlater⟩ := apply_inStep m hq hp
          simp only [bind_of_ok happly]
          cases result.success with
          | false => exact ⟨_, p₁, q₁, rfl, hp₁, hlater⟩
          | true =>
              obtain ⟨result', p', r, hrun, hp', hlater'⟩ := ih (index + 1) (hq.later hlater) hp₁
              exact ⟨result', p', r, hrun, hp', hlater.trans hlater'⟩

/-- Formatting gives the text of the formatter if it has one, and changes nothing
otherwise. -/
theorem format_cases (p : Patcher) (formatter : Formatter) : p.format formatter = pure p ∨
    ∃ language c t, p.language = some language ∧ formatter language p.content = .ok (some (c :: t)) ∧
      p.format formatter = p.reformat language (c :: t) := by
  unfold format
  split
  next => exact Or.inl rfl
  next language hlanguage =>
    split
    next c t hformat => exact Or.inr ⟨language, c, t, hlanguage, hformat, rfl⟩
    next => exact Or.inl rfl

/-- Formatting keeps the tree and the text in step if the parse of what the formatter
gives does not fail. -/
theorem format_inStep (formatter : Formatter) (hq : q.Follows f) (hp : p.InStep f path content) :
    ∃ p' r, p.format formatter q = .ok p' r ∧ q.Later r ∧
      ((∀ language c t, p.language = some language → formatter language p.content = .ok (some (c :: t)) →
        ∃ found r, parse language (c :: t) q = .ok found r) → p'.InStep f path content) := by
  rcases p.format_cases formatter with hformat | ⟨language, c, t, hlanguage, htext, hformat⟩
  · rw [hformat]
    exact ⟨p, q, rfl, Parsers.Later.refl q, fun _ => hp⟩
  · rw [hformat, reformat]
    rcases parse_cases language (c :: t) q with ⟨found, r, hparse, hlater⟩ | ⟨e, r, hparse, hlater⟩
    · simp only [hparse]
      refine ⟨_, r, rfl, hlater, fun _ => ⟨hp.language_eq, fun tree htree => ⟨language, hlanguage, ?_⟩, fun hnone => ?_⟩⟩
      · cases htree
        exact parse_follows hq hparse
      · cases hlanguage.symm.trans hnone
    · simp only [hparse]
      refine ⟨_, r, rfl, hlater, fun hreparses => ?_⟩
      obtain ⟨found, r', hfound⟩ := hreparses language c t hlanguage htext
      cases hfound.symm.trans hparse

theorem applyAll_inStep (formatter : Formatter) (hq : q.Follows f) (hp : p.InStep f path content) :
    ∃ result p' r, p.applyAll formatter q = .ok (result, p') r ∧ q.Later r ∧
      (p.Reparses q (.applyAll formatter) → p'.InStep f path content) := by
  unfold applyAll
  split
  next => exact ⟨_, p, q, rfl, Parsers.Later.refl q, fun _ => hp⟩
  next hsome =>
    obtain ⟨result, p₁, q₁, hrun, hp₁, hlater⟩ := applyFrom_inStep 0 p.modifications.length hq hp
    rw [bind_of_ok hrun]
    dsimp only
    split
    next hsuccess =>
      obtain ⟨p', r, hformat, hlater', hp'⟩ := format_inStep formatter (hq.later hlater) hp₁
      refine ⟨_, p', r, bind_of_ok hformat, hlater.trans hlater', fun hreparses => hp' fun language c t => ?_⟩
      exact hreparses result p₁ q₁ language c t (by simpa using hsome) hrun hsuccess
    next => exact ⟨_, p₁, q₁, rfl, hlater, fun _ => hp₁⟩

/-! ## Registering and looking up -/

theorem InStep.withModifications (hp : p.InStep f path content) (ms : List Modification) :
    { p with modifications := ms }.InStep f path content := ⟨hp.language_eq, hp.tree_eq, hp.content_eq⟩

/-- To register something changes nothing but the modifications. -/
theorem registerGiven_eq {n : Option Node} {text suggestions : Json}
    (h : p.registerGiven n text suggestions = .ok (m, p')) : p' = p.add m := by
  cases n with
  | none => cases h
  | some n =>
      obtain ⟨m', -, h⟩ := except_bind_eq_ok.1 h
      cases h
      rfl

theorem registerImportsGiven_eq {text suggestions : Json} {found : Option Modification}
    (h : p.registerImportsGiven text suggestions = .ok (found, p')) :
    ∃ ms, p' = { p with modifications := ms } := by
  unfold registerImportsGiven at h
  split at h
  next imports =>
    obtain ⟨⟨found', p₁⟩, hregister, h⟩ := except_bind_eq_ok.1 h
    cases found' with
    | some m =>
        obtain ⟨m', -, h⟩ := except_bind_eq_ok.1 h
        cases h
        exact ⟨_, rfl⟩
    | none =>
        cases h
        unfold registerImports at hregister
        split at hregister
        next =>
          cases hregister
          exact ⟨_, rfl⟩
        next =>
          obtain ⟨point, -, hregister⟩ := except_bind_eq_ok.1 hregister
          cases hregister
  next =>
    split at h
    next => cases h
    next =>
      cases h
      exact ⟨_, rfl⟩

/-- What is only worked out from the patcher does not touch the parsers. -/
theorem recover_inStep {P : Prop} {x : Except Fault Patcher} (hp : p.InStep f path content)
    (hx : ∀ p', x = .ok p' → p'.InStep f path content) :
    ∃ p' r, recover p (lift x) q = .ok p' r ∧ q.Later r ∧ (P → p'.InStep f path content) := by
  cases x with
  | ok p' => exact ⟨p', q, rfl, Parsers.Later.refl q, fun _ => hx p' rfl⟩
  | error e => exact ⟨p, q, rfl, Parsers.Later.refl q, fun _ => hp⟩

theorem looked_inStep {P : Prop} {α : Type} {x : Except Fault α} (hp : p.InStep f path content) :
    ∃ p' r, recover p (lift (x.map fun _ => p)) q = .ok p' r ∧ q.Later r ∧ (P → p'.InStep f path content) := by
  refine recover_inStep hp fun p' h => ?_
  obtain ⟨a, -, rfl⟩ := except_map_eq_ok.1 h
  exact hp

/-! ## Every operation -/

theorem validate_later (p : Patcher) (q : Parsers) :
    (∃ verdict r, p.validate q = .ok verdict r ∧ q.Later r) ∨ ∃ e r, p.validate q = .error e r ∧ q.Later r := by
  unfold validate
  cases p.language with
  | none => exact Or.inl ⟨_, q, rfl, Parsers.Later.refl q⟩
  | some language =>
      rcases parse_cases language p.content q with ⟨found, r, hparse, hlater⟩ | ⟨e, r, hparse, hlater⟩
      · simp only [hparse]
        cases found with
        | none => exact Or.inl ⟨_, r, rfl, hlater⟩
        | some tree =>
            dsimp only
            cases tree.root with
            | ok root => exact Or.inl ⟨_, r, rfl, hlater⟩
            | error e => exact Or.inr ⟨e, r, rfl, hlater⟩
      · simp only [hparse]
        exact Or.inl ⟨_, r, rfl, hlater⟩

/-- Every operation can be performed, and keeps the tree and the text in step unless
a parse right after formatting fails. -/
theorem perform_inStep (op : Operation) (hq : q.Follows f) (hp : p.InStep f path content) :
    ∃ p' r, p.perform op q = .ok p' r ∧ q.Later r ∧ (p.Reparses q op → p'.InStep f path content) := by
  cases op with
  | node line => exact looked_inStep hp
  | unit line => exact looked_inStep hp
  | find text => exact looked_inStep hp
  | walk => exact looked_inStep hp
  | insertion => exact looked_inStep hp
  | register n text suggestions =>
      refine recover_inStep hp fun p' h => ?_
      obtain ⟨⟨m, p₁⟩, hregister, rfl⟩ := except_map_eq_ok.1 h
      rw [registerGiven_eq hregister]
      exact hp.withModifications _
  | imports text suggestions =>
      refine recover_inStep hp fun p' h => ?_
      obtain ⟨⟨found, p₁⟩, hregister, rfl⟩ := except_map_eq_ok.1 h
      obtain ⟨ms, rfl⟩ := registerImportsGiven_eq hregister
      exact hp.withModifications ms
  | add m => exact ⟨_, q, rfl, Parsers.Later.refl q, fun _ => hp.withModifications _⟩
  | apply m =>
      obtain ⟨result, p', r, happly, hp', hlater⟩ := apply_inStep m hq hp
      exact ⟨p', r, bind_of_ok happly, hlater, fun _ => hp'⟩
  | applyAll formatter =>
      obtain ⟨result, p', r, hrun, hlater, hp'⟩ := applyAll_inStep formatter hq hp
      exact ⟨p', r, bind_of_ok hrun, hlater, hp'⟩
  | validate =>
      rcases p.validate_later q with ⟨verdict, r, hrun, hlater⟩ | ⟨e, r, hrun, hlater⟩
      · exact ⟨p, r, recover_of_ok (bind_of_ok hrun), hlater, fun _ => hp⟩
      · exact ⟨p, r, recover_of_error (bind_of_error hrun), hlater, fun _ => hp⟩

theorem open_inStep (path : String) (content : Text) (hq : q.Follows f) :
    ∃ p r, Patcher.open path content q = .ok p r ∧ p.InStep f path content ∧ q.Later r := by
  unfold Patcher.open Context.treeOf
  cases hlanguage : languageOf? path with
  | none =>
      refine ⟨_, q, rfl, ⟨hlanguage.symm, fun tree htree => ?_, fun _ => rfl⟩, Parsers.Later.refl q⟩
      cases htree
  | some language =>
      rcases parse_cases language content q with ⟨found, r, hparse, hlater⟩ | ⟨e, r, hparse, hlater⟩
      · refine ⟨_, r, bind_of_ok (recover_of_ok hparse),
          ⟨hlanguage.symm, fun tree htree => ⟨language, rfl, ?_⟩, fun _ => rfl⟩, hlater⟩
        cases htree
        exact parse_follows hq hparse
      · refine ⟨_, r, bind_of_ok (recover_of_error hparse),
          ⟨hlanguage.symm, fun tree htree => ?_, fun _ => rfl⟩, hlater⟩
        cases htree

/-- Every patcher that is reached has its tree and its text in step. -/
theorem Reached.inStep (h : Reached path content q p r) (hq : q.Follows f) :
    p.InStep f path content ∧ q.Later r := by
  induction h with
  | opened hopen =>
      obtain ⟨p', r', hopen', hp, hlater⟩ := open_inStep path content hq
      cases hopen.symm.trans hopen'
      exact ⟨hp, hlater⟩
  | performed op hreached hreparses hperform ih =>
      obtain ⟨hp, hlater⟩ := ih
      obtain ⟨p', r', hperform', hlater', hp'⟩ := perform_inStep op (hq.later hlater) hp
      cases hperform.symm.trans hperform'
      exact ⟨hp' hreparses, hlater.trans hlater'⟩

/-- A patcher can always be opened, and every operation can be performed on it.
Whatever fails meanwhile, it has no tree or the tree of its text.  Without a language
it never has a tree, and its text never changes. -/
theorem tree_of_reached (hq : q.Follows f) (path : String) (content : Text) :
    (∃ p r, Patcher.open path content q = .ok p r) ∧
      ∀ p r, Reached path content q p r →
        (p.tree = none ∨
          ∃ language, languageOf? path = some language ∧ p.tree = some (f language p.content)) ∧
        (languageOf? path = none → p.tree = none ∧ p.content = content) ∧
        ∀ op, ∃ p' r', p.perform op r = .ok p' r' := by
  refine ⟨?_, fun p r hreached => ?_⟩
  · obtain ⟨p, r, hopen, -⟩ := open_inStep path content hq
    exact ⟨p, r, hopen⟩
  obtain ⟨hp, hlater⟩ := hreached.inStep hq
  refine ⟨?_, fun hnone => ?_, fun op => ?_⟩
  · cases htree : p.tree with
    | none => exact Or.inl rfl
    | some tree =>
        obtain ⟨language, hlanguage, rfl⟩ := hp.tree_eq tree htree
        exact Or.inr ⟨language, hp.language_eq.symm.trans hlanguage, rfl⟩
  · have hlanguage : p.language = none := hp.language_eq.trans hnone
    refine ⟨?_, hp.content_eq hlanguage⟩
    cases htree : p.tree with
    | none => rfl
    | some tree =>
        obtain ⟨language, hsome, -⟩ := hp.tree_eq tree htree
        cases hlanguage.symm.trans hsome
  · obtain ⟨p', r', hperform, -⟩ := perform_inStep op (hq.later hlater) hp
    exact ⟨p', r', hperform⟩

end

def picky : Parsers where
  lookup _ _ := .found
  outcome _ language t :=
    if t = "y\n".toList then .failed "too short" else .tree (.whole (build language t))

theorem follows_picky : picky.Follows fun language t => .whole (build language t) := by
  intro count language t tree h
  dsimp only [picky] at h
  split at h
  next => cases h
  next =>
    cases h
    rfl

theorem parse_picky {r : Parsers} {language : String} {t : Text} (hr : picky.Later r) (ht : t ≠ "y\n".toList) :
    ∃ found r', parse language t r = .ok found r' := by
  unfold parse runParser
  simp only [hr.lookup_eq, hr.outcome_eq, picky, if_neg ht]
  exact ⟨_, _, rfl⟩

/-- A formatter that gives the same text for every file. -/
def levelling : Formatter := fun _ _ => .ok (some "x = 1\n".toList)

/-- A change of that text to the one that the parsers fail on. -/
def shortening : Modification where
  path := "a.py"
  target := "x = 1".toList
  replacement := "y".toList
  startLine := 1
  endLine := 1
  start := 0
  stop := 5

/-- A file is opened, changed and formatted, and then a change fails. -/
def course : Reading Patcher := do
  let p ← Patcher.open "a.py" greeting
  let p ← p.perform (.add strayed)
  let p ← p.perform (.applyAll levelling)
  p.perform (.apply shortening)

theorem tree_of_reached_picky : picky.Follows (fun language t => .whole (build language t)) ∧
    ∃ p r, course picky = .ok p r ∧ Reached "a.py" greeting picky p r ∧ p.content = "x = 1\n".toList ∧
      p.tree = some (.whole (build "python" "x = 1\n".toList)) := by
  refine ⟨follows_picky, ?_⟩
  have hend : (match course picky with
      | .ok p _ => p.tree.isSome && p.content == "x = 1\n".toList
      | .error _ _ => false) = true := by
    decide +kernel
  cases hrun : course picky with
  | error e r =>
      rw [hrun] at hend
      cases hend
  | ok p r =>
      simp only [hrun, Bool.and_eq_true, beq_iff_eq] at hend
      obtain ⟨hsome, hcontent⟩ := hend
      have hreached : Reached "a.py" greeting picky p r := by
        obtain ⟨p₀, r₀, hopen, h⟩ := bind_eq_ok.1 hrun
        obtain ⟨p₁, r₁, hadd, h⟩ := bind_eq_ok.1 h
        obtain ⟨p₂, r₂, hall, happly⟩ := bind_eq_ok.1 h
        have hreached₁ := (Reached.opened hopen).performed (.add strayed) trivial hadd
        refine (hreached₁.performed (.applyAll levelling) ?_ hall).performed (.apply shortening) trivial happly
        -- The formatted text is not the one that the parsers fail on.
        intro result p₃ r₃ language c t _ hchanged _ _ hformatted
        obtain ⟨hp₁, hlater⟩ := hreached₁.inStep follows_picky
        obtain ⟨_, _, _, hchanged', -, hlater'⟩ := applyFrom_inStep 0 _ (follows_picky.later hlater) hp₁
        cases hchanged.symm.trans hchanged'
        rw [← Option.some.inj (Except.ok.inj hformatted)]
        exact parse_picky (hlater.trans hlater') (by decide)
      obtain ⟨htree, -⟩ := (tree_of_reached follows_picky "a.py" greeting).2 p r hreached
      refine ⟨p, r, rfl, hreached, hcontent, ?_⟩
      rcases htree with hnone | ⟨language, hlanguage, htree⟩
      · rw [hnone] at hsome
        cases hsome
      · have hpython : languageOf? "a.py" = some "python" := by decide +kernel
        cases hlanguage.symm.trans hpython
        rw [htree, hcontent]

end Patcher

end Redline
