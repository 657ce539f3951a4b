import Redline.Proofs.Forge.Frame
import Redline.Proofs.Outline.Steady

/-!
# What the changed units of a file depend on

The changed units of a file are found by requests that open the pull request, by the texts
of the file and by parses of these texts.  Two worlds that agree on all this give the file
the same units, whatever else happens in them (`changedUnits_tracks`).  In particular it
makes no difference which other files there are, what stands in them and whether requests
for them fail.

To say so the operation is run twice, from worlds that look the same.  A `View` says which
states do, and how they may change in the meantime.  An operation `Tracks` a view if it has
the same outcome in states that look the same.
-/

namespace Redline

/-! ## Views -/

/-- How a state may change as time passes. -/
structure Passage (σ : Type) where
  onward : σ → σ → Prop
  refl : ∀ s, onward s s
  trans : ∀ {s t u}, onward s t → onward t u → onward s u

/-- What can be seen of a state that changes as time passes. -/
structure View (σ : Type) extends Passage σ where
  same : σ → σ → Prop
  lasting : ∀ {s s' t t'}, same s t → onward s s' → onward t t' → same s' t'

section

variable {σ α : Type}

/-- An operation moves the state onward, whatever comes of it. -/
def Passage.Moves (p : Passage σ) (x : EStateM Fault σ α) : Prop := ∀ s o t, attempt x s = .ok o t → p.onward s t

/-- An operation moves the state onward, and states that look the same give the same
outcome. -/
structure View.Tracks (v : View σ) (x : EStateM Fault σ α) : Prop where
  moves : v.toPassage.Moves x
  agrees : ∀ s t, v.same s t → ∃ o s' t', attempt x s = .ok o s' ∧ attempt x t = .ok o t'

end

section

variable {σ α β : Type} {p : Passage σ} {v : View σ} {x : EStateM Fault σ α} {f : α → EStateM Fault σ β}

namespace Passage.Moves

theorem of_ok {a : α} {s t : σ} (h : p.Moves x) (hrun : x s = .ok a t) : p.onward s t :=
  h s _ t (attempt_eq_ok.2 hrun)

theorem of_error {e : Fault} {s t : σ} (h : p.Moves x) (hrun : x s = .error e t) : p.onward s t :=
  h s _ t (attempt_eq_error.2 hrun)

theorem pure (a : α) : p.Moves (Pure.pure a) := by
  intro s o t h
  cases h
  exact p.refl s

theorem throw (e : Fault) : p.Moves (MonadExcept.throw e : EStateM Fault σ α) := by
  intro s o t h
  cases h
  exact p.refl s

theorem lift (y : Except Fault α) : p.Moves (Redline.lift y) := by
  intro s o t h
  cases y <;> cases h <;> exact p.refl s

theorem bind (hx : p.Moves x) (hf : ∀ a, p.Moves (f a)) : p.Moves (x >>= f) := by
  intro s o u hrun
  cases h : x s with
  | error e t =>
      rw [attempt, bind_of_error h] at hrun
      cases hrun
      exact hx.of_error h
  | ok a t =>
      rw [attempt, bind_of_ok h] at hrun
      exact p.trans (hx.of_ok h) (hf a t o u hrun)

theorem recover (hx : p.Moves x) (fallback : α) : p.Moves (Redline.recover fallback x) := by
  intro s o t hrun
  cases o with
  | error e => exact absurd (attempt_eq_error.1 hrun) (recover_ne_error _ _ _ _ _)
  | ok a =>
      rcases recover_eq_ok.1 (attempt_eq_ok.1 hrun) with hok | ⟨-, e, herror⟩
      · exact hx.of_ok hok
      · exact hx.of_error herror

end Passage.Moves

namespace View.Tracks

theorem pure (a : α) : v.Tracks (Pure.pure a) := ⟨.pure a, fun s t _ => ⟨.ok a, s, t, rfl, rfl⟩⟩

theorem throw (e : Fault) : v.Tracks (MonadExcept.throw e : EStateM Fault σ α) :=
  ⟨.throw e, fun s t _ => ⟨.error e, s, t, rfl, rfl⟩⟩

theorem lift (y : Except Fault α) : v.Tracks (Redline.lift y) :=
  ⟨.lift y, fun s t _ => ⟨y, s, t, by cases y <;> rfl, by cases y <;> rfl⟩⟩

/-- The second operation has to track the view only after results that the first one can
have in states that are the same as some other. -/
theorem bind_of {P : α → Prop} (hx : v.Tracks x) (hmoves : ∀ a, v.toPassage.Moves (f a))
    (hresult : ∀ s t a s', v.same s t → x s = .ok a s' → P a) (hf : ∀ a, P a → v.Tracks (f a)) :
    v.Tracks (x >>= f) := by
  refine ⟨hx.moves.bind hmoves, fun s t hsame => ?_⟩
  obtain ⟨o, s', t', hs, ht⟩ := hx.agrees s t hsame
  have hlater := v.lasting hsame (hx.moves s o s' hs) (hx.moves t o t' ht)
  cases o with
  | error e =>
      refine ⟨.error e, s', t', ?_, ?_⟩
      · rw [attempt, bind_of_error (attempt_eq_error.1 hs)]
      · rw [attempt, bind_of_error (attempt_eq_error.1 ht)]
  | ok a =>
      have hrun := attempt_eq_ok.1 hs
      obtain ⟨o, s'', t'', hs', ht'⟩ := (hf a (hresult s t a s' hsame hrun)).agrees s' t' hlater
      refine ⟨o, s'', t'', ?_, ?_⟩
      · rw [attempt, bind_of_ok hrun]
        exact hs'
      · rw [attempt, bind_of_ok (attempt_eq_ok.1 ht)]
        exact ht'

theorem bind (hx : v.Tracks x) (hf : ∀ a, v.Tracks (f a)) : v.Tracks (x >>= f) :=
  bind_of (P := fun _ => True) hx (fun a => (hf a).moves) (fun _ _ _ _ _ _ => trivial) fun a _ => hf a

theorem recover (hx : v.Tracks x) (fallback : α) : v.Tracks (Redline.recover fallback x) := by
  refine ⟨hx.moves.recover fallback, fun s t hsame => ?_⟩
  obtain ⟨o, s', t', hs, ht⟩ := hx.agrees s t hsame
  cases o with
  | ok a =>
      exact ⟨.ok a, s', t', attempt_eq_ok.2 (recover_of_ok (attempt_eq_ok.1 hs)),
        attempt_eq_ok.2 (recover_of_ok (attempt_eq_ok.1 ht))⟩
  | error e =>
      exact ⟨.ok fallback, s', t', attempt_eq_ok.2 (recover_of_error (attempt_eq_error.1 hs)),
        attempt_eq_ok.2 (recover_of_error (attempt_eq_error.1 ht))⟩

/-- In states that look the same an operation gives the same result. -/
theorem result_eq {a b : α} {s s' t t' : σ} (hx : v.Tracks x) (hsame : v.same s t) (hs : x s = .ok a s')
    (ht : x t = .ok b t') : a = b := by
  obtain ⟨o, s'', t'', hs', ht'⟩ := hx.agrees s t hsame
  rw [attempt_eq_ok.2 hs] at hs'
  rw [attempt_eq_ok.2 ht] at ht'
  cases hs'
  cases ht'
  rfl

end View.Tracks

end

open Outline

/-! ## Parsers -/

namespace Outline.Parsers

/-- Two collections of parsers treat some texts in the same way, at any time. -/
structure AgreeOn (T : Text → Prop) (q r : Parsers) : Prop where
  lookup : ∀ m n language, q.lookup m language = r.lookup n language
  outcome : ∀ m n language t, T t → q.outcome m language t = r.outcome n language t

theorem AgreeOn.later {T : Text → Prop} {q q' r r' : Parsers} (h : q.AgreeOn T r) (hq : q.Later q')
    (hr : r.Later r') : q'.AgreeOn T r' where
  lookup m n language := by rw [hq.lookup_eq, hr.lookup_eq, h.lookup m n]
  outcome m n language t ht := by rw [hq.outcome_eq, hr.outcome_eq, h.outcome m n language t ht]

def passage : Passage Parsers := ⟨Later, Later.refl, Later.trans⟩

/-- The view of parsers by what they do with some texts. -/
def view (T : Text → Prop) : View Parsers where
  toPassage := passage
  same := AgreeOn T
  lasting := AgreeOn.later

end Outline.Parsers

open Outline.Parsers (view)

section

variable {T : Text → Prop}

theorem parse_tracks (language : String) {t : Text} (ht : T t) : (view T).Tracks (parse language t) := by
  constructor
  · intro q o q' hrun
    rcases parse_cases language t q with ⟨tree, r, heq, hlater⟩ | ⟨e, r, heq, hlater⟩
    all_goals
      rw [attempt, heq] at hrun
      cases hrun
      exact hlater
  · intro q r hsame
    unfold attempt parse runParser
    rw [hsame.lookup q.looked r.looked]
    cases r.lookup r.looked language with
    | absent => exact ⟨_, _, _, rfl, rfl⟩
    | failed reason => exact ⟨_, _, _, rfl, rfl⟩
    | found =>
        simp only [hsame.outcome q.parsed r.parsed language t ht]
        cases r.outcome r.parsed language t <;> exact ⟨_, _, _, rfl, rfl⟩

theorem Context.extract_tracks (path : String) {t : Text} (ht : T t) (line : Json) :
    (view T).Tracks (extract path t line) := by
  have htree : (view T).Tracks (treeOf path t) := by
    unfold treeOf
    cases languageOf? path with
    | none => exact .pure none
    | some language => exact (parse_tracks language ht).recover none
  refine htree.bind fun tree => ?_
  cases tree with
  | none => exact .lift _
  | some tree =>
      refine (View.Tracks.lift _).bind fun excerpt => ?_
      cases excerpt with
      | none => exact .lift _
      | some e => exact .pure _

namespace Diff

variable {before after : Option Text}

theorem excerptAt_tracks {content : Option Text} (ht : ∀ t ∈ content, T t) (path : String) (line : Nat) :
    (view T).Tracks (excerptAt path line content) := by
  unfold excerptAt
  cases content with
  | none => exact .pure none
  | some t =>
      dsimp only
      split
      next => exact .pure none
      next => exact (Context.extract_tracks path (ht t rfl) _).recover none

theorem unitOfHeader_tracks (hbefore : ∀ t ∈ before, T t) (hafter : ∀ t ∈ after, T t) (header : Text)
    (path : String) : (view T).Tracks (unitOfHeader header path before after) := by
  unfold unitOfHeader
  split
  next old new _ =>
    refine (excerptAt_tracks hbefore path old).bind fun b => (excerptAt_tracks hafter path new).bind fun a => ?_
    split
    next => exact .pure none
    next => exact .pure _
  next => exact .pure none

/-- The units of a patch are found by looking at the texts before and after it. -/
theorem collect_tracks (hbefore : ∀ t ∈ before, T t) (hafter : ∀ t ∈ after, T t) (patch : Text)
    (path : String) : (view T).Tracks (collect patch path before after) := by
  have hfrom : ∀ hs units, (view T).Tracks (collectFrom patch path before after hs units) := by
    intro hs
    induction hs with
    | nil => exact fun units => .pure units
    | cons header rest ih =>
        intro units
        refine (View.Tracks.lift _).bind fun c => (unitOfHeader_tracks hbefore hafter header path).bind fun u => ?_
        cases u with
        | none => exact ih units
        | some u => exact ih _
  exact (hfrom _ []).recover []

end Diff

end

/-! ## The site -/

namespace Forge

/-- Whether a request is made to see a file: it opens the pull request, or asks for the
file. -/
def Request.Shows (path : Json) : Request → Prop
  | .installation _ | .repository _ | .pull .. => True
  | .contents p _ => p = path
  | _ => False

/-- Whether a request posts a comment on a line. -/
def Request.isLineComment : Request → Bool
  | .lineComment .. => true
  | _ => false

/-- Two sites with the same branches, changed files and outages. -/
structure Kept (f g : Forge) : Prop where
  head_eq : g.head = f.head
  base_eq : g.base = f.base
  branches_eq : g.branches = f.branches
  files_eq : g.files = f.files
  outage_eq : g.outage = f.outage

theorem Kept.refl (f : Forge) : f.Kept f := ⟨rfl, rfl, rfl, rfl, rfl⟩

theorem Kept.trans {f g h : Forge} (hf : f.Kept g) (hg : g.Kept h) : f.Kept h :=
  ⟨hg.head_eq.trans hf.head_eq, hg.base_eq.trans hf.base_eq, hg.branches_eq.trans hf.branches_eq,
    hg.files_eq.trans hf.files_eq, hg.outage_eq.trans hf.outage_eq⟩

theorem Kept.entryAt {f g : Forge} (h : f.Kept g) (path branch : Json) :
    g.entryAt path branch = f.entryAt path branch := by
  unfold Forge.entryAt
  rw [h.branches_eq]

end Forge

/-- Time passes in a world.  Labels may change, parsers are run and requests are made, but
nothing is posted on a line. -/
structure World.Onward (w w' : World) : Prop where
  forge : w.forge.Kept w'.forge
  parsers : w.parsers.Later w'.parsers
  reviewer_eq : w'.reviewer = w.reviewer
  log : ∃ new, w'.forge.log = w.forge.log ++ new ∧ ∀ r ∈ new, ¬ r.isLineComment

theorem World.Onward.refl (w : World) : w.Onward w := ⟨.refl _, .refl _, rfl, [], (List.append_nil _).symm, nofun⟩

theorem World.Onward.trans {u v w : World} (h : u.Onward v) (h' : v.Onward w) : u.Onward w := by
  refine ⟨h.forge.trans h'.forge, h.parsers.trans h'.parsers, h'.reviewer_eq.trans h.reviewer_eq, ?_⟩
  obtain ⟨new, hlog, hnew⟩ := h.log
  obtain ⟨more, hlog', hmore⟩ := h'.log
  exact ⟨new ++ more, by rw [hlog', hlog, List.append_assoc], List.forall_mem_append.2 ⟨hnew, hmore⟩⟩

/-- Two worlds show the same of a file.  Its texts are the same on every branch and are
among those that the parsers agree on, and the requests that show the file turn out the
same at any time. -/
structure World.SameFor (path : Json) (T : Text → Prop) (w w' : World) : Prop where
  head : w.forge.head.ref = w'.forge.head.ref
  base : w.forge.base.ref = w'.forge.base.ref
  entry : ∀ branch, w.forge.entryAt path branch = w'.forge.entryAt path branch
  outage : ∀ m n r, r.Shows path → w.forge.outage m r = w'.forge.outage n r
  text : ∀ branch e t, w.forge.entryAt path branch = some e → e.text? = some t → T t
  parsers : w.parsers.AgreeOn T w'.parsers

def World.passage : Passage World := ⟨World.Onward, .refl, .trans⟩

/-- The view of a world by what it shows of a file. -/
def World.fileView (path : Json) (T : Text → Prop) : View World where
  toPassage := World.passage
  same := World.SameFor path T
  lasting {w w₁ w' w₁'} h hw hw' :=
    { head := by rw [hw.forge.head_eq, hw'.forge.head_eq, h.head]
      base := by rw [hw.forge.base_eq, hw'.forge.base_eq, h.base]
      entry := fun branch => by rw [hw.forge.entryAt, hw'.forge.entryAt, h.entry]
      outage := fun m n r hr => by rw [hw.forge.outage_eq, hw'.forge.outage_eq, h.outage m n r hr]
      text := fun branch e t he ht => h.text branch e t ((hw.forge.entryAt path branch).symm.trans he) ht
      parsers := h.parsers.later hw.parsers hw'.parsers }

namespace Session

open World (passage fileView)

variable {α β : Type} {path : Json} {T : Text → Prop}

theorem send_moves (r : Forge.Request) (hr : ¬ r.isLineComment) {change : Forge → Forge}
    (hchange : ∀ g : Forge, g.Kept (change g)) (hlog : ∀ g : Forge, (change g).log = g.log) :
    passage.Moves (send r change) := by
  intro w o w' h
  have hnew : ∀ q ∈ [r], ¬ q.isLineComment := fun q hq => List.mem_singleton.1 hq ▸ hr
  have hlogged : w.forge.Kept { w.forge with log := w.forge.log ++ [r] } := ⟨rfl, rfl, rfl, rfl, rfl⟩
  cases hout : w.forge.outage w.forge.log.length r with
  | none =>
      rw [attempt, send_of_none hout] at h
      cases h
      exact ⟨hlogged.trans (hchange _), .refl _, rfl, [r], hlog _, hnew⟩
  | some reason =>
      rw [attempt, send_of_some hout] at h
      cases h
      exact ⟨hlogged, .refl _, rfl, [r], rfl, hnew⟩

theorem send_id_moves (r : Forge.Request) (hr : ¬ r.isLineComment) : passage.Moves (send r) :=
  send_moves r hr .refl fun _ => rfl

theorem send_labels_moves (r : Forge.Request) (hr : ¬ r.isLineComment) (change : List Json → List Json) :
    passage.Moves (send r fun f => { f with labels := change f.labels }) :=
  send_moves r hr (fun _ => ⟨rfl, rfl, rfl, rfl, rfl⟩) fun _ => rfl

theorem not_isLineComment_of_shows {r : Forge.Request} (hr : r.Shows path) : ¬ r.isLineComment := by
  cases r with
  | lineComment => exact hr.elim
  | _ => exact Bool.false_ne_true

theorem send_tracks {r : Forge.Request} (hr : r.Shows path) : (fileView path T).Tracks (send r) := by
  refine ⟨send_id_moves r (not_isLineComment_of_shows hr), fun w w' hsame => ?_⟩
  have houtage := hsame.outage w.forge.log.length w'.forge.log.length r hr
  cases hout : w'.forge.outage w'.forge.log.length r with
  | none =>
      exact ⟨.ok (), _, _, attempt_eq_ok.2 (send_of_none (houtage.trans hout)), attempt_eq_ok.2 (send_of_none hout)⟩
  | some reason =>
      exact ⟨.error _, _, _, attempt_eq_error.2 (send_of_some (houtage.trans hout)),
        attempt_eq_error.2 (send_of_some hout)⟩

theorem forge_moves : passage.Moves forge := by
  intro w o w' h
  cases h
  exact .refl w

/-- An operation may look at the site if it does the same at sites that show the same of
the file. -/
theorem forge_bind_tracks {k : Forge → Session β} (hk : ∀ f, (fileView path T).Tracks (k f))
    (heq : ∀ w w', World.SameFor path T w w' → k w.forge = k w'.forge) :
    (fileView path T).Tracks (forge >>= k) := by
  refine ⟨forge_moves.bind fun f => (hk f).moves, fun w w' hsame => ?_⟩
  obtain ⟨o, u, u', hw, hw'⟩ := (hk w.forge).agrees w w' hsame
  exact ⟨o, u, u', hw, by rw [heq w w' hsame] at hw'; exact hw'⟩

theorem reading_moves {x : Reading α} (hx : Outline.Parsers.passage.Moves x) : passage.Moves (reading x) := by
  intro w o w' h
  unfold attempt reading at h
  cases hrun : x w.parsers with
  | ok a q =>
      rw [hrun] at h
      cases h
      exact ⟨.refl _, hx.of_ok hrun, rfl, [], (List.append_nil _).symm, nofun⟩
  | error e q =>
      rw [hrun] at h
      cases h
      exact ⟨.refl _, hx.of_error hrun, rfl, [], (List.append_nil _).symm, nofun⟩

theorem reading_tracks {x : Reading α} (hx : (view T).Tracks x) : (fileView path T).Tracks (reading x) := by
  refine ⟨reading_moves hx.moves, fun w w' hsame => ?_⟩
  obtain ⟨o, q, q', hq, hq'⟩ := hx.agrees _ _ hsame.parsers
  cases o with
  | ok a =>
      refine ⟨.ok a, { w with parsers := q }, { w' with parsers := q' }, ?_, ?_⟩
      · rw [attempt_eq_ok, reading, attempt_eq_ok.1 hq]
      · rw [attempt_eq_ok, reading, attempt_eq_ok.1 hq']
  | error e =>
      refine ⟨.error e, { w with parsers := q }, { w' with parsers := q' }, ?_, ?_⟩
      · rw [attempt_eq_error, reading, attempt_eq_error.1 hq]
      · rw [attempt_eq_error, reading, attempt_eq_error.1 hq']

end Session

/-! ## The units of a file -/

namespace Pull

open Session
open World (passage fileView)

variable {T : Text → Prop}

theorem open_tracks (c : PullContext) (path : Json) : (fileView path T).Tracks (Pull.open c) := by
  refine (send_tracks ?_).bind fun _ => (View.Tracks.lift _).bind fun _ =>
    (send_tracks ?_).bind fun _ => send_tracks ?_
  all_goals exact trivial

theorem open_moves (c : PullContext) : passage.Moves (Pull.open c) := (open_tracks (T := fun _ => True) c .null).moves

theorem fileContent_tracks (path branch : Json) : (fileView path T).Tracks (fileContent path branch) := by
  have hsend : (fileView path T).Tracks (send (.contents path branch)) := send_tracks (show path = path from rfl)
  refine (View.Tracks.bind (hsend.bind fun _ => ?_) fun e => .pure _).recover none
  refine forge_bind_tracks (fun f => ?_) fun w w' hsame => ?_
  · cases f.entryAt path branch with
    | none => exact .throw _
    | some e => exact .pure e
  · rw [hsame.entry branch]

/-- The text of a file on one side of a change, where it may be absent. -/
def textOn (absent : Bool) (path branch : Json) : Session (Option Text) :=
  if absent then pure none else fileContent path branch

theorem contentsOf_eq (f : ChangedFile) : contentsOf f = (do
    let site ← forge
    let before ← textOn (f.status == .str "added") f.name site.base.ref
    let after ← textOn (f.status == .str "removed") f.name site.head.ref
    return (before, after)) := by
  unfold contentsOf textOn
  refine congrArg (forge >>= ·) (funext fun site => ?_)
  cases f.status == .str "added" <;> cases f.status == .str "removed" <;> rfl

theorem textOn_tracks (absent : Bool) (path branch : Json) :
    (fileView path T).Tracks (textOn absent path branch) := by
  cases absent with
  | true => exact .pure none
  | false => exact fileContent_tracks path branch

theorem contentsOf_tracks (f : ChangedFile) : (fileView f.name T).Tracks (contentsOf f) := by
  rw [contentsOf_eq]
  refine forge_bind_tracks (fun site => ?_) fun w w' hsame => ?_
  · exact (textOn_tracks _ _ _).bind fun before => (textOn_tracks _ _ _).bind fun after => .pure (before, after)
  · rw [hsame.head, hsame.base]

section

variable {w w' u : World} {path branch : Json} {text : Option Text}

theorem entry_eq_ok {e : Forge.Entry} (h : entry path branch w = .ok e w') :
    w.forge.entryAt path branch = some e := by
  obtain ⟨_, w₁, hsend, hlook⟩ := bind_eq_ok.1 h
  obtain ⟨site, w₂, hforge, hmatch⟩ := bind_eq_ok.1 hlook
  cases hforge
  rw [← ((send_id_moves (.contents path branch) Bool.false_ne_true).of_ok hsend).forge.entryAt]
  cases hfound : w₁.forge.entryAt path branch with
  | none =>
      rw [hfound] at hmatch
      cases hmatch
  | some e' =>
      rw [hfound] at hmatch
      cases hmatch
      rfl

/-- What is found of a file is one of its texts. -/
theorem fileContent_text (hsame : World.SameFor path T w u) (hrun : fileContent path branch w = .ok text w') :
    ∀ t ∈ text, T t := by
  intro t ht
  rcases recover_eq_ok.1 hrun with hrun | ⟨rfl, -⟩
  · obtain ⟨e, w₁, hentry, hpure⟩ := bind_eq_ok.1 hrun
    cases hpure
    exact hsame.text branch e t (entry_eq_ok hentry) ht
  · cases ht

theorem textOn_text {absent : Bool} (hsame : World.SameFor path T w u)
    (hrun : textOn absent path branch w = .ok text w') :
    (∀ t ∈ text, T t) ∧ World.SameFor path T w' u := by
  refine ⟨?_, (fileView path T).lasting hsame ((textOn_tracks _ _ _).moves.of_ok hrun) (.refl u)⟩
  cases absent with
  | true =>
      cases hrun
      nofun
  | false => exact fileContent_text hsame hrun

theorem contentsOf_text {f : ChangedFile} {sides : Option Text × Option Text} (hsame : World.SameFor f.name T w u)
    (hrun : contentsOf f w = .ok sides w') : (∀ t ∈ sides.1, T t) ∧ ∀ t ∈ sides.2, T t := by
  rw [contentsOf_eq] at hrun
  obtain ⟨site, w₀, hforge, hsides⟩ := bind_eq_ok.1 hrun
  cases hforge
  obtain ⟨before, w₁, hbefore, hrest⟩ := bind_eq_ok.1 hsides
  obtain ⟨after, w₂, hafter, hpure⟩ := bind_eq_ok.1 hrest
  cases hpure
  obtain ⟨hbefore, hsame₁⟩ := textOn_text hsame hbefore
  exact ⟨hbefore, (textOn_text hsame₁ hafter).1⟩

end

/-- The changed units of a file with its texts. -/
def unitsBetween (f : ChangedFile) (sides : Option Text × Option Text) : Session (List ChangedUnit) :=
  match f.patch, f.name with
  | .str patch, .str name => reading (Diff.collect patch.toList name sides.1 sides.2)
  | _, _ => return []

theorem unitsOf_eq (c : PullContext) (f : ChangedFile) : unitsOf c f = (do
    Pull.open c
    unitsBetween f (← contentsOf f)) := rfl

theorem unitsBetween_moves (f : ChangedFile) (sides : Option Text × Option Text) :
    passage.Moves (unitsBetween f sides) := by
  unfold unitsBetween
  split
  next =>
    exact reading_moves (Diff.collect_tracks (T := fun _ => True) (fun _ _ => trivial) (fun _ _ => trivial) _ _).moves
  next => exact .pure []

theorem unitsBetween_tracks {path : Json} (f : ChangedFile) {sides : Option Text × Option Text}
    (htexts : (∀ t ∈ sides.1, T t) ∧ ∀ t ∈ sides.2, T t) :
    (fileView path T).Tracks (unitsBetween f sides) := by
  unfold unitsBetween
  split
  next => exact reading_tracks (Diff.collect_tracks htexts.1 htexts.2 _ _)
  next => exact .pure []

/-- The changed units of a file can be seen from what a world shows of the file. -/
theorem changedUnits_tracks (c : PullContext) (f : ChangedFile) :
    (fileView f.name T).Tracks (changedUnits c f) := by
  unfold changedUnits
  split
  next =>
    rw [unitsOf_eq]
    have hunits : (fileView f.name T).Tracks (contentsOf f >>= unitsBetween f) :=
      (contentsOf_tracks f).bind_of (unitsBetween_moves f) (fun _ _ _ _ hsame => contentsOf_text hsame)
        fun _ => unitsBetween_tracks f
    exact ((open_tracks c f.name).bind fun _ => hunits).recover []
  next => exact .pure []

theorem changedUnits_moves (c : PullContext) (f : ChangedFile) : passage.Moves (changedUnits c f) :=
  (changedUnits_tracks (T := fun _ => True) c f).moves

/-- Only a file whose name is a text has units. -/
theorem changedUnits_named (c : PullContext) (f : ChangedFile) :
    Ensures (fun us => us ≠ [] → ∃ name, f.name = .str name) (changedUnits c f) := by
  have hbetween : ∀ sides, Ensures (fun us => us ≠ [] → ∃ name, f.name = .str name) (unitsBetween f sides) := by
    intro sides
    unfold unitsBetween
    split
    next patch name _ hname => exact fun _ _ _ _ _ => ⟨name, hname⟩
    next => exact .pure fun hsome => absurd rfl hsome
  unfold changedUnits
  split
  next =>
    intro w us w' hrun hsome
    rcases recover_eq_ok.1 hrun with hunits | ⟨hnone, -⟩
    · rw [unitsOf_eq] at hunits
      obtain ⟨_, w₁, -, hunits⟩ := bind_eq_ok.1 hunits
      obtain ⟨sides, w₂, -, hunits⟩ := bind_eq_ok.1 hunits
      exact hbetween sides w₂ us w' hunits hsome
    · exact absurd hnone hsome
  next => exact .pure fun hsome => absurd rfl hsome

/-! ## Other operations that post nothing on a line -/

section

variable (c : PullContext)

theorem changedFiles_moves : passage.Moves (changedFiles c) :=
  (open_moves c).bind fun _ => (send_id_moves .files Bool.false_ne_true).bind fun _ =>
    forge_moves.bind fun _ => .pure _

/-- What is told are the changed files of the site. -/
theorem changedFiles_eq_ok {w w' : World} {files : List ChangedFile} (h : changedFiles c w = .ok files w') :
    files = w.forge.files := by
  rw [← ((changedFiles_moves c).of_ok h).forge.files_eq]
  obtain ⟨_, w₁, -, hsend⟩ := bind_eq_ok.1 h
  obtain ⟨_, w₂, -, hforge⟩ := bind_eq_ok.1 hsend
  cases hforge
  rfl

theorem postComment_moves (body : Json) : passage.Moves (postComment c body) :=
  (open_moves c).bind fun _ => send_id_moves (.comment body) Bool.false_ne_true

theorem addLabels_moves (current ls : List Json) : passage.Moves (addLabels current ls) := by
  induction ls with
  | nil => exact .pure ()
  | cons l ls ih =>
      refine (Passage.Moves.lift _).bind fun key => ?_
      split
      next =>
        exact (send_labels_moves (.addLabel l) Bool.false_ne_true (· ++ [l])).bind fun _ => ih
      next => exact ih

theorem removeLabels_moves (current ls : List Json) : passage.Moves (removeLabels current ls) := by
  induction ls with
  | nil => exact .pure ()
  | cons l ls ih =>
      have hremove : passage.Moves (removeLabel l) := by
        refine forge_moves.bind fun f =>
          (send_labels_moves (.removeLabel l) Bool.false_ne_true (·.erase l)).bind fun _ => ?_
        split
        next => exact .throw _
        next => exact .pure ()
      refine (Passage.Moves.lift _).bind fun key => ?_
      split
      next => exact hremove.bind fun _ => ih
      next => exact ih

theorem manageLabels_moves (add remove : Json) : passage.Moves (manageLabels c add remove) := by
  have hlabels : passage.Moves labels :=
    (send_id_moves .labels Bool.false_ne_true).bind fun _ => forge_moves.bind fun _ => .lift _
  refine Passage.Moves.recover (Passage.Moves.bind ?_ fun _ => .pure true) false
  exact (open_moves c).bind fun _ => hlabels.bind fun current =>
    (Passage.Moves.lift _).bind fun added => (addLabels_moves current added).bind fun _ =>
      (Passage.Moves.lift _).bind fun removed => removeLabels_moves current removed

end

end Pull

end Redline
