import Redline.Proofs.Recovery
import Redline.Proofs.Outline.Units
import Redline.Context

/-!
# Parsers that never change their mind

If a lookup and a parse turn out the same whenever they are made, then a file has
one outline or none for as long as its text stays (`outlineOf`).  All that is
asked about a line of the file is then a function of that outline, whoever asks
and however often: the code unit of the line, and the excerpt that shows it.  Parsers
without faults always give the outline of a text.
-/

namespace Redline

open Outline

namespace Outline.Parsers

/-- Lookups and parses turn out the same however many came before, and a tree is
the outline of its text. -/
structure Steady (q : Parsers) : Prop where
  /-- A lookup does not depend on those before. -/
  lookup_eq : ∀ count language, q.lookup count language = q.lookup 0 language
  outcome_eq : ∀ count language t, q.outcome count language t = q.outcome 0 language t
  tree_eq : ∀ language t tree, q.outcome 0 language t = .tree tree → tree = .whole (build language t)

/-- Every lookup finds a parser, and every parse gives the outline of the text. -/
structure Faultless (q : Parsers) : Prop where
  lookup : ∀ count language, q.lookup count language = .found
  outcome : ∀ count language t, q.outcome count language t = .tree (.whole (build language t))

theorem faultless_sound : Parsers.sound.Faultless := ⟨fun _ _ => rfl, fun _ _ _ => rfl⟩

theorem Faultless.steady {q : Parsers} (hq : q.Faultless) : q.Steady where
  lookup_eq count language := by rw [hq.lookup, hq.lookup]
  outcome_eq count language t := by rw [hq.outcome, hq.outcome]
  tree_eq language t tree h := by
    rw [hq.outcome] at h
    cases h
    rfl

/-- The same parsers, after some more lookups and parses. -/
structure Later (q r : Parsers) : Prop where
  lookup_eq : r.lookup = q.lookup
  outcome_eq : r.outcome = q.outcome

theorem Later.refl (q : Parsers) : q.Later q := ⟨rfl, rfl⟩

theorem Later.trans {q r s : Parsers} (h : q.Later r) (h' : r.Later s) : q.Later s :=
  ⟨h'.lookup_eq.trans h.lookup_eq, h'.outcome_eq.trans h.outcome_eq⟩

/-- The outline of a text in a language, if the parsers give one. -/
def outline? (q : Parsers) (language : String) (t : Text) : Option Node :=
  match q.lookup 0 language, q.outcome 0 language t with
  | .found, .tree _ => some (build language t)
  | _, _ => none

-- Irreducible, so that comparing two drafts does not evaluate the language of a path.
/-- The outline of a file, if it has a language and the parsers give one. -/
@[irreducible]
def outlineOf (q : Parsers) (path : String) (content : Text) : Option Node :=
  (languageOf? path).bind fun language => q.outline? language content

theorem Faultless.outlineOf {q : Parsers} (hq : q.Faultless) {path language : String} (content : Text)
    (hlang : languageOf? path = some language) : q.outlineOf path content = some (build language content) := by
  rw [Parsers.outlineOf, hlang, Option.bind_some, outline?, hq.lookup, hq.outcome]

end Outline.Parsers

open Outline.Parsers

theorem parse_cases (language : String) (t : Text) (q : Parsers) :
    (∃ tree r, parse language t q = .ok tree r ∧ q.Later r) ∨
      ∃ e r, parse language t q = .error e r ∧ q.Later r := by
  unfold parse
  cases q.lookup q.looked language with
  | absent => exact Or.inr ⟨_, _, rfl, rfl, rfl⟩
  | failed reason => exact Or.inr ⟨_, _, rfl, rfl, rfl⟩
  | found =>
      simp only [runParser]
      cases q.outcome q.parsed language t with
      | tree tree => exact Or.inl ⟨_, _, rfl, rfl, rfl⟩
      | nothing => exact Or.inl ⟨_, _, rfl, rfl, rfl⟩
      | failed reason => exact Or.inr ⟨_, _, rfl, rfl, rfl⟩

theorem parse_faultless {q : Parsers} (hq : q.Faultless) (language : String) (t : Text) :
    ∃ q', parse language t q = .ok (some (.whole (build language t))) q' ∧ q'.Faultless := by
  refine ⟨{ q with looked := q.looked + 1, parsed := q.parsed + 1 }, ?_, hq.lookup, hq.outcome⟩
  simp only [parse, hq.lookup, runParser, hq.outcome]

/-! ## Operations with one result -/

/-- An operation gives a result, however often the parsers were asked before. -/
def Outline.Parsers.Gives {α : Type} (q : Parsers) (x : Reading α) (a : α) : Prop :=
  ∀ r, q.Later r → ∃ r', x r = .ok a r' ∧ q.Later r'

namespace Outline.Parsers.Gives

variable {α β : Type} {q : Parsers}

theorem pure (a : α) : q.Gives (Pure.pure a) a := fun r hr => ⟨r, rfl, hr⟩

theorem bind {x : Reading α} {f : α → Reading β} {a : α} {b : β} (hx : q.Gives x a) (hf : q.Gives (f a) b) :
    q.Gives (x >>= f) b := fun r hr => by
  obtain ⟨r', hrun, hr'⟩ := hx r hr
  obtain ⟨r'', hrun', hr''⟩ := hf r' hr'
  exact ⟨r'', by rw [bind_of_ok hrun, hrun'], hr''⟩

theorem recover {x : Reading α} {a fallback : α} (hx : q.Gives x a) : q.Gives (recover fallback x) a :=
  fun r hr => by
    obtain ⟨r', hrun, hr'⟩ := hx r hr
    exact ⟨r', recover_of_ok hrun, hr'⟩

theorem lift {x : Except Fault α} {a : α} (hx : x = .ok a) : q.Gives (lift x) a := fun r hr =>
  ⟨r, lift_eq_ok.2 ⟨hx, rfl⟩, hr⟩

end Outline.Parsers.Gives

/-! ## The outline of a file -/

section

variable {q r : Parsers}

theorem parse?_steady (hq : q.Steady) (hr : q.Later r) (language : String) (t : Text) :
    ∃ r', parse? language t r = .ok ((q.outline? language t).map .whole) r' ∧ q.Later r' := by
  have hlookup : r.lookup r.looked language = q.lookup 0 language := by
    rw [hr.lookup_eq, hq.lookup_eq]
  have houtcome : r.outcome r.parsed language t = q.outcome 0 language t := by
    rw [hr.outcome_eq, hq.outcome_eq]
  unfold parse? recover parse runParser outline?
  simp only [hlookup, houtcome]
  cases q.lookup 0 language with
  | absent => exact ⟨_, rfl, hr.lookup_eq, hr.outcome_eq⟩
  | failed reason => exact ⟨_, rfl, hr.lookup_eq, hr.outcome_eq⟩
  | found =>
      cases hout : q.outcome 0 language t with
      | nothing => exact ⟨_, rfl, hr.lookup_eq, hr.outcome_eq⟩
      | failed reason => exact ⟨_, rfl, hr.lookup_eq, hr.outcome_eq⟩
      | tree tree =>
          rw [hq.tree_eq language t tree hout]
          exact ⟨_, rfl, hr.lookup_eq, hr.outcome_eq⟩

theorem treeOf_steady (hq : q.Steady) (hr : q.Later r) (path : String) (content : Text) :
    ∃ r', Context.treeOf path content r = .ok ((q.outlineOf path content).map .whole) r' ∧
      q.Later r' := by
  unfold Context.treeOf outlineOf
  cases languageOf? path with
  | none => exact ⟨r, rfl, hr⟩
  | some language => exact parse?_steady hq hr language content

end

/-! ## The code around a line -/

namespace Context

/-- The window of lines around a line, if there is one. -/
def windowOf (path : String) (content : Text) (line : Int) : Option Excerpt :=
  if content.paragraphs.isEmpty then none else windowAt path content.paragraphs line

theorem window_int (path : String) (content : Text) (line : Int) :
    window path content (.int line) = .ok (windowOf path content line) := by
  unfold window windowOf
  simp only [Json.quantity?]
  split <;> rfl

/-- A window ends behind its own line, and it begins before it if that is a line of a text. -/
theorem windowOf_holds {path : String} {content : Text} {line : Int} {e : Excerpt}
    (h : windowOf path content line = some e) :
    (0 < line → e.context.startLine ≤ line) ∧ line ≤ e.context.endLine := by
  unfold windowOf windowAt at h
  split at h
  next => cases h
  next =>
    split at h
    next => cases h
    next hlast =>
      cases h
      simp only [linesBetween, reach]
      omega

theorem unitIn_int (path : String) (content : Text) (root : Node) (line : Int) :
    unitIn path content (.whole root) (.int line) = .ok ((root.codeUnit? line).map (ofNode path content)) := by
  simp only [unitIn, placeIn, Node.codeUnit?, Option.map_map]
  rfl

/-- The excerpt that shows a line of a file with an outline or without one. -/
def excerptOf (path : String) (content : Text) (root : Option Node) (line : Int) : Option Excerpt :=
  match root.bind (·.codeUnit? line) with
  | some n => some (ofNode path content n)
  | none => windowOf path content line

theorem extract_steady {q r : Parsers} (hq : q.Steady) (hr : q.Later r) (path : String) (content : Text)
    (line : Int) : ∃ r', extract path content (.int line) r =
      .ok (excerptOf path content (q.outlineOf path content) line) r' ∧ q.Later r' := by
  obtain ⟨r', htree, hr'⟩ := treeOf_steady hq hr path content
  refine ⟨r', ?_, hr'⟩
  rw [extract, bind_of_ok htree]
  cases q.outlineOf path content with
  | none => simp only [Option.map_none, window_int, excerptOf]; rfl
  | some root =>
      simp only [Option.map_some, unitIn_int, excerptOf, Option.bind_some]
      cases root.codeUnit? line with
      | none => simp only [Option.map_none, window_int]; rfl
      | some n => rfl

end Context

end Redline
