import Redline.Diff.ChangedUnit
import Redline.Proofs.Diff.Hunk
import Redline.Proofs.Outline.Steady
import Redline.Proofs.Outline.Units

/-!
# Where the hunks of a unit begin

A changed unit is found by the first line of a hunk, and hunks of one unit are kept
together.  So the lines of a unit hold the first line of each of its hunks: that in the
old file if there was a unit before, and else that in the new file.  The first line of
a hunk need not be changed.  A line that a hunk removes or adds lies in the unit exactly
if the first such line does not stand behind its end (`hunk_begins_in_unit`).
-/

namespace Redline

open Outline (Reading)

/-! ## The code at a line -/

namespace Site

/-- Whether a line is one of those of a site. -/
def holds (s : Site) (line : Nat) : Bool :=
  match s.startLine, s.endLine with
  | .int first, .int last => decide (first ≤ line) && decide ((line : Int) ≤ last)
  | _, _ => false

/-- Whether a line does not stand behind the end of a site. -/
def reaches (s : Site) (line : Nat) : Bool :=
  match s.endLine with
  | .int last => decide ((line : Int) ≤ last)
  | _ => false

theorem holds_iff {s : Site} {line : Nat} : s.holds line = true ↔
    ∃ first last, s.startLine = .int first ∧ s.endLine = .int last ∧ first ≤ line ∧ (line : Int) ≤ last := by
  unfold holds
  constructor
  · intro h
    split at h
    next first last hfirst hlast =>
      rw [Bool.and_eq_true, decide_eq_true_eq, decide_eq_true_eq] at h
      exact ⟨first, last, hfirst, hlast, h⟩
    next => cases h
  · rintro ⟨first, last, hfirst, hlast, h⟩
    rw [hfirst, hlast]
    simp only [Bool.and_eq_true, decide_eq_true_eq]
    exact h

/-- Sites of the same lines hold the same lines. -/
theorem holds_of_same {s s' : Site} {line line' : Nat} (h : s.holds line = true) (h' : s'.holds line' = true)
    (hfirst : (s'.startLine == s.startLine) = true) (hlast : (s'.endLine == s.endLine) = true) :
    s'.holds line = true := by
  obtain ⟨first, last, hs, he, hlines⟩ := holds_iff.1 h
  obtain ⟨first', last', hs', he', -⟩ := holds_iff.1 h'
  rw [hs, hs', Json.beq_int, decide_eq_true_eq] at hfirst
  rw [he, he', Json.beq_int, decide_eq_true_eq] at hlast
  exact holds_iff.2 ⟨first', last', hs', he', hfirst ▸ hlast ▸ hlines⟩

end Site

namespace Context

variable {path : String} {content : Text}

/-- The code that is given for a line holds the line, whatever the parsers do. -/
theorem extract_holds {line : Nat} {e : Excerpt} {p p' : Outline.Parsers} (hpos : line ≠ 0)
    (h : extract path content (.int line) p = .ok (some e) p') :
    e.context.startLine ≤ line ∧ (line : Int) ≤ e.context.endLine := by
  have hwindow : ∀ {q}, lift (window path content (.int line)) q = .ok (some e) p' →
      e.context.startLine ≤ line ∧ (line : Int) ≤ e.context.endLine := by
    intro q hwindow
    obtain ⟨heq, -⟩ := lift_eq_ok.1 hwindow
    rw [window_int] at heq
    obtain ⟨hfirst, hlast⟩ := windowOf_holds (Except.ok.inj heq)
    exact ⟨hfirst (by omega), hlast⟩
  obtain ⟨tree, q, -, h⟩ := bind_eq_ok.1 h
  cases tree with
  | none => exact hwindow h
  | some tree =>
      obtain ⟨unit, r, hunit, h⟩ := bind_eq_ok.1 h
      cases unit with
      | none => exact hwindow h
      | some excerpt =>
          cases h
          obtain ⟨hunit, -⟩ := lift_eq_ok.1 hunit
          obtain ⟨root, refusal⟩ := tree
          cases root with
          | error e => cases hunit
          | ok root =>
              have hin := unitIn_int path content root line
              obtain ⟨n, hn, rfl⟩ := Option.map_eq_some_iff.1 (Except.ok.inj (hin.symm.trans hunit))
              exact Outline.codeUnit?_covers hn

end Context

namespace Diff

/-- Whether a line that a hunk changes is one of those of a unit. -/
def Hunk.touches (k : Hunk) (u : ChangedUnit) : Bool :=
  k.added.any (fun n => u.after.any (·.holds n)) || k.removed.any (fun n => u.before.any (·.holds n))

/-! ## Units and the hunks that they are found by -/

/-- A unit stands on two sides as it is found, and its lines are numbers. -/
structure Found (u : ChangedUnit) (old new : Nat) : Prop where
  some_side : u.before.isSome ∨ u.after.isSome
  /-- The lines before the change hold the first line of the hunk in the old file. -/
  before_holds : ∀ b, u.before = some b → b.holds old = true
  /-- The lines after the change hold the first line of the hunk in the new file. -/
  after_holds : ∀ a, u.after = some a → a.holds new = true

/-- The first line of a hunk lies in a unit, on the side by which units are told
apart. -/
structure Begins (u : ChangedUnit) (old new : Nat) : Prop where
  /-- If there was a unit before the change, its lines hold the first line of the hunk
  in the old file. -/
  before_holds : ∀ b, u.before = some b → b.holds old = true
  /-- Otherwise the lines after the change hold that in the new file. -/
  after_holds : u.before = none → ∃ a, u.after = some a ∧ a.holds new = true

def BelongsTo (u : ChangedUnit) (d : Json) : Prop :=
  ∃ t old new, d = .ofText t ∧ lineNumbers t = .ok (some (old, new)) ∧ Begins u old new

/-- All hunks of a unit begin in it, and it is found by the first of them. -/
structure Sound (u : ChangedUnit) : Prop where
  belongs : ∀ d ∈ u.diffs, BelongsTo u d
  found : ∃ t old new ds, u.diffs = .ofText t :: ds ∧ lineNumbers t = .ok (some (old, new)) ∧ Found u old new

section

variable {path : String} {before after : Option Text} {old new : Nat} {u : ChangedUnit}

theorem Found.begins (h : Found u old new) : Begins u old new := by
  refine ⟨h.before_holds, fun hnone => ?_⟩
  have hafter : u.after.isSome := h.some_side.resolve_left (by rw [hnone]; exact Bool.false_ne_true)
  obtain ⟨a, ha⟩ := Option.isSome_iff_exists.1 hafter
  exact ⟨a, ha, h.after_holds a ha⟩

theorem excerptAt_holds {line : Nat} {content : Option Text} {e : Excerpt} {p p' : Outline.Parsers}
    (h : excerptAt path line content p = .ok (some e) p') : e.context.site.holds line = true := by
  unfold excerptAt at h
  split at h
  next => cases h
  next t =>
    split at h
    next => cases h
    next hcond =>
      have hpos : line ≠ 0 := fun hzero => hcond (by rw [hzero]; simp)
      rcases recover_eq_ok.1 h with h | ⟨h, -⟩
      · have hlines := Context.extract_holds hpos h
        simp only [CodeContext.site, Site.holds, Bool.and_eq_true, decide_eq_true_eq]
        exact hlines
      · cases h

theorem unitAt_found {header : Text} {p p' : Outline.Parsers}
    (h : unitAt header path before after old new p = .ok (some u) p') : Found u old new := by
  obtain ⟨b, p₁, hb, h⟩ := bind_eq_ok.1 h
  obtain ⟨a, p₂, ha, h⟩ := bind_eq_ok.1 h
  split at h
  next => cases h
  next hsome =>
    cases h
    refine ⟨?_, ?_, ?_⟩
    · cases b with
      | some e => exact Or.inl rfl
      | none =>
          cases a with
          | some e => exact Or.inr rfl
          | none => exact absurd rfl hsome
    · intro site hsite
      obtain ⟨e, rfl, rfl⟩ := Option.map_eq_some_iff.1 hsite
      exact excerptAt_holds hb
    · intro site hsite
      obtain ⟨e, rfl, rfl⟩ := Option.map_eq_some_iff.1 hsite
      exact excerptAt_holds ha

theorem unitOfHeader_found {header : Text} {p p' : Outline.Parsers}
    (h : unitOfHeader header path before after p = .ok (some u) p') :
    ∃ old new, lineNumbers header = .ok (some (old, new)) ∧ Found u old new := by
  unfold unitOfHeader at h
  cases hnumbers : lineNumbers header with
  | error e =>
      rw [hnumbers] at h
      cases h
  | ok numbers =>
      rw [hnumbers] at h
      cases numbers with
      | none => cases h
      | some pair => exact ⟨pair.1, pair.2, rfl, unitAt_found h⟩

end

section

variable {u v : ChangedUnit} {old new : Nat}

theorem key_beq {k k' : ChangedUnit.Key} (h : (some k == some k') = true) :
    k.side = k'.side ∧ (k.startLine == k'.startLine) = true ∧ (k.endLine == k'.endLine) = true := by
  have h : (k.side == k'.side && (k.startLine == k'.startLine && k.endLine == k'.endLine)) = true := h
  rw [Bool.and_eq_true, Bool.and_eq_true, beq_iff_eq] at h
  exact h

/-- A hunk begins in a unit of the same key as the one it is found by. -/
theorem Begins.of_key {old' new' : Nat} (h : Begins u old new) (hv : Begins v old' new')
    (hkey : (v.key? == u.key?) = true) : Begins v old new := by
  cases hub : u.before with
  | some b =>
      cases hvb : v.before with
      | some b' =>
          simp only [ChangedUnit.key?, hub, hvb] at hkey
          obtain ⟨-, hfirst, hlast⟩ := key_beq hkey
          have hholds := Site.holds_of_same (h.before_holds b hub) (hv.before_holds b' hvb) hfirst hlast
          refine ⟨fun site hsite => ?_, fun hnone => ?_⟩
          · rw [hvb] at hsite
            cases hsite
            exact hholds
          · rw [hvb] at hnone
            cases hnone
      | none =>
          obtain ⟨a', ha', -⟩ := hv.after_holds hvb
          simp only [ChangedUnit.key?, hub, hvb, ha'] at hkey
          cases (key_beq hkey).1
  | none =>
      obtain ⟨a, ha, hholds⟩ := h.after_holds hub
      cases hvb : v.before with
      | some b' =>
          simp only [ChangedUnit.key?, hub, hvb, ha] at hkey
          cases (key_beq hkey).1
      | none =>
          obtain ⟨a', ha', hholds'⟩ := hv.after_holds hvb
          simp only [ChangedUnit.key?, hub, hvb, ha, ha'] at hkey
          obtain ⟨-, hfirst, hlast⟩ := key_beq hkey
          refine ⟨fun site hsite => ?_, fun _ => ⟨a', ha', Site.holds_of_same hholds hholds' hfirst hlast⟩⟩
          rw [hvb] at hsite
          cases hsite

end

section

variable {u : ChangedUnit} {t : Text} {old new : Nat} {units : List ChangedUnit}

theorem Sound.fresh (hu : Found u old new) (ht : lineNumbers t = .ok (some (old, new))) :
    Sound { u with diffs := [.ofText t] } := by
  have hfound : Found { u with diffs := [.ofText t] } old new := ⟨hu.some_side, hu.before_holds, hu.after_holds⟩
  refine ⟨fun d hd => ?_, t, old, new, [], rfl, ht, hfound⟩
  rw [List.mem_singleton.1 hd]
  exact ⟨t, old, new, rfl, ht, hfound.begins⟩

theorem Sound.addDiff {v : ChangedUnit} (hv : Sound v) (hbegins : Begins v old new)
    (ht : lineNumbers t = .ok (some (old, new))) : Sound (v.addDiff (.ofText t)) := by
  unfold ChangedUnit.addDiff
  split
  next => exact hv
  next =>
    obtain ⟨s, o, n, ds, hdiffs, hs, hfound⟩ := hv.found
    refine ⟨fun d hd => ?_, s, o, n, ds ++ [.ofText t], ?_, hs, ⟨hfound.some_side, hfound.before_holds, hfound.after_holds⟩⟩
    · rcases List.mem_append.1 hd with hd | hd
      · obtain ⟨t', o', n', hd', ht', hbegins'⟩ := hv.belongs d hd
        exact ⟨t', o', n', hd', ht', hbegins'.before_holds, hbegins'.after_holds⟩
      · rw [List.mem_singleton.1 hd]
        exact ⟨t, old, new, rfl, ht, hbegins.before_holds, hbegins.after_holds⟩
    · simp only [hdiffs, List.cons_append]

theorem addChange_sound (hu : Found u old new) (ht : lineNumbers t = .ok (some (old, new)))
    (hunits : ∀ v ∈ units, Sound v) : ∀ v ∈ addChange u (.ofText t) units, Sound v := by
  induction units with
  | nil =>
      intro v hv
      rw [List.mem_singleton.1 hv]
      exact Sound.fresh hu ht
  | cons v units ih =>
      have hv := hunits v List.mem_cons_self
      have hrest := fun x hx => hunits x (List.mem_cons_of_mem v hx)
      simp only [addChange]
      split
      next hkey =>
        obtain ⟨s, o, n, ds, -, -, hfound⟩ := hv.found
        have hbegins := hu.begins.of_key hfound.begins hkey
        intro x hx
        rcases List.mem_cons.1 hx with rfl | hx
        · exact hv.addDiff hbegins ht
        · exact hrest x hx
      next =>
        intro x hx
        rcases List.mem_cons.1 hx with rfl | hx
        · exact hv
        · exact ih hrest x hx

theorem collectFrom_sound {patch : Text} {path : String} {before after : Option Text} (headers : List Text)
    {found : List ChangedUnit} {p p' : Outline.Parsers} (hunits : ∀ v ∈ units, Sound v)
    (h : collectFrom patch path before after headers units p = .ok found p') : ∀ v ∈ found, Sound v := by
  induction headers generalizing units p with
  | nil =>
      cases h
      exact hunits
  | cons header rest ih =>
      obtain ⟨c, p₁, hchange, h⟩ := bind_eq_ok.1 h
      obtain ⟨unit, p₂, hunit, h⟩ := bind_eq_ok.1 h
      cases unit with
      | none => exact ih hunits h
      | some u =>
          obtain ⟨old, new, hnumbers, hfound⟩ := unitOfHeader_found hunit
          have htext := lineNumbers_change (lift_eq_ok.1 hchange).1 hnumbers
          exact ih (addChange_sound hfound htext hunits) h

theorem collect_sound {patch : Text} {path : String} {before after : Option Text} {p p' : Outline.Parsers}
    (h : collect patch path before after p = .ok units p') : ∀ v ∈ units, Sound v := by
  rcases recover_eq_ok.1 h with h | ⟨rfl, -⟩
  · exact collectFrom_sound (headers patch) (fun v hv => absurd hv List.not_mem_nil) h
  · exact fun v hv => absurd hv List.not_mem_nil

end

/-! ## The changed lines of a hunk -/

/-- Of lines from one on that a site holds, some are held exactly if the first does not
stand behind its end. -/
theorem exists_holds_iff {s : Site} {start : Nat} {ns : List Nat} (hstart : s.holds start = true)
    (hns : (start :: ns).Pairwise (· ≤ ·)) :
    (∃ n ∈ ns, s.holds n = true) ↔ ∃ n ∈ ns.head?, s.reaches n = true := by
  obtain ⟨first, last, hfirst, hlast, hlines⟩ := Site.holds_iff.1 hstart
  have hreaches : ∀ n, s.reaches n = true ↔ (n : Int) ≤ last := by
    intro n
    rw [Site.reaches, hlast]
    exact decide_eq_true_iff
  obtain ⟨hge, hsorted⟩ := List.pairwise_cons.1 hns
  cases ns with
  | nil => exact ⟨fun ⟨n, hn, _⟩ => absurd hn List.not_mem_nil, fun ⟨n, hn, _⟩ => nomatch hn⟩
  | cons m ns =>
      constructor
      · rintro ⟨n, hn, hholds⟩
        obtain ⟨first', last', -, hlast', hlines'⟩ := Site.holds_iff.1 hholds
        rw [hlast] at hlast'
        cases hlast'
        have hmn : m ≤ n := by
          rcases List.mem_cons.1 hn with rfl | hn
          · exact Nat.le_refl _
          · exact (List.pairwise_cons.1 hsorted).1 n hn
        exact ⟨m, rfl, (hreaches m).2 (by omega)⟩
      · rintro ⟨n, hn, hreach⟩
        cases hn
        have hm := hge m List.mem_cons_self
        have hle := (hreaches m).1 hreach
        exact ⟨m, List.mem_cons_self, Site.holds_iff.2 ⟨first, last, hfirst, hlast, by omega, hle⟩⟩

section

variable {patch : Text} {path : String} {before after : Option Text} {p p' : Outline.Parsers}
  {units : List ChangedUnit} {u : ChangedUnit} {k : Hunk}

theorem Hunk.touches_of_removed {b : Site} {n : Nat} (hb : u.before = some b) (hn : n ∈ k.removed)
    (h : b.holds n = true) : k.touches u = true := by
  rw [touches, hb, Bool.or_eq_true, List.any_eq_true, List.any_eq_true]
  exact Or.inr ⟨n, hn, h⟩

theorem Hunk.touches_of_added {a : Site} {n : Nat} (ha : u.after = some a) (hn : n ∈ k.added)
    (h : a.holds n = true) : k.touches u = true := by
  rw [touches, ha, Bool.or_eq_true, List.any_eq_true, List.any_eq_true]
  exact Or.inl ⟨n, hn, h⟩

theorem ofText_inj {s t : Text} (h : Json.ofText s = Json.ofText t) : s = t := by
  injection h with h
  exact String.ofList_injective h

/-- Every hunk of a unit begins in it: its first line in the old file is one of the
lines of the unit before the change, and if there was no such unit its first line in the
new file is one of those after it, as it also is for the first hunk of a unit.  So some
line that a hunk removes, or adds, lies in the unit exactly if the first such line does
not stand behind its end, and a hunk touches its unit if that is so on the side by which
the unit is told apart. -/
theorem hunk_begins_in_unit (h : collect patch path before after p = .ok units p') (hu : u ∈ units)
    (hk : .ofText k.shown ∈ u.diffs) :
    (u.before.isSome ∨ u.after.isSome) ∧
      (∀ b, u.before = some b → b.holds k.old = true ∧
        ((∃ n ∈ k.removed, b.holds n = true) ↔ ∃ n ∈ k.removed.head?, b.reaches n = true)) ∧
      (∀ a, u.after = some a → (u.before = none ∨ u.diffs.head? = some (.ofText k.shown)) →
        a.holds k.new = true ∧
          ((∃ n ∈ k.added, a.holds n = true) ↔ ∃ n ∈ k.added.head?, a.reaches n = true)) ∧
      ((∀ b, u.before = some b → ∃ n ∈ k.removed.head?, b.reaches n = true) →
        (u.before = none → ∀ a, u.after = some a → ∃ n ∈ k.added.head?, a.reaches n = true) →
          k.touches u = true) := by
  have hsound := collect_sound h u hu
  obtain ⟨t, old, new, ht, hnumbers, hbegins⟩ := hsound.belongs _ hk
  obtain rfl := ofText_inj ht
  obtain ⟨rfl, rfl⟩ := Hunk.lineNumbers_shown hnumbers
  obtain ⟨t, old, new, ds, hdiffs, hnumbers', hfound⟩ := hsound.found
  have hbefore : ∀ b, u.before = some b → b.holds k.old = true ∧
      ((∃ n ∈ k.removed, b.holds n = true) ↔ ∃ n ∈ k.removed.head?, b.reaches n = true) := by
    intro b hb
    have hholds := hbegins.before_holds b hb
    exact ⟨hholds, exists_holds_iff hholds (Hunk.pairwise_numbersFrom k.lines k.old)⟩
  have hafter : ∀ a, u.after = some a → (u.before = none ∨ u.diffs.head? = some (.ofText k.shown)) →
      a.holds k.new = true ∧ ((∃ n ∈ k.added, a.holds n = true) ↔ ∃ n ∈ k.added.head?, a.reaches n = true) := by
    intro a ha hcases
    have hholds : a.holds k.new = true := by
      rcases hcases with hnone | hhead
      · obtain ⟨a', ha', hholds⟩ := hbegins.after_holds hnone
        rw [ha] at ha'
        cases ha'
        exact hholds
      · rw [hdiffs, List.head?_cons, Option.some.injEq] at hhead
        obtain rfl := ofText_inj hhead
        obtain ⟨rfl, rfl⟩ := Hunk.lineNumbers_shown hnumbers'
        exact hfound.after_holds a ha
    exact ⟨hholds, exists_holds_iff hholds (Hunk.pairwise_numbersFrom k.lines k.new)⟩
  refine ⟨hfound.some_side, hbefore, hafter, fun hremoved hadded => ?_⟩
  cases hb : u.before with
  | some b =>
      obtain ⟨n, hn, hholds⟩ := (hbefore b hb).2.2 (hremoved b hb)
      exact Hunk.touches_of_removed hb hn hholds
  | none =>
      obtain ⟨a, ha, -⟩ := hbegins.after_holds hb
      obtain ⟨n, hn, hholds⟩ := (hafter a ha (Or.inl hb)).2.2 (hadded hb a ha)
      exact Hunk.touches_of_added ha hn hholds

end

/-! ## A hunk that begins outside of what it changes -/

def twoFunctions (last : String) : Text :=
  ("def f():\n    a\n    b\ndef g():\n    c\n    " ++ last ++ "\n").toList

/-- A hunk that changes the second function, with three lines of context. -/
def secondChange : Hunk where
  old := 3
  oldCount := some 4
  new := 3
  newCount := some 4
  lines := [.context "    b".toList, .context "def g():".toList, .context "    c".toList,
    .removed "    d".toList, .added "    e".toList]

/-- The units of the change: their hunks, whether the first line of the hunk is one of
their lines, and whether the hunk touches them. -/
def secondUnits : List (List (Option String) × Bool × Bool) :=
  match collect secondChange.text "a.py" (twoFunctions "d") (twoFunctions "e") Outline.Parsers.sound with
  | .ok units _ => units.map fun u =>
      (u.diffs.map Json.str?, u.before.any (·.holds secondChange.old), secondChange.touches u)
  | .error _ _ => []

theorem secondUnits_eq : secondUnits = [([some (String.ofList secondChange.shown)], true, false)] := by
  decide +kernel

theorem exists_second_unit : ∃ units p u b,
    collect secondChange.text "a.py" (twoFunctions "d") (twoFunctions "e") Outline.Parsers.sound = .ok units p ∧
      u ∈ units ∧ .ofText secondChange.shown ∈ u.diffs ∧ u.before = some b ∧ secondChange.touches u = false := by
  have h := secondUnits_eq
  unfold secondUnits at h
  split at h
  next units p hrun =>
    obtain ⟨u, rfl, hu⟩ := List.map_eq_singleton_iff.1 h
    rw [Prod.mk.injEq, Prod.mk.injEq] at hu
    obtain ⟨d, hdiffs, hd⟩ := List.map_eq_singleton_iff.1 hu.1
    obtain ⟨b, hb, -⟩ := (Option.any_eq_true _ _).1 hu.2.1
    refine ⟨[u], p, u, b, hrun, List.mem_singleton_self u, ?_, hb, hu.2.2⟩
    rw [hdiffs, List.mem_singleton]
    cases d <;> cases hd
    rfl
  next => cases h

/-- A hunk of a correct diff is put to a unit of which it changes no line.  It begins
with lines of context, and the first of them belongs to another function than the one
that is changed. -/
theorem context_of_other_unit :
    Hunk.lead 1 1 [secondChange] (twoFunctions "d").lines (twoFunctions "e").lines = true ∧
      Outline.languageOf? "a.py" = some "python" ∧
      ∃ units p u,
        collect secondChange.text "a.py" (twoFunctions "d") (twoFunctions "e") Outline.Parsers.sound = .ok units p ∧
          u ∈ units ∧ .ofText secondChange.shown ∈ u.diffs ∧ secondChange.touches u = false := by
  obtain ⟨units, p, u, b, hrun, hu, hk, -, htouches⟩ := exists_second_unit
  exact ⟨by decide +kernel, by decide +kernel, units, p, u, hrun, hu, hk, htouches⟩

theorem hunk_begins_in_unit_third : ∃ units p u b,
    collect secondChange.text "a.py" (twoFunctions "d") (twoFunctions "e") Outline.Parsers.sound = .ok units p ∧
      u ∈ units ∧ .ofText secondChange.shown ∈ u.diffs ∧ u.before = some b ∧ b.holds 3 = true := by
  obtain ⟨units, p, u, b, hrun, hu, hk, hb, -⟩ := exists_second_unit
  exact ⟨units, p, u, b, hrun, hu, hk, hb, ((hunk_begins_in_unit hrun hu hk).2.1 b hb).1⟩

end Diff

end Redline
