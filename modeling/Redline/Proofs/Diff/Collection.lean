import Redline.Proofs.Distinct
import Redline.Proofs.Diff.Patch
import Redline.Proofs.Diff.Units

/-!
# The changed units of a patch

Every header of a patch that gives a unit is a *finding*: the unit, and the text of the
hunk.  `collect` goes through the findings of a patch in their order, and joins those
that have the same key (`Gathers`).  Nothing is lost, nothing is kept twice, and what a
unit is comes from the first finding of its key.  One more finding keeps all this
(`Joined.step`), and so does a run through all of them (`Joined.run`).

There is a result only if all hunks can be shown.  If a number is too long in any of
them, the patch has no units at all.
-/

namespace Redline

open Outline (Parsers)

namespace Diff

open Outline.Parsers (Gives)

variable {q : Parsers} {patch : Text} {path : String} {before after : Option Text}

theorem exists_excerptAt (hq : q.Steady) (path : String) (line : Nat) (content : Option Text) :
    ∃ e, q.Gives (excerptAt path line content) e := by
  unfold excerptAt
  cases content with
  | none => exact ⟨none, .pure none⟩
  | some t =>
      dsimp only
      split
      next => exact ⟨none, .pure none⟩
      next => exact ⟨_, Gives.recover fun r hr => Context.extract_steady hq hr path t line⟩

theorem exists_unitOfHeader (hq : q.Steady) (header : Text) (path : String) (before after : Option Text) :
    ∃ u, q.Gives (unitOfHeader header path before after) u := by
  unfold unitOfHeader
  split
  next old new _ =>
    obtain ⟨b, hb⟩ := exists_excerptAt hq path old before
    obtain ⟨a, ha⟩ := exists_excerptAt hq path new after
    unfold unitAt
    by_cases hnone : (b.isNone && a.isNone) = true
    · exact ⟨none, hb.bind (ha.bind (by rw [if_pos hnone]; exact .pure none))⟩
    · exact ⟨_, hb.bind (ha.bind (by rw [if_neg hnone]; exact .pure _))⟩
  next => exact ⟨none, .pure none⟩

def unitFor (q : Parsers) (path : String) (before after : Option Text) (header : Text) : Option ChangedUnit :=
  match unitOfHeader header path before after q with
  | .ok u _ => u
  | .error _ _ => none

theorem unitOfHeader_gives (hq : q.Steady) (header : Text) (path : String) (before after : Option Text) :
    q.Gives (unitOfHeader header path before after) (unitFor q path before after header) := by
  obtain ⟨u, hu⟩ := exists_unitOfHeader hq header path before after
  obtain ⟨r, hrun, -⟩ := hu q (.refl q)
  rw [unitFor, hrun]
  exact hu

/-! ## Findings -/

/-- What a header gives: the unit that it is found by, and the text of its hunk. -/
structure Finding where
  unit : ChangedUnit
  text : Text

def findingOf (q : Parsers) (patch : Text) (path : String) (before after : Option Text) (header : Text) :
    Option Finding :=
  match unitFor q path before after header, change patch header with
  | some u, .ok c => some ⟨u, c.text⟩
  | _, _ => none

/-- The findings of a patch, in the order of their headers. -/
def findings (q : Parsers) (patch : Text) (path : String) (before after : Option Text) : List Finding :=
  (headers patch).filterMap (findingOf q patch path before after)

def join (units : List ChangedUnit) (x : Finding) : List ChangedUnit := addChange x.unit (.ofText x.text) units

theorem findingOf_eq_some {header : Text} {x : Finding} (h : findingOf q patch path before after header = some x) :
    ∃ c, unitFor q path before after header = some x.unit ∧ change patch header = .ok c ∧ x.text = c.text := by
  unfold findingOf at h
  split at h
  next u c hu hc =>
    cases h
    exact ⟨c, hu, hc, rfl⟩
  next => cases h

/-- The units of a patch are those of its findings, if all hunks can be shown. -/
theorem collectFrom_gives (hq : q.Steady) {hs : List Text} (hshown : ∀ h ∈ hs, ∃ c, change patch h = .ok c)
    (units : List ChangedUnit) : q.Gives (collectFrom patch path before after hs units)
      ((hs.filterMap (findingOf q patch path before after)).foldl join units) := by
  induction hs generalizing units with
  | nil => exact .pure units
  | cons h hs ih =>
      have ih := ih fun h' hh' => hshown h' (List.mem_cons_of_mem h hh')
      obtain ⟨c, hc⟩ := hshown h List.mem_cons_self
      have hunit := unitOfHeader_gives hq h path before after
      cases hu : unitFor q path before after h with
      | none =>
          have hnone : findingOf q patch path before after h = none := by rw [findingOf, hu]
          rw [hu] at hunit
          rw [List.filterMap_cons_none hnone]
          exact (Gives.lift hc).bind (hunit.bind (ih units))
      | some u =>
          have hsome : findingOf q patch path before after h = some ⟨u, c.text⟩ := by rw [findingOf, hu, hc]
          rw [hu] at hunit
          rw [List.filterMap_cons_some hsome]
          exact (Gives.lift hc).bind (hunit.bind (ih _))

/-- A hunk that cannot be shown ends the collection. -/
theorem collectFrom_error (hq : q.Steady) {hs : List Text} {h : Text} (hh : h ∈ hs)
    (hnot : ¬∃ c, change patch h = .ok c) (units : List ChangedUnit) {r : Parsers} (hr : q.Later r) :
    ∃ e r', collectFrom patch path before after hs units r = .error e r' ∧ q.Later r' := by
  induction hs generalizing units r with
  | nil => cases hh
  | cons h' hs ih =>
      cases hc : change patch h' with
      | error e => exact ⟨e, r, bind_of_error (lift_eq_error.2 ⟨hc, rfl⟩), hr⟩
      | ok c =>
          have hmem : h ∈ hs := by
            rcases List.mem_cons.1 hh with rfl | hmem
            · exact absurd ⟨c, hc⟩ hnot
            · exact hmem
          obtain ⟨r', hunit, hr'⟩ := unitOfHeader_gives hq h' path before after r hr
          rw [collectFrom, bind_of_ok (lift_eq_ok.2 ⟨hc, rfl⟩), bind_of_ok hunit]
          cases unitFor q path before after h' with
          | none => exact ih hmem units hr'
          | some u => exact ih hmem _ hr'

end Diff

/-! ## Keys -/

namespace ChangedUnit

def keyAt (spot : Side × Int × Int) : Key := ⟨spot.1, .int spot.2.1, .int spot.2.2⟩

/-- The side and the lines of a unit, if these are integers. -/
def spot? (u : ChangedUnit) : Option (Side × Int × Int) :=
  match u.key? with
  | some ⟨side, .int first, .int last⟩ => some (side, first, last)
  | _ => none

/-- A unit has a key, and its lines are integers. -/
def Placed (u : ChangedUnit) : Prop := ∃ spot, u.key? = some (keyAt spot)

theorem keyAt_beq (s t : Side × Int × Int) : (keyAt s == keyAt t) = (s == t) := by
  obtain ⟨side, first, last⟩ := s
  obtain ⟨side', first', last'⟩ := t
  show (side == side' && (Json.int first == Json.int first' && Json.int last == Json.int last')) = _
  rw [Json.beq_int, Json.beq_int]
  rfl

theorem map_keyAt_beq (s t : Option (Side × Int × Int)) : (s.map keyAt == t.map keyAt) = (s == t) := by
  cases s with
  | none => cases t <;> rfl
  | some s =>
      cases t with
      | none => rfl
      | some t => exact keyAt_beq s t

variable {u v : ChangedUnit}

theorem Placed.key_eq (hu : u.Placed) : u.key? = u.spot?.map keyAt := by
  obtain ⟨spot, hkey⟩ := hu
  simp [spot?, hkey, keyAt]

theorem Placed.key_beq (hu : u.Placed) (hv : v.Placed) : (u.key? == v.key?) = (u.spot? == v.spot?) := by
  rw [hu.key_eq, hv.key_eq, map_keyAt_beq]

theorem Placed.spot_eq_iff (hu : u.Placed) (hv : v.Placed) : u.spot? = v.spot? ↔ u.key? = v.key? := by
  obtain ⟨⟨side, first, last⟩, hkey⟩ := hu
  obtain ⟨⟨side', first', last'⟩, hkey'⟩ := hv
  simp [spot?, hkey, hkey', keyAt]

/-- One more hunk changes nothing else of a unit. -/
theorem addDiff_eq (v : ChangedUnit) (d : Json) : v.addDiff d = { v with diffs := (v.addDiff d).diffs } := by
  unfold addDiff
  split <;> rfl

theorem addDiff_spot (v : ChangedUnit) (d : Json) : (v.addDiff d).spot? = v.spot? := by rw [addDiff_eq]; rfl

end ChangedUnit

namespace Diff

theorem Found.placed {u : ChangedUnit} {old new : Nat} (h : Found u old new) : u.Placed := by
  cases hb : u.before with
  | some b =>
      obtain ⟨first, last, hfirst, hlast, -⟩ := Site.holds_iff.1 (h.before_holds b hb)
      exact ⟨(.before, first, last), by simp only [ChangedUnit.key?, hb, hfirst, hlast, ChangedUnit.keyAt]⟩
  | none =>
      obtain ⟨a, ha, hholds⟩ := h.begins.after_holds hb
      obtain ⟨first, last, hfirst, hlast, -⟩ := Site.holds_iff.1 hholds
      exact ⟨(.after, first, last), by simp only [ChangedUnit.key?, hb, ha, hfirst, hlast, ChangedUnit.keyAt]⟩

section

variable {q : Parsers} {patch : Text} {path : String} {before after : Option Text}

theorem unitFor_eq_some {header : Text} {u : ChangedUnit} (h : unitFor q path before after header = some u) :
    ∃ r, unitOfHeader header path before after q = .ok (some u) r := by
  unfold unitFor at h
  split at h
  next u' r hrun =>
    cases h
    exact ⟨r, hrun⟩
  next => cases h

theorem placed_of_mem_findings {x : Finding} (hx : x ∈ findings q patch path before after) : x.unit.Placed := by
  obtain ⟨header, -, hfinding⟩ := List.mem_filterMap.1 hx
  obtain ⟨c, hu, -⟩ := findingOf_eq_some hfinding
  obtain ⟨r, hrun⟩ := unitFor_eq_some hu
  obtain ⟨old, new, -, hfound⟩ := unitOfHeader_found hrun
  exact hfound.placed

/-- A header adds to a unit only what is shown of it. -/
theorem unitAt_key {h h' : Text} {old new : Nat} {u u' : ChangedUnit} {p r r' : Parsers}
    (hu : unitAt h path before after old new p = .ok (some u) r)
    (hu' : unitAt h' path before after old new p = .ok (some u') r') : u.key? = u'.key? := by
  obtain ⟨b, p₁, hb, hu⟩ := bind_eq_ok.1 hu
  obtain ⟨a, p₂, ha, hu⟩ := bind_eq_ok.1 hu
  obtain ⟨b', p₁', hb', hu'⟩ := bind_eq_ok.1 hu'
  cases hb.symm.trans hb'
  obtain ⟨a', p₂', ha', hu'⟩ := bind_eq_ok.1 hu'
  cases ha.symm.trans ha'
  split at hu
  next => cases hu
  next hsome =>
    rw [if_neg hsome] at hu'
    cases hu
    cases hu'
    rfl

/-- Headers of the same numbers give units of the same key. -/
theorem key_of_numbers {h h' : Text} {u u' : ChangedUnit} (hu : unitFor q path before after h = some u)
    (hu' : unitFor q path before after h' = some u') (hnumbers : lineNumbers h = lineNumbers h') :
    u.key? = u'.key? := by
  obtain ⟨r, hrun⟩ := unitFor_eq_some hu
  obtain ⟨r', hrun'⟩ := unitFor_eq_some hu'
  unfold unitOfHeader at hrun hrun'
  rw [← hnumbers] at hrun'
  cases hlines : lineNumbers h with
  | error e =>
      rw [hlines] at hrun
      cases hrun
  | ok numbers =>
      rw [hlines] at hrun hrun'
      cases numbers with
      | none => cases hrun
      | some pair => exact unitAt_key hrun hrun'

/-- Findings of the same text have the same key. -/
theorem key_of_text {x y : Finding} (hx : x ∈ findings q patch path before after)
    (hy : y ∈ findings q patch path before after) (htext : x.text = y.text) : x.unit.key? = y.unit.key? := by
  obtain ⟨h, -, hfinding⟩ := List.mem_filterMap.1 hx
  obtain ⟨h', -, hfinding'⟩ := List.mem_filterMap.1 hy
  obtain ⟨c, hu, hc, hct⟩ := findingOf_eq_some hfinding
  obtain ⟨c', hu', hc', hct'⟩ := findingOf_eq_some hfinding'
  obtain ⟨r, hrun⟩ := unitFor_eq_some hu
  obtain ⟨r', hrun'⟩ := unitFor_eq_some hu'
  obtain ⟨old, new, hnumbers, -⟩ := unitOfHeader_found hrun
  obtain ⟨old', new', hnumbers', -⟩ := unitOfHeader_found hrun'
  have hshown := lineNumbers_change hc hnumbers
  have hshown' := lineNumbers_change hc' hnumbers'
  rw [← hct, htext, hct', hshown'] at hshown
  exact key_of_numbers hu hu' (by rw [hnumbers, hnumbers', hshown])

end

/-! ## Joining findings -/

/-- The texts of the findings at a spot, each once. -/
def textsAt (spot : Option (ChangedUnit.Side × Int × Int)) (xs : List Finding) : List Text :=
  ((xs.filter fun x => x.unit.spot? = spot).map Finding.text).eraseDups

/-- What a unit is after some findings. -/
structure Told (xs : List Finding) (v : ChangedUnit) : Prop where
  /-- The first finding of its key tells all but its hunks. -/
  first : ∃ x, xs.find? (fun x => x.unit.spot? = v.spot?) = some x ∧ v = { x.unit with diffs := v.diffs }
  diffs : v.diffs = (textsAt v.spot? xs).map .ofText

/-- What the units are after some findings: one for each key, in the order of the first
findings. -/
structure Joined (xs : List Finding) (units : List ChangedUnit) : Prop where
  spots : units.map ChangedUnit.spot? = (xs.map (·.unit.spot?)).eraseDups
  told : ∀ v ∈ units, Told xs v

/-- A finding joins the unit of its key, or its own unit comes last. -/
theorem join_cases (units : List ChangedUnit) (x : Finding) :
    (∃ a v b, units = a ++ v :: b ∧ (v.key? == x.unit.key?) = true ∧
      join units x = a ++ v.addDiff (.ofText x.text) :: b) ∨
    (∀ v ∈ units, (v.key? == x.unit.key?) = false) ∧
      join units x = units ++ [{ x.unit with diffs := [.ofText x.text] }] := by
  unfold join
  induction units with
  | nil => exact Or.inr ⟨fun v hv => absurd hv List.not_mem_nil, rfl⟩
  | cons w units ih =>
      rw [addChange]
      split
      next hkey => exact Or.inl ⟨[], w, units, rfl, hkey, rfl⟩
      next hkey =>
        rcases ih with ⟨a, v, b, rfl, hv, heq⟩ | ⟨hnone, heq⟩
        · exact Or.inl ⟨w :: a, v, b, rfl, hv, by rw [heq]; rfl⟩
        · refine Or.inr ⟨List.forall_mem_cons.2 ⟨Bool.eq_false_iff.2 hkey, hnone⟩, by rw [heq]; rfl⟩

theorem contains_ofText (ts : List Text) (t : Text) : (ts.map Json.ofText).contains (.ofText t) = ts.contains t := by
  induction ts with
  | nil => rfl
  | cons s ts ih =>
      rw [List.map_cons, List.contains_cons, List.contains_cons, ih]
      congr 1
      rw [Json.ofText, Json.ofText, Json.beq_str, Bool.eq_iff_iff, beq_iff_eq, beq_iff_eq]
      exact ⟨fun h => String.ofList_injective h, congrArg _⟩

section

variable {xs : List Finding} {units : List ChangedUnit} {x : Finding} {spot : Option (ChangedUnit.Side × Int × Int)}

theorem addDiff_texts {v : ChangedUnit} {ts : List Text} (h : v.diffs = ts.eraseDups.map .ofText) (t : Text) :
    (v.addDiff (.ofText t)).diffs = (ts ++ [t]).eraseDups.map .ofText := by
  unfold ChangedUnit.addDiff
  rw [h, contains_ofText]
  by_cases ht : t ∈ ts
  · rw [if_pos (by simpa using ht), h, eraseDups_concat_of_mem ht]
  · rw [if_neg (by simpa using ht), eraseDups_concat ht, List.map_append]
    rfl

theorem mem_textsAt {t : Text} : t ∈ textsAt spot xs ↔ ∃ x ∈ xs, x.unit.spot? = spot ∧ x.text = t := by
  simp [textsAt, and_assoc]

theorem textsAt_of_ne (h : x.unit.spot? ≠ spot) : textsAt spot (xs ++ [x]) = textsAt spot xs := by
  simp [textsAt, h]

theorem textsAt_of_eq (h : x.unit.spot? = spot) :
    textsAt spot (xs ++ [x]) = (((xs.filter fun y => y.unit.spot? = spot).map Finding.text) ++ [x.text]).eraseDups := by
  simp [textsAt, h]

/-- A unit stays as it is if the next finding has another key. -/
theorem Told.skip {v : ChangedUnit} (h : Told xs v) (hne : x.unit.spot? ≠ v.spot?) : Told (xs ++ [x]) v := by
  obtain ⟨y, hfind, heq⟩ := h.first
  exact ⟨⟨y, by rw [List.find?_append, hfind, Option.some_or], heq⟩, by rw [textsAt_of_ne hne, h.diffs]⟩

/-- A unit takes the text of the next finding of its key. -/
theorem Told.add {v : ChangedUnit} (h : Told xs v) (heq : x.unit.spot? = v.spot?) :
    Told (xs ++ [x]) (v.addDiff (.ofText x.text)) := by
  obtain ⟨y, hfind, hy⟩ := h.first
  constructor
  · refine ⟨y, by rw [ChangedUnit.addDiff_spot, List.find?_append, hfind, Option.some_or], ?_⟩
    rw [ChangedUnit.addDiff_eq]
    rw [hy]
  · rw [ChangedUnit.addDiff_spot, textsAt_of_eq heq]
    exact addDiff_texts h.diffs x.text

theorem Told.new (hnew : x.unit.spot? ∉ xs.map (·.unit.spot?)) :
    Told (xs ++ [x]) { x.unit with diffs := [.ofText x.text] } := by
  have hne : ∀ y ∈ xs, y.unit.spot? ≠ x.unit.spot? := fun y hy heq => hnew (List.mem_map.2 ⟨y, hy, heq⟩)
  constructor
  · refine ⟨x, ?_, rfl⟩
    show (xs ++ [x]).find? (fun y => y.unit.spot? = x.unit.spot?) = some x
    rw [List.find?_append, List.find?_eq_none.2 fun y hy => by simpa using hne y hy, Option.none_or]
    simp
  · show [Json.ofText x.text] = (textsAt x.unit.spot? (xs ++ [x])).map .ofText
    rw [textsAt_of_eq rfl, List.filter_eq_nil_iff.2 fun y hy => by simpa using hne y hy]
    rfl

theorem Joined.placed (h : Joined xs units) (hxs : ∀ y ∈ xs, y.unit.Placed) : ∀ v ∈ units, v.Placed := by
  intro v hv
  obtain ⟨y, hfind, heq⟩ := (h.told v hv).first
  obtain ⟨spot, hkey⟩ := hxs y (List.mem_of_find?_eq_some hfind)
  exact ⟨spot, by rw [heq]; exact hkey⟩

theorem Joined.mem_spots (h : Joined xs units) :
    spot ∈ xs.map (·.unit.spot?) ↔ spot ∈ units.map ChangedUnit.spot? := by
  rw [h.spots, List.mem_eraseDups]

theorem Joined.nodup (h : Joined xs units) : (units.map ChangedUnit.spot?).Nodup := h.spots ▸ nodup_eraseDups _

/-- One more finding keeps what the units are. -/
theorem Joined.step (h : Joined xs units) (hxs : ∀ y ∈ xs, y.unit.Placed) (hx : x.unit.Placed) :
    Joined (xs ++ [x]) (join units x) := by
  have hplaced := h.placed hxs
  rcases join_cases units x with ⟨a, v, b, rfl, hkey, heq⟩ | ⟨hnone, heq⟩ <;> rw [heq]
  · -- the finding joins the unit of its key, and the other units have other keys
    have hv : v ∈ a ++ v :: b := List.mem_append_cons_self
    rw [(hplaced v hv).key_beq hx, beq_iff_eq] at hkey
    obtain ⟨hout, -⟩ := List.nodup_cons.1 ((List.perm_middle.map ChangedUnit.spot?).nodup_iff.1 h.nodup)
    constructor
    · rw [List.map_append, List.map_cons, ChangedUnit.addDiff_spot, ← List.map_cons, ← List.map_append, h.spots,
        List.map_append]
      exact (eraseDups_concat_of_mem (h.mem_spots.2 (List.mem_map.2 ⟨v, hv, hkey⟩))).symm
    · intro w hw
      rcases List.mem_cons.1 (List.perm_middle.mem_iff.1 hw) with rfl | hw
      · exact (h.told v hv).add hkey.symm
      · refine (h.told w (List.perm_middle.mem_iff.2 (List.mem_cons_of_mem v hw))).skip fun hsame => hout ?_
        exact List.mem_map.2 ⟨w, hw, hsame.symm.trans hkey.symm⟩
  · -- the finding is the first of its key
    have hnew : x.unit.spot? ∉ xs.map (·.unit.spot?) := fun hmem => by
      obtain ⟨v, hv, hsame⟩ := List.mem_map.1 (h.mem_spots.1 hmem)
      have hne := hnone v hv
      rw [(hplaced v hv).key_beq hx, beq_eq_false_iff_ne] at hne
      exact hne hsame
    constructor
    · rw [List.map_append, h.spots, List.map_append]
      exact (eraseDups_concat hnew).symm
    · intro w hw
      rcases List.mem_append.1 hw with hw | hw
      · exact (h.told w hw).skip fun hsame => hnew (h.mem_spots.2 (List.mem_map.2 ⟨w, hw, hsame.symm⟩))
      · rw [List.mem_singleton.1 hw]
        exact .new hnew

theorem Joined.run (h : Joined xs units) {ys : List Finding} (hplaced : ∀ y ∈ xs ++ ys, y.unit.Placed) :
    Joined (xs ++ ys) (ys.foldl join units) := by
  induction ys generalizing xs units with
  | nil => rwa [List.append_nil]
  | cons y ys ih =>
      rw [List.append_cons] at hplaced ⊢
      refine ih (h.step (fun z hz => hplaced z ?_) (hplaced y ?_)) hplaced
      · simp [hz]
      · simp

/-- How units hold findings.  Nothing is lost, and nothing is kept twice. -/
structure Gathers (xs : List Finding) (units : List ChangedUnit) : Prop where
  distinct : units.Pairwise fun v w => v.key? ≠ w.key?
  /-- The keys are in the order of their first findings. -/
  keys : units.map ChangedUnit.key? = (xs.map (·.unit.key?)).eraseDups
  /-- The text of a finding is in the unit of its key, and in no other. -/
  held : ∀ x ∈ xs, ∃ v ∈ units, v.key? = x.unit.key? ∧ .ofText x.text ∈ v.diffs ∧
    ∀ w ∈ units, .ofText x.text ∈ w.diffs → w = v
  /-- A unit has no other texts. -/
  only : ∀ v ∈ units, ∀ d ∈ v.diffs, ∃ x ∈ xs, x.unit.key? = v.key? ∧ d = .ofText x.text
  once : ∀ v ∈ units, v.diffs.Nodup
  /-- All else of a unit is as in the first finding of its key. -/
  first : ∀ v ∈ units, ∃ as x bs, xs = as ++ x :: bs ∧ x.unit.key? = v.key? ∧ (∀ y ∈ as, y.unit.key? ≠ v.key?) ∧
    v = { x.unit with diffs := v.diffs }

theorem Joined.keys_eq (h : Joined xs units) (hxs : ∀ x ∈ xs, x.unit.Placed) :
    units.map ChangedUnit.key? = (xs.map (·.unit.key?)).eraseDups := by
  calc units.map ChangedUnit.key?
    _ = (units.map ChangedUnit.spot?).map (Option.map ChangedUnit.keyAt) := by
        rw [List.map_map]
        exact List.map_congr_left fun v hv => (h.placed hxs v hv).key_eq
    _ = ((xs.map (·.unit.spot?)).map (Option.map ChangedUnit.keyAt)).eraseDups := by
        rw [h.spots, eraseDups_map ChangedUnit.map_keyAt_beq]
    _ = (xs.map (·.unit.key?)).eraseDups := by
        rw [List.map_map]
        exact congrArg _ (List.map_congr_left fun x hx => (hxs x hx).key_eq.symm)

theorem Joined.distinct (h : Joined xs units) (hxs : ∀ x ∈ xs, x.unit.Placed) :
    units.Pairwise fun v w => v.key? ≠ w.key? := by
  have hplaced := h.placed hxs
  refine (List.pairwise_map.1 h.nodup).imp_of_mem fun hv hw hne heq => hne ?_
  exact ((hplaced _ hv).spot_eq_iff (hplaced _ hw)).2 heq

theorem Joined.only (h : Joined xs units) (hxs : ∀ x ∈ xs, x.unit.Placed) {v : ChangedUnit} (hv : v ∈ units)
    {d : Json} (hd : d ∈ v.diffs) : ∃ x ∈ xs, x.unit.key? = v.key? ∧ d = .ofText x.text := by
  rw [(h.told v hv).diffs] at hd
  obtain ⟨t, ht, rfl⟩ := List.mem_map.1 hd
  obtain ⟨x, hx, hspot, rfl⟩ := mem_textsAt.1 ht
  exact ⟨x, hx, ((hxs x hx).spot_eq_iff (h.placed hxs v hv)).1 hspot, rfl⟩

/-- The text of a finding is in one unit, if all findings of the text have one key. -/
theorem Joined.held (h : Joined xs units) (hxs : ∀ x ∈ xs, x.unit.Placed)
    (htext : ∀ x ∈ xs, ∀ y ∈ xs, x.text = y.text → x.unit.key? = y.unit.key?) (hx : x ∈ xs) :
    ∃ v ∈ units, v.key? = x.unit.key? ∧ .ofText x.text ∈ v.diffs ∧
      ∀ w ∈ units, .ofText x.text ∈ w.diffs → w = v := by
  have hplaced := h.placed hxs
  obtain ⟨v, hv, hspot⟩ := List.mem_map.1 (h.mem_spots.1 (List.mem_map_of_mem hx))
  have hkey := ((hplaced v hv).spot_eq_iff (hxs x hx)).1 hspot
  refine ⟨v, hv, hkey, ?_, fun w hw hin => ?_⟩
  · rw [(h.told v hv).diffs]
    exact List.mem_map_of_mem (mem_textsAt.2 ⟨x, hx, hspot.symm, rfl⟩)
  · obtain ⟨y, hy, hykey, hsame⟩ := h.only hxs hw hin
    have hxkey := htext x hx y hy (ofText_inj hsame)
    refine List.inj_on_of_nodup_map h.nodup hw hv ?_
    rw [(hplaced w hw).spot_eq_iff (hplaced v hv), hkey, hxkey, hykey]

theorem Joined.first (h : Joined xs units) (hxs : ∀ x ∈ xs, x.unit.Placed) {v : ChangedUnit} (hv : v ∈ units) :
    ∃ as x bs, xs = as ++ x :: bs ∧ x.unit.key? = v.key? ∧ (∀ y ∈ as, y.unit.key? ≠ v.key?) ∧
      v = { x.unit with diffs := v.diffs } := by
  have hplaced := h.placed hxs v hv
  obtain ⟨x, hfind, heq⟩ := (h.told v hv).first
  obtain ⟨hspot, as, bs, rfl, hearlier⟩ := List.find?_eq_some_iff_append.1 hfind
  refine ⟨as, x, bs, rfl, ?_, fun y hy hkey => ?_, heq⟩
  · exact ((hxs x (by simp)).spot_eq_iff hplaced).1 (of_decide_eq_true hspot)
  · have hne := hearlier y hy
    have hsame := ((hxs y (by simp [hy])).spot_eq_iff hplaced).2 hkey
    simp [hsame] at hne

/-- Findings that are joined are gathered, if all findings of a text have one key. -/
theorem Joined.gathers (h : Joined xs units) (hxs : ∀ x ∈ xs, x.unit.Placed)
    (htext : ∀ x ∈ xs, ∀ y ∈ xs, x.text = y.text → x.unit.key? = y.unit.key?) : Gathers xs units where
  distinct := h.distinct hxs
  keys := h.keys_eq hxs
  held _ hx := h.held hxs htext hx
  only _ hv _ hd := h.only hxs hv hd
  once v hv := by
    rw [(h.told v hv).diffs]
    exact (nodup_eraseDups _).map fun _ _ => ofText_inj
  first _ hv := h.first hxs hv

end

/-! ## The changed units -/

section

variable {q : Parsers} {patch : Text} {path : String} {before after : Option Text}

theorem collect_of_legible (hq : q.Steady) (hlegible : ∀ h ∈ headers patch, Legible patch h) :
    q.Gives (collect patch path before after) ((findings q patch path before after).foldl join []) :=
  (collectFrom_gives hq (fun h hh => exists_change_iff.2 (hlegible h hh)) []).recover

theorem collect_of_not_legible (hq : q.Steady) {h : Text} (hh : h ∈ headers patch) (hnot : ¬Legible patch h) :
    q.Gives (collect patch path before after) [] := fun r hr => by
  obtain ⟨e, r', hrun, hr'⟩ := collectFrom_error hq hh (fun hc => hnot (exists_change_iff.1 hc)) [] hr
  exact ⟨r', recover_of_error hrun, hr'⟩

theorem findings_gather (q : Parsers) (patch : Text) (path : String) (before after : Option Text) :
    Gathers (findings q patch path before after) ((findings q patch path before after).foldl join []) := by
  have hnone : Joined [] [] := ⟨rfl, fun v hv => absurd hv List.not_mem_nil⟩
  exact (hnone.run fun _ => placed_of_mem_findings).gathers (fun _ => placed_of_mem_findings)
    fun _ hx _ hy => key_of_text hx hy

theorem mem_findings {h : Text} (hh : h ∈ headers patch) (hlegible : Legible patch h) {u : ChangedUnit}
    (hu : unitFor q path before after h = some u) :
    ∃ c, change patch h = .ok c ∧ ⟨u, c.text⟩ ∈ findings q patch path before after := by
  obtain ⟨c, hc⟩ := exists_change_iff.2 hlegible
  exact ⟨c, hc, List.mem_filterMap.2 ⟨h, hh, by rw [findingOf, hu, hc]⟩⟩

end

/-- The unit of a header does not depend on the headers before it.  If all hunks of a
patch can be shown, then every header that gives a unit gives a finding, and the units
of the patch gather the findings.  If one cannot, then the patch has no units. -/
theorem collect_gathers {q : Parsers} (hq : q.Steady) (patch : Text) (path : String) (before after : Option Text) :
    (∀ h, q.Gives (unitOfHeader h path before after) (unitFor q path before after h)) ∧
      ∃ units, q.Gives (collect patch path before after) units ∧
        ((∀ h ∈ headers patch, Legible patch h) →
          (∀ h ∈ headers patch, ∀ u, unitFor q path before after h = some u →
            ∃ c, change patch h = .ok c ∧ ⟨u, c.text⟩ ∈ findings q patch path before after) ∧
          Gathers (findings q patch path before after) units) ∧
        ∀ h ∈ headers patch, ¬Legible patch h → units = [] := by
  refine ⟨fun h => unitOfHeader_gives hq h path before after, ?_⟩
  by_cases hlegible : ∀ h ∈ headers patch, Legible patch h
  · exact ⟨_, collect_of_legible hq hlegible,
      fun _ => ⟨fun h hh u hu => mem_findings hh (hlegible h hh) hu, findings_gather q patch path before after⟩,
      fun h hh hnot => absurd (hlegible h hh) hnot⟩
  · obtain ⟨h, hh, hnot⟩ : ∃ h ∈ headers patch, ¬Legible patch h := by simpa using hlegible
    exact ⟨[], collect_of_not_legible hq hh hnot, fun hall => absurd hall hlegible, fun _ _ _ => rfl⟩

/-- A patch with two hunks of one unit, and a header that stands in it twice. -/
def mixedPatch : Text := "@@ -1 +1 @@\n+a\n@@ -5 +5 @@\n+b\n@@ -3 +3 @@\n+c\n@@ -1 +1 @@\n+d".toList

def mixedFile : Text := "def f():\n    a\n    b\n\nx = 1\n".toList

theorem collect_gathers_mixedPatch : (∀ h ∈ headers mixedPatch, Legible mixedPatch h) ∧
    ∃ units, Parsers.sound.Gives (collect mixedPatch "a.py" (some mixedFile) (some mixedFile)) units ∧
      Gathers (findings .sound mixedPatch "a.py" (some mixedFile) (some mixedFile)) units ∧
      units.map (fun v => (v.spot?, v.diffs.length)) = [(some (.before, 1, 3), 2), (some (.before, 5, 5), 1)] := by
  have hshown : ∀ h ∈ headers mixedPatch, (change mixedPatch h).toOption.isSome = true := by decide +kernel
  have hlegible : ∀ h ∈ headers mixedPatch, Legible mixedPatch h := by
    intro h hh
    have hsome := hshown h hh
    cases hc : change mixedPatch h with
    | error e =>
        rw [hc] at hsome
        cases hsome
    | ok c => exact exists_change_iff.1 ⟨c, hc⟩
  obtain ⟨-, units, hgives, hgathers, -⟩ :=
    collect_gathers Outline.Parsers.faultless_sound.steady mixedPatch "a.py" (some mixedFile) (some mixedFile)
  refine ⟨hlegible, units, hgives, (hgathers hlegible).2, ?_⟩
  obtain ⟨r, hrun, -⟩ := hgives .sound (.refl _)
  have hunits : ((collect mixedPatch "a.py" (some mixedFile) (some mixedFile)).run' .sound).map
      (fun units => units.map fun v => (v.spot?, v.diffs.length)) =
        some [(some (.before, 1, 3), 2), (some (.before, 5, 5), 1)] := by
    decide +kernel
  delta EStateM.run' EStateM.run at hunits
  rw [hrun] at hunits
  exact Option.some.inj hunits

def firstHunk : Hunk where
  old := 1
  new := 1
  lines := [.added "a".toList]

/-- A hunk with the largest number that can be read, and one more line. -/
def lastHunk : Hunk where
  old := 9
  new := Nat.pow 10 Text.maxDigits - 1
  lines := [.added "b".toList, .added "c".toList]

def overflow : List Hunk := [firstHunk, lastHunk]

theorem overflow_plain : ∀ k ∈ overflow, k.Plain := by
  have htail : ∀ k ∈ overflow, '\n' ∉ k.tail := by simp [overflow, firstHunk, lastHunk]
  have hcontent : ∀ k ∈ overflow, ∀ l ∈ k.lines, '\n' ∉ l.content := by
    simp [overflow, firstHunk, lastHunk, Line.content]
  exact fun k hk => ⟨htail k hk, hcontent k hk⟩

theorem overflow_markless : ∀ k ∈ overflow, k.Markless := by
  have hlines : ∀ l ∈ overflow.flatMap Hunk.lines, nextHeader? l.text = none := by decide
  exact fun k hk l hl => nextHeader?_eq_none.1 (hlines l (List.mem_flatMap.2 ⟨k, hk, hl⟩))

theorem lastHunk_lines : (Text.strip lastHunk.text).lines.tail = ["+b".toList, "+c".toList] := by
  have htrim : Text.trimRight (lastHunk.tail ++ opened (lastHunk.lines.map Line.text)) Text.isBlank =
      '\n' :: "+b\n+c".toList := by decide
  have hstrip : Text.strip lastHunk.text = lastHunk.mark ++ '\n' :: "+b\n+c".toList := by
    rw [Hunk.text_eq, Hunk.header, List.append_assoc, Hunk.mark, strip_mark, htrim]
  rw [hstrip, Text.lines_append lastHunk.isMark_mark.not_mem]
  decide

theorem lastHunk_not_allShort : ¬lastHunk.AllShort := by
  intro h
  have hwritten := h.written
  rw [lastHunk_lines] at hwritten
  have hlong : ¬Short (Nat.pow 10 Text.maxDigits - 1 + 1) := by decide +kernel
  exact hlong (hwritten _ (List.mem_cons_of_mem _ List.mem_cons_self))

theorem lastHunk_not_legible : ¬Legible (patchText overflow) lastHunk.header := by
  have hsorted : ([firstHunk] ++ lastHunk :: []).Pairwise fun j k => j.old < k.old := by decide
  have htail : ¬HoldsMark firstHunk.header.tail := nextHeader?_eq_none.1 (by decide +kernel)
  have hearlier : ∀ l ∈ [firstHunk].flatMap Hunk.texts, ¬lastHunk.header <:+: l :=
    not_infix_earlier hsorted (List.forall_mem_singleton.2 ⟨overflow_markless _ (by simp [overflow]), htail⟩)
  intro h
  have hmem : lastHunk ∈ overflow := by simp [overflow]
  exact lastHunk_not_allShort
    (allShort_of_legible (overflow_plain _ hmem) hearlier (overflow_markless _ hmem) h)

/-- The numbers in the headers of a patch can be read and its first hunk gives a unit, but
the patch has no units, since a line of the second hunk cannot get its number. -/
theorem collect_empty :
    (∀ h ∈ headers (patchText overflow), ∀ old new rest, readHeader h = some (old, new, rest) →
      old.length ≤ Text.maxDigits ∧ new.length ≤ Text.maxDigits) ∧
    firstHunk.header ∈ headers (patchText overflow) ∧
    (unitFor .sound "a.py" (some ['x']) (some ['x']) firstHunk.header).isSome = true ∧
    change (patchText overflow) firstHunk.header = .ok ⟨"@@ -1 +1 @@\n+1: a".toList, 1, 1⟩ ∧
    ∃ r, collect (patchText overflow) "a.py" (some ['x']) (some ['x']) .sound = .ok [] r := by
  have hheaders := (headers_patchText_iff overflow_plain).2 overflow_markless
  have hfirst : firstHunk ∈ overflow := List.mem_cons_self
  have hlast : lastHunk ∈ overflow := List.mem_cons_of_mem _ List.mem_cons_self
  refine ⟨?_, hheaders ▸ List.mem_map_of_mem hfirst, by decide +kernel, ?_, ?_⟩
  · have hshort : ∀ k ∈ overflow, Short k.old ∧ Short k.new := by decide +kernel
    rw [hheaders, List.forall_mem_map]
    intro k hk old new rest hread
    rw [k.readHeader_header] at hread
    cases hread
    exact hshort k hk
  · have hshort : firstHunk.AllShort := ⟨by decide +kernel, by decide +kernel, by decide +kernel⟩
    have hshown : firstHunk.shown = "@@ -1 +1 @@\n+1: a".toList := by decide +kernel
    rw [← hshown]
    exact (@change_patchText_iff [] [lastHunk] firstHunk (overflow_plain _ hfirst) (by simp)).2
      ⟨overflow_markless _ hfirst, hshort⟩
  · have hmem : lastHunk.header ∈ headers (patchText overflow) := hheaders ▸ List.mem_map_of_mem hlast
    obtain ⟨r, hrun, -⟩ :=
      collect_of_not_legible Outline.Parsers.faultless_sound.steady hmem lastHunk_not_legible .sound (.refl _)
    exact ⟨r, hrun⟩

end Diff

end Redline
