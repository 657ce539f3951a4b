import Redline.Proofs.Outline.Separation
import Redline.Proofs.Patch.Consistency

/-!
# Files that are checked

A check does not look into an error, so it counts the errors that lie in no other one.
These are the errors with none above them (`topErrors_eq`), and there are none exactly if
no node at all is an error (`topErrors_eq_nil`).  A file with a language is in order
exactly if its text is parsed to a tree without errors, whatever the parsers give for it
(`validate_outermost`).
-/

namespace Redline

/-! ## All places of a tree -/

namespace Outline

/-- What holds of a node if it holds of its children holds of all nodes. -/
theorem Node.of_children {P : Node → Prop} (h : ∀ n, (∀ m ∈ n.children, P m) → P n) : ∀ n, P n
  | ⟨kind, start, stop, first, last, children⟩ => h _ fun m hm =>
      have hlt : sizeOf m < sizeOf (Node.mk kind start stop first last children) := by
        have hchild : sizeOf m < sizeOf children := List.sizeOf_lt_of_mem hm
        rw [Node.mk.sizeOf_spec]
        omega
      of_children h m
termination_by n => sizeOf n
decreasing_by exact hlt

mutual

/-- The places in a node that has some nodes above it, each before those in its
children. -/
def Node.places (above : List Node) : Node → List Place
  | ⟨kind, start, stop, first, last, children⟩ =>
      ⟨⟨kind, start, stop, first, last, children⟩, above⟩
        :: placesOf (⟨kind, start, stop, first, last, children⟩ :: above) children

/-- The places in a list of nodes, one after the other. -/
def placesOf (above : List Node) : List Node → List Place
  | [] => []
  | n :: ns => n.places above ++ placesOf above ns

end

theorem placesOf_eq (above ns : List Node) : placesOf above ns = ns.flatMap (Node.places above) := by
  induction ns with
  | nil => rfl
  | cons n ns ih => rw [placesOf, ih, List.flatMap_cons]

theorem Node.places_eq (above : List Node) (n : Node) :
    n.places above = ⟨n, above⟩ :: n.children.flatMap (Node.places (n :: above)) := by
  obtain ⟨kind, start, stop, first, last, children⟩ := n
  rw [Node.places, placesOf_eq]

/-- Every node has its place. -/
theorem Node.map_places (n : Node) (above : List Node) : (n.places above).map Place.node = n.walk := by
  induction n using Node.of_children generalizing above with
  | h n ih =>
      rw [places_eq, walk_eq, List.map_cons, List.map_flatMap]
      exact congrArg (n :: ·) (List.flatMap_congr fun m hm => ih m hm (n :: above))

/-- The nodes above a place go on with those above the whole tree. -/
theorem Node.suffix_of_mem_places {n : Node} {above : List Node} {p : Place} (h : p ∈ n.places above) :
    above <:+ p.above := by
  induction n using Node.of_children generalizing above with
  | h n ih =>
      rw [places_eq] at h
      rcases List.mem_cons.1 h with rfl | h
      · exact List.suffix_refl _
      · obtain ⟨m, hm, hp⟩ := List.mem_flatMap.1 h
        exact (List.suffix_cons n above).trans (ih m hm hp)

/-- An error with no error above it. -/
def Place.outermost (p : Place) : Bool :=
  p.node.kind = errorKind && p.above.all fun a => a.kind ≠ errorKind

theorem Place.outermost_iff {p : Place} :
    p.outermost = true ↔ p.node.kind = errorKind ∧ ∀ a ∈ p.above, a.kind ≠ errorKind := by
  simp [outermost]

/-- No place below an error is that of an outermost one. -/
theorem filter_places_of_error {n a : Node} {above : List Node} (ha : a ∈ above) (herror : a.kind = errorKind) :
    (n.places above).filter Place.outermost = [] := by
  rw [List.filter_eq_nil_iff]
  intro p hp houter
  exact (Place.outermost_iff.1 houter).2 a ((Node.suffix_of_mem_places hp).subset ha) herror

end Outline

/-! ## The errors that are counted -/

namespace Patcher

open Outline

theorem topErrorsOf_eq (ns : List Node) : topErrorsOf ns = ns.flatMap topErrors := by
  induction ns with
  | nil => rfl
  | cons n ns ih => rw [topErrorsOf, ih, List.flatMap_cons]

theorem topErrors_cases (n : Node) :
    topErrors n = if n.kind = errorKind then [n] else n.children.flatMap topErrors := by
  obtain ⟨kind, start, stop, first, last, children⟩ := n
  rw [topErrors, topErrorsOf_eq]

/-- The errors that are counted are those with no error above them. -/
theorem topErrors_eq (n : Node) {above : List Node} (habove : ∀ a ∈ above, a.kind ≠ errorKind) :
    topErrors n = ((n.places above).filter Place.outermost).map Place.node := by
  induction n using Node.of_children generalizing above with
  | h n ih =>
      rw [topErrors_cases, Node.places_eq]
      split
      next herror =>
        -- below an error all places have it above them, so only its own is left
        have hnone : (n.children.flatMap (Node.places (n :: above))).filter Place.outermost = [] := by
          rw [List.filter_flatMap, List.flatMap_eq_nil_iff]
          exact fun m hm => filter_places_of_error List.mem_cons_self herror
        rw [List.filter_cons_of_pos (Place.outermost_iff.2 ⟨herror, habove⟩), hnone]
        rfl
      next hnot =>
        rw [List.filter_cons_of_neg fun houter => hnot (Place.outermost_iff.1 houter).1, List.filter_flatMap,
          List.map_flatMap]
        exact List.flatMap_congr fun m hm => ih m hm (List.forall_mem_cons.2 ⟨hnot, habove⟩)

theorem topErrors_eq_nil (n : Node) : topErrors n = [] ↔ ∀ m ∈ n.walk, m.kind ≠ errorKind := by
  induction n using Node.of_children with
  | h n ih =>
      rw [topErrors_cases, Node.walk_eq, List.forall_mem_cons]
      split
      next herror => exact iff_of_false (List.cons_ne_nil n []) fun h => h.1 herror
      next hnot =>
        rw [List.flatMap_eq_nil_iff, and_iff_right hnot]
        constructor
        · intro h m hm
          obtain ⟨child, hchild, hm⟩ := List.mem_flatMap.1 hm
          exact (ih child hchild).1 (h child hchild) m hm
        · exact fun h child hchild => (ih child hchild).2 fun m hm => h m (List.mem_flatMap.2 ⟨child, hchild, hm⟩)

/-! ## Checks -/

variable {p : Patcher} {q r : Parsers}

/-- A text in a language can be parsed, and has no errors.  A text without a language is
always in order. -/
def InOrder (language : Option String) (text : Text) (q : Parsers) : Prop :=
  ∀ l, language = some l → ∃ tree root r, parse l text q = .ok (some tree) r ∧ tree.root = .ok root ∧
    topErrors root = []

theorem verdictOn_valid {errors : List Node} : (p.verdictOn errors).valid = true ↔ errors = [] := by
  unfold verdictOn
  cases errors with
  | nil => simp
  | cons n ns => simp

theorem validate_valid_iff :
    (∃ verdict r, p.validate q = .ok verdict r ∧ verdict.valid = true) ↔ InOrder p.language p.content q := by
  unfold InOrder validate
  cases p.language with
  | none => simp
  | some language =>
      simp only [Option.some.injEq, forall_eq']
      cases parse language p.content q with
      | error e r => simp
      | ok tree r =>
          cases tree with
          | none => simp
          | some tree =>
              cases hroot : tree.root with
              | error e => simp [hroot]
              | ok root => simp [hroot, verdictOn_valid]

theorem validate_of_parse {language : String} {tree : Tree} {root : Node} (hlanguage : p.language = some language)
    (hparse : parse language p.content q = .ok (some tree) r) (hroot : tree.root = .ok root) :
    p.validate q = .ok (p.verdictOn (topErrors root)) r := by
  simp only [validate, hlanguage, hparse, hroot]

theorem perform_validate (p : Patcher) (q : Parsers) : ∃ r, p.perform .validate q = .ok p r ∧ q.Later r := by
  rcases p.validate_later q with ⟨verdict, r, hrun, hlater⟩ | ⟨e, r, hrun, hlater⟩
  · exact ⟨r, recover_of_ok (bind_of_ok hrun), hlater⟩
  · exact ⟨r, recover_of_error (bind_of_error hrun), hlater⟩

/-- A file with a language passes the check exactly if its text is parsed to a tree in
which no node is an error.  If there is a tree, the number of errors that is told is that
of the errors with no error above them.  The check leaves the patcher as it is, and the
parsers too but for what they have done. -/
theorem validate_outermost (p : Patcher) (q : Parsers) {language : String} (hlanguage : p.language = some language) :
    ((∃ verdict r, p.validate q = .ok verdict r ∧ verdict.valid = true) ↔
      ∃ tree root r, parse language p.content q = .ok (some tree) r ∧ tree.root = .ok root ∧
        ∀ n ∈ root.walk, n.kind ≠ errorKind) ∧
    (∀ tree root r count, parse language p.content q = .ok (some tree) r → tree.root = .ok root →
      count = (root.places []).countP Place.outermost → (root.places []).map Place.node = root.walk ∧
      ∃ verdict, p.validate q = .ok verdict r ∧ (verdict.valid = true ↔ count = 0) ∧
        (count ≠ 0 → verdict.log.head? = some s!"Found {count} syntax errors in modified code")) ∧
    ∃ r, p.perform .validate q = .ok p r ∧ q.Later r := by
  refine ⟨?_, fun tree root r count hparse hroot hcount => ?_, p.perform_validate q⟩
  · rw [validate_valid_iff, InOrder, hlanguage]
    simp only [Option.some.injEq, forall_eq', topErrors_eq_nil]
  · have hlength : count = (topErrors root).length := by
      rw [hcount, topErrors_eq root (List.forall_mem_nil _), List.length_map, List.countP_eq_length_filter]
    refine ⟨root.map_places [], _, validate_of_parse hlanguage hparse hroot, ?_, fun hne => ?_⟩
    · rw [verdictOn_valid, hlength, List.length_eq_zero_iff]
    · rw [hlength, ne_eq, List.length_eq_zero_iff, ← List.isEmpty_iff] at hne
      rw [verdictOn, if_neg hne, hlength]
      rfl

def ill : Patcher where
  path := "a.py"
  language := some "python"
  content := "a(b)".toList
  tree := none

/-- A tree with an error inside an error, and one more. -/
def nested : Node :=
  let leaf : Node := ⟨errorKind, 0, 1, ⟨0, 0⟩, ⟨0, 1⟩, []⟩
  { leaf with
    kind := rootKind
    children := [{ leaf with children := [leaf] }, { leaf with kind := "block", children := [leaf] }] }

def nestedParsers : Parsers := ⟨fun _ _ => .found, fun _ _ _ => .tree (.whole nested), 0, 0⟩

theorem validate_outermost_nested : ∃ verdict r, ill.validate nestedParsers = .ok verdict r ∧ verdict.valid = false ∧
    verdict.log.head? = some "Found 2 syntax errors in modified code" := by
  obtain ⟨-, hcount, -⟩ := validate_outermost ill nestedParsers rfl
  obtain ⟨-, verdict, hrun, hvalid, hlog⟩ := hcount (.whole nested) nested _ 2 rfl rfl (by decide)
  exact ⟨verdict, _, hrun, by simpa using hvalid, hlog (by decide)⟩

end Patcher

end Redline
