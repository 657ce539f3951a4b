import Redline.Proofs.Distinct
import Redline.Proofs.Stable
import Redline.Proofs.Outline.Steady
import Redline.Comment

/-!
# Groups of comments

Items that are grouped by a key end up in one group for every key, and every item
is in the group of its key (`Gathered`, and `Grouped` if equal keys are told to be the
same), and none is lost (`groupBy_perm`).  If equal keys are told to be the same, the
groups are those of the keys in the order in which they first come (`groupBy_eq`).  If the
parsers are steady, the comments of a file are grouped by the lines of the excerpt that
shows their line, and each group is put in the order of its lines (`byUnit_gives`).
Whatever the parsers do, every comment is in one group (`byUnit_perm`).
-/

namespace Redline

open Outline Outline.Parsers

/-! ## Groups by a key -/

section

variable {κ α : Type} [BEq κ]

/-- The items are in groups of which no two have the same key, and each group has the key
of one of its items. -/
structure Gathered (key : α → κ) (as : List α) (gs : List (κ × List α)) : Prop where
  /-- The keys of two groups are not the same. -/
  apart : gs.Pairwise fun g g' => (g.1 == g'.1) = false
  led : ∀ g ∈ gs, ∃ a ∈ g.2, key a = g.1
  /-- The other items have the same key. -/
  same : ∀ g ∈ gs, ∀ a ∈ g.2, key a = g.1 ∨ (g.1 == key a) = true
  /-- Only the given items are in a group. -/
  mem : ∀ g ∈ gs, ∀ a ∈ g.2, a ∈ as

/-- An item joins a group that is there or starts one at the end. -/
theorem mem_joinGroup {key : κ} {a : α} {gs : List (κ × List α)} {g : κ × List α}
    (h : g ∈ joinGroup key a gs) :
    g ∈ gs ∨ g = (key, [a]) ∨ ∃ f ∈ gs, (f.1 == key) = true ∧ g = (f.1, f.2 ++ [a]) := by
  induction gs with
  | nil => exact Or.inr (Or.inl (List.mem_singleton.1 h))
  | cons f gs ih =>
      rw [joinGroup] at h
      split at h
      next hkey =>
        rcases List.mem_cons.1 h with rfl | h
        · exact Or.inr (Or.inr ⟨f, List.mem_cons_self, hkey, rfl⟩)
        · exact Or.inl (List.mem_cons_of_mem f h)
      next =>
        rcases List.mem_cons.1 h with rfl | h
        · exact Or.inl List.mem_cons_self
        · rcases ih h with h | h | ⟨f', hf', hkey, h⟩
          · exact Or.inl (List.mem_cons_of_mem f h)
          · exact Or.inr (Or.inl h)
          · exact Or.inr (Or.inr ⟨f', List.mem_cons_of_mem f hf', hkey, h⟩)

/-- Joining adds a key only if it is new. -/
theorem joinGroup_keys (key : κ) (a : α) (gs : List (κ × List α)) :
    (joinGroup key a gs).map (·.1) = gs.map (·.1) ∨
      (joinGroup key a gs).map (·.1) = gs.map (·.1) ++ [key] ∧ ∀ g ∈ gs, (g.1 == key) = false := by
  induction gs with
  | nil => exact Or.inr ⟨rfl, fun g hg => absurd hg List.not_mem_nil⟩
  | cons f gs ih =>
      rw [joinGroup]
      split
      next => exact Or.inl rfl
      next hkey =>
        rcases ih with hmap | ⟨hmap, hnew⟩
        · exact Or.inl (by rw [List.map_cons, hmap, List.map_cons])
        · refine Or.inr ⟨by rw [List.map_cons, hmap, List.map_cons, List.cons_append], fun g hg => ?_⟩
          rcases List.mem_cons.1 hg with rfl | hg
          · exact Bool.eq_false_iff.2 hkey
          · exact hnew g hg

theorem Gathered.join {key : α → κ} {as : List α} {gs : List (κ × List α)} (h : Gathered key as gs) (a : α) :
    Gathered key (as ++ [a]) (joinGroup (key a) a gs) := by
  have hkeys : ((joinGroup (key a) a gs).map (·.1)).Pairwise fun k k' => (k == k') = false := by
    have hold : (gs.map (·.1)).Pairwise fun k k' => (k == k') = false := List.pairwise_map.2 h.apart
    rcases joinGroup_keys (key a) a gs with hmap | ⟨hmap, hnew⟩
    · rw [hmap]
      exact hold
    · rw [hmap, List.pairwise_append]
      refine ⟨hold, List.pairwise_singleton _ _, fun k hk l hl => ?_⟩
      obtain ⟨g, hg, rfl⟩ := List.mem_map.1 hk
      rw [List.mem_singleton.1 hl]
      exact hnew g hg
  refine ⟨List.pairwise_map.1 hkeys, fun g hg => ?_, fun g hg b hb => ?_, fun g hg b hb => ?_⟩
  · rcases mem_joinGroup hg with hg | rfl | ⟨f, hf, -, rfl⟩
    · exact h.led g hg
    · exact ⟨a, List.mem_singleton_self a, rfl⟩
    · obtain ⟨b, hb, heq⟩ := h.led f hf
      exact ⟨b, List.mem_append_left _ hb, heq⟩
  · rcases mem_joinGroup hg with hg | rfl | ⟨f, hf, hkey, rfl⟩
    · exact h.same g hg b hb
    · exact Or.inl (by rw [List.mem_singleton.1 hb])
    · rcases List.mem_append.1 hb with hb | hb
      · exact h.same f hf b hb
      · rw [List.mem_singleton.1 hb]
        exact Or.inr hkey
  · rw [List.mem_append, List.mem_singleton]
    rcases mem_joinGroup hg with hg | rfl | ⟨f, hf, -, rfl⟩
    · exact Or.inl (h.mem g hg b hb)
    · exact Or.inr (List.mem_singleton.1 hb)
    · rcases List.mem_append.1 hb with hb | hb
      · exact Or.inl (h.mem f hf b hb)
      · exact Or.inr (List.mem_singleton.1 hb)

theorem groupBy_gathered (key : α → κ) (as : List α) : Gathered key as (groupBy key as) := by
  have hfold : ∀ (done rest : List α) (gs : List (κ × List α)), Gathered key done gs →
      Gathered key (done ++ rest) (rest.foldl (fun gs a => joinGroup (key a) a gs) gs) := by
    intro done rest
    induction rest generalizing done with
    | nil =>
        intro gs h
        rw [List.append_nil]
        exact h
    | cons a rest ih =>
        intro gs h
        rw [List.append_cons]
        exact ih (done ++ [a]) _ (h.join a)
  exact hfold [] as [] ⟨.nil, fun g hg => absurd hg List.not_mem_nil, fun g hg => absurd hg List.not_mem_nil,
    fun g hg => absurd hg List.not_mem_nil⟩

/-- An item joins one group, and the others stay in theirs. -/
theorem joinGroup_perm (key : κ) (a : α) (gs : List (κ × List α)) :
    ((joinGroup key a gs).flatMap (·.2)).Perm (gs.flatMap (·.2) ++ [a]) := by
  induction gs with
  | nil => exact List.Perm.refl _
  | cons g gs ih =>
      rw [joinGroup]
      split
      next =>
        simp only [List.flatMap_cons, List.append_assoc]
        exact List.perm_append_comm.append_left g.2
      next =>
        simp only [List.flatMap_cons, List.append_assoc]
        exact ih.append_left g.2

theorem groupBy_perm (key : α → κ) (as : List α) : ((groupBy key as).flatMap (·.2)).Perm as := by
  have hfold : ∀ (rest : List α) (gs : List (κ × List α)),
      ((rest.foldl (fun gs a => joinGroup (key a) a gs) gs).flatMap (·.2)).Perm (gs.flatMap (·.2) ++ rest) := by
    intro rest
    induction rest with
    | nil => simp
    | cons a rest ih =>
        intro gs
        rw [List.foldl_cons, List.append_cons]
        exact (ih _).trans ((joinGroup_perm (key a) a gs).append_right rest)
  exact hfold as []

/-- There is one group for every key, and all its items have that key. -/
structure Grouped (key : α → κ) (gs : List (κ × List α)) : Prop where
  /-- No key has two groups. -/
  nodup : (gs.map (·.1)).Nodup
  key_eq : ∀ g ∈ gs, ∀ a ∈ g.2, key a = g.1

theorem Gathered.grouped [LawfulBEq κ] {key : α → κ} {as : List α} {gs : List (κ × List α)}
    (h : Gathered key as gs) : Grouped key gs := by
  constructor
  · rw [List.Nodup, List.pairwise_map]
    exact h.apart.imp fun hne => beq_eq_false_iff_ne.1 hne
  · intro g hg a ha
    exact (h.same g hg a ha).elim id fun hsame => (beq_iff_eq.1 hsame).symm

section

variable [LawfulBEq κ]

theorem joinGroup_of_mem {ks : List κ} (hks : ks.Nodup) (items : κ → List α) {key : κ} (hkey : key ∈ ks) (a : α) :
    joinGroup key a (ks.map fun k => (k, items k)) =
      ks.map fun k => (k, if k == key then items k ++ [a] else items k) := by
  induction ks with
  | nil => cases hkey
  | cons k ks ih =>
      rw [List.nodup_cons] at hks
      rw [List.map_cons, joinGroup, List.map_cons]
      by_cases heq : k = key
      · -- The other keys are not this one, so their groups stay.
        have hrest : ∀ l ∈ ks, (l, items l) = (l, if l == key then items l ++ [a] else items l) := by
          intro l hl
          have hne : ¬(l == key) = true := fun h => hks.1 (by rwa [heq, ← beq_iff_eq.1 h])
          rw [if_neg hne]
        rw [if_pos (beq_iff_eq.2 heq), if_pos (beq_iff_eq.2 heq), List.map_congr_left hrest]
      · rw [if_neg (beq_iff_eq.not.2 heq), if_neg (beq_iff_eq.not.2 heq),
          ih hks.2 ((List.mem_cons.1 hkey).resolve_left (Ne.symm heq))]

theorem joinGroup_of_not_mem {ks : List κ} (items : κ → List α) {key : κ} (hkey : key ∉ ks) (a : α) :
    joinGroup key a (ks.map fun k => (k, items k)) = (ks.map fun k => (k, items k)) ++ [(key, [a])] := by
  induction ks with
  | nil => rfl
  | cons k ks ih =>
      rw [List.mem_cons, not_or] at hkey
      rw [List.map_cons, joinGroup, if_neg (beq_iff_eq.not.2 (Ne.symm hkey.1)), ih hkey.2]
      rfl

/-- There is a group for every key, in the order in which the keys first come, and it has
the items of its key in their order. -/
theorem groupBy_eq (key : α → κ) (as : List α) :
    groupBy key as = (as.map key).eraseDups.map fun k => (k, as.filter (key · == k)) := by
  induction as using List.reverseRecOn with
  | nil => rfl
  | append_singleton as a ih =>
      have hstep : groupBy key (as ++ [a]) = joinGroup (key a) a (groupBy key as) := List.foldl_append
      have hfilter : ∀ k, (as ++ [a]).filter (key · == k) =
          as.filter (key · == k) ++ if k == key a then [a] else [] := by
        intro k
        rw [List.filter_append, List.filter_singleton, Bool.beq_comm, cond_eq_ite]
      rw [hstep, ih, List.map_append, List.map_singleton]
      by_cases hmem : key a ∈ as.map key
      · rw [eraseDups_concat_of_mem hmem, joinGroup_of_mem (nodup_eraseDups _) _ (List.mem_eraseDups.2 hmem)]
        refine List.map_congr_left fun k _ => ?_
        rw [hfilter]
        split
        next => rfl
        next => rw [List.append_nil]
      · rw [eraseDups_concat hmem, joinGroup_of_not_mem _ fun h => hmem (List.mem_eraseDups.1 h), List.map_append]
        congr 1
        · refine List.map_congr_left fun k hk => ?_
          have hne : ¬(k == key a) = true := fun h => hmem (beq_iff_eq.1 h ▸ List.mem_eraseDups.1 hk)
          rw [hfilter, if_neg hne, List.append_nil]
        · have hnone : as.filter (key · == key a) = [] :=
            List.filter_eq_nil_iff.2 fun b hb h => hmem (List.mem_map.2 ⟨b, hb, beq_iff_eq.1 h⟩)
          rw [List.map_singleton, hfilter, hnone, if_pos (beq_self_eq_true _)]
          rfl

end

end

/-- A function that gives a result for every item gives all the results. -/
theorem mapM_eq_ok {α β : Type} {f : α → Except Fault β} {g : α → β} {as : List α}
    (h : ∀ a ∈ as, f a = .ok (g a)) : as.mapM f = .ok (as.map g) := by
  induction as with
  | nil => rfl
  | cons a as ih =>
      rw [List.mapM_cons, h a List.mem_cons_self, ih fun b hb => h b (List.mem_cons_of_mem a hb)]
      rfl

/-- A function that only rearranges the items of lists does so with all of them. -/
theorem mapM_perm {α β : Type} {f : β → Except Fault (List α)} {items : β → List α}
    (hf : ∀ b as, f b = .ok as → as.Perm (items b)) {bs : List β} {ls : List (List α)} (h : bs.mapM f = .ok ls) :
    ls.flatten.Perm (bs.flatMap items) := by
  induction bs generalizing ls with
  | nil =>
      cases h
      exact List.Perm.refl _
  | cons b bs ih =>
      rw [List.mapM_cons] at h
      obtain ⟨as, has, h⟩ := except_bind_eq_ok.1 h
      obtain ⟨rest, hrest, h⟩ := except_bind_eq_ok.1 h
      cases h
      rw [List.flatten_cons, List.flatMap_cons]
      exact (hf b as has).append (ih hrest)

/-! ## The order of lines -/

namespace Comment

def lineNumber (c : Comment) : Int := c.line.count?.getD 0

def Numbered (cs : List Comment) : Prop := ∀ c ∈ cs, c.line = .int c.lineNumber

/-- Comments with integers for lines can be put in their order. -/
theorem inOneOrder_of_numbered {cs : List Comment} (h : Numbered cs) :
    Json.inOneOrder (cs.map (·.line)) = true := by
  induction cs with
  | nil => rfl
  | cons c cs ih =>
      have hcs : Numbered cs := fun d hd => h d (List.mem_cons_of_mem c hd)
      have hfirst : (cs.map (·.line)).all (fun w => (c.line.precedes w).isOk) = true := by
        rw [List.all_map, List.all_eq_true]
        intro d hd
        simp only [Function.comp_apply, h c List.mem_cons_self, hcs d hd]
        rfl
      rw [List.map_cons, Json.inOneOrder, hfirst, ih hcs]
      rfl

theorem notAbove_int (m n : Int) : (Json.int m).notAbove (.int n) = decide (m ≤ n) := by
  simp only [Json.notAbove, Json.precedes, Json.quantity?, Except.toOption, Option.getD_some,
    Number.Quantity.below]
  rw [← decide_not]
  exact decide_eq_decide.2 Int.not_lt

/-- The comments in the order of their lines. -/
def sorted (cs : List Comment) : List Comment := cs.mergeSort fun a b => a.line.notAbove b.line

theorem sortByLine_eq {cs : List Comment} (h : Numbered cs) : sortByLine cs = .ok (sorted cs) := by
  rw [sortByLine, if_pos (inOneOrder_of_numbered h)]
  rfl

theorem sorted_perm (cs : List Comment) : (sorted cs).Perm cs := List.mergeSort_perm _ _

theorem sorted_eq_mergeSort {cs : List Comment} (h : Numbered cs) :
    sorted cs = cs.mergeSort fun a b => a.lineNumber ≤ b.lineNumber := by
  have heq : (sorted cs).map (fun c => c) = (cs.map fun c => c).mergeSort fun a b => a.lineNumber ≤ b.lineNumber :=
    List.map_mergeSort fun a ha b hb => by rw [h a ha, h b hb, notAbove_int]
  rwa [List.map_id', List.map_id'] at heq

/-- In the order of lines the comments of one line keep their order. -/
theorem sorted_stable {cs : List Comment} (h : Numbered cs) : StablySorted lineNumber cs (sorted cs) := by
  rw [sorted_eq_mergeSort h]
  exact mergeSort_stablySorted lineNumber cs

end Comment

/-! ## Groups by code unit -/

namespace Comment

/-- The lines of the excerpt that shows a comment, in a file with an outline or
without one. -/
def linesIn (path : String) (content : Text) (root : Option Node) (c : Comment) : Option (Int × Int) :=
  (Context.excerptOf path content root c.lineNumber).map fun e => (e.context.startLine, e.context.endLine)

section

variable {q r : Parsers} {path : String} {content : Text}

theorem unitLines_steady (hq : q.Steady) (hr : q.Later r) {c : Comment} (hc : c.line = .int c.lineNumber) :
    ∃ r', unitLines path content c r = .ok (c.linesIn path content (q.outlineOf path content)) r' ∧
      q.Later r' := by
  obtain ⟨r', hextract, hr'⟩ := Context.extract_steady hq hr path content c.lineNumber
  refine ⟨r', ?_, hr'⟩
  rw [unitLines, hc, bind_of_ok hextract]
  rfl

theorem joinUnits_steady (hq : q.Steady) (hr : q.Later r) {cs : List Comment} (hcs : Numbered cs)
    (groups : List (Option (Int × Int) × List Comment)) :
    ∃ r', joinUnits path content cs groups r = .ok (cs.foldl (fun gs c =>
      joinGroup (c.linesIn path content (q.outlineOf path content)) c gs) groups) r' ∧ q.Later r' := by
  induction cs generalizing groups r with
  | nil => exact ⟨r, rfl, hr⟩
  | cons c cs ih =>
      obtain ⟨r₁, hfirst, hr₁⟩ : ∃ r₁, unitLines path content c r =
        .ok (c.linesIn path content (q.outlineOf path content)) r₁ ∧ q.Later r₁ :=
          unitLines_steady hq hr (hcs c List.mem_cons_self)
      obtain ⟨r₂, hrest, hr₂⟩ := ih hr₁ (fun d hd => hcs d (List.mem_cons_of_mem c hd))
        (joinGroup (c.linesIn path content (q.outlineOf path content)) c groups)
      refine ⟨r₂, ?_, hr₂⟩
      rw [joinUnits, bind_of_ok hfirst]
      exact hrest

/-- A group of comments that one excerpt shows, in the order of their lines. -/
structure UnitGroup (path : String) (content : Text) (root : Option Node) (cs g : List Comment) : Prop where
  mem : ∀ c ∈ g, c ∈ cs
  same : ∀ c ∈ g, ∀ d ∈ g, c.linesIn path content root = d.linesIn path content root
  ordered : g.Pairwise fun c d => c.lineNumber ≤ d.lineNumber

/-- The first comment of a group has the least line. -/
theorem UnitGroup.first_le {root : Option Node} {cs g : List Comment} (h : UnitGroup path content root cs g)
    {first : Comment} (hfirst : g.head? = some first) : ∀ c ∈ g, first.lineNumber ≤ c.lineNumber := by
  intro c hc
  cases g with
  | nil => cases hfirst
  | cons a g =>
      cases hfirst
      rcases List.mem_cons.1 hc with rfl | hc
      · exact Int.le_refl _
      · exact (List.pairwise_cons.1 h.ordered).1 c hc

/-- Comments are grouped by the lines of the excerpt that shows them, and every group is
put in order. -/
theorem byUnit_gives (path : String) (content : Text) (hq : q.Steady) {cs : List Comment} (hcs : Numbered cs) :
    q.Gives (byUnit path content cs)
      ((groupBy (linesIn path content (q.outlineOf path content)) cs).map fun g => sorted g.2) := by
  intro r hr
  let gs := groupBy (linesIn path content (q.outlineOf path content)) cs
  obtain ⟨r', hjoin, hr'⟩ : ∃ r', joinUnits path content cs [] r = .ok gs r' ∧ q.Later r' :=
    joinUnits_steady hq hr hcs []
  have hmem := (groupBy_gathered (linesIn path content (q.outlineOf path content)) cs).mem
  have hsort : gs.mapM (fun g => sortByLine g.2) = .ok (gs.map fun g => sorted g.2) :=
    mapM_eq_ok fun g hg => sortByLine_eq fun c hc => hcs c (hmem g hg c hc)
  refine ⟨r', ?_, hr'⟩
  rw [byUnit, bind_of_ok hjoin, hsort]
  rfl

theorem byUnit_steady (path : String) (content : Text) (hq : q.Steady) (hr : q.Later r) {cs : List Comment}
    (hcs : Numbered cs) :
    ∃ groups r', byUnit path content cs r = .ok groups r' ∧ q.Later r' ∧
      (∀ g ∈ groups, UnitGroup path content (q.outlineOf path content) cs g) ∧
      groups.Pairwise fun g g' => ∀ c ∈ g, ∀ d ∈ g',
        c.linesIn path content (q.outlineOf path content) ≠ d.linesIn path content (q.outlineOf path content) := by
  obtain ⟨r', hrun, hr'⟩ := byUnit_gives path content hq hcs r hr
  have hgathered := groupBy_gathered (linesIn path content (q.outlineOf path content)) cs
  have hgrouped := hgathered.grouped
  have hmem := hgathered.mem
  refine ⟨_, r', hrun, hr', ?_, ?_⟩
  · intro g hg
    obtain ⟨f, hf, rfl⟩ := List.mem_map.1 hg
    refine ⟨fun c hc => hmem f hf c ((sorted_perm f.2).subset hc), fun c hc d hd => ?_,
      (sorted_stable fun c hc => hcs c (hmem f hf c hc)).ordered⟩
    rw [hgrouped.key_eq f hf c ((sorted_perm f.2).subset hc), hgrouped.key_eq f hf d ((sorted_perm f.2).subset hd)]
  · have hkeys := hgrouped.nodup
    rw [List.Nodup, List.pairwise_map] at hkeys
    rw [List.pairwise_map]
    refine hkeys.imp_of_mem fun {f f'} hf hf' hne c hc d hd heq => hne ?_
    rw [← hgrouped.key_eq f hf c ((sorted_perm f.2).subset hc), heq,
      hgrouped.key_eq f' hf' d ((sorted_perm f'.2).subset hd)]

theorem sortByLine_perm {cs g : List Comment} (h : sortByLine cs = .ok g) : g.Perm cs := by
  unfold sortByLine at h
  split at h
  next =>
    cases h
    exact sorted_perm cs
  next => cases h

theorem joinUnits_perm {cs : List Comment} {groups groups' : List (Option (Int × Int) × List Comment)}
    (h : joinUnits path content cs groups q = .ok groups' r) :
    (groups'.flatMap (·.2)).Perm (groups.flatMap (·.2) ++ cs) := by
  induction cs generalizing groups q with
  | nil =>
      cases h
      rw [List.append_nil]
  | cons c cs ih =>
      obtain ⟨unit, q₁, -, h⟩ := bind_eq_ok.1 h
      rw [List.append_cons]
      exact (ih h).trans ((joinGroup_perm unit c groups).append_right cs)

/-- Every comment is in one group, whatever the parsers do. -/
theorem byUnit_perm {cs : List Comment} {groups : List (List Comment)}
    (h : byUnit path content cs q = .ok groups r) : groups.flatten.Perm cs := by
  obtain ⟨joined, q₁, hjoin, h⟩ := bind_eq_ok.1 h
  obtain ⟨hsort, -⟩ := lift_eq_ok.1 h
  exact (mapM_perm (fun _ _ => sortByLine_perm) hsort).trans (joinUnits_perm hjoin)

end

end Comment

end Redline
