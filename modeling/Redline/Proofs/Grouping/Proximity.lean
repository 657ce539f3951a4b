import Mathlib.Combinatorics.SimpleGraph.Connectivity.Connected
import Mathlib.Data.List.SplitBy
import Redline.Proofs.Grouping

/-!
# Runs of near comments

Comments in the order of their lines are cut where two neighbours are further apart than a
threshold (`cluster_eq`).  The runs that are left are the connected components of the graph
that links any two comments which are not further apart (`byProximity_components`): in a
run every comment is linked with the next one, and a cut lies between all comments before
it and all behind it.

The comments are told apart by their places in the list, since the same comment may be
there twice.
-/

namespace Redline

/-! ## Lists that are cut between neighbours -/

section

variable {α β : Type} {r : α → α → Bool}

theorem splitBy_cons_of_false {a b : α} (h : r a b = false) (as : List α) :
    (a :: b :: as).splitBy r = [a] :: (b :: as).splitBy r := by
  have hcut : ∀ x ∈ [a].getLast?, ∀ y ∈ (b :: as).head?, r x y = false := by
    intro x hx y hy
    cases hx
    cases hy
    exact h
  exact List.splitBy_append hcut

theorem splitBy_cons_of_true {a b : α} (h : r a b = true) {as g : List α} {gs : List (List α)}
    (hgs : (b :: as).splitBy r = g :: gs) : (a :: b :: as).splitBy r = (a :: g) :: gs := by
  have hflatten := List.flatten_splitBy r (b :: as)
  have hchains : ∀ m ∈ g :: gs, m.IsChain fun x y => r x y = true := fun m hm =>
    List.isChain_of_mem_splitBy (hgs ▸ hm)
  have hcuts := List.isChain_getLast_head_splitBy r (b :: as)
  have hnil := List.nil_notMem_splitBy r (b :: as)
  rw [hgs] at hflatten hcuts hnil
  have hg : g ≠ [] := fun hg => hnil (hg ▸ List.mem_cons_self)
  obtain ⟨c, g', rfl⟩ := List.exists_cons_of_ne_nil hg
  rw [List.flatten_cons, List.cons_append, List.cons.injEq] at hflatten
  obtain ⟨rfl, hrest⟩ := hflatten
  have hjoin : a :: c :: as = ((a :: c :: g') :: gs).flatten := by
    rw [List.flatten_cons, List.cons_append, List.cons_append, hrest]
  rw [hjoin]
  refine List.splitBy_flatten ?_ ?_ ?_
  · rw [List.mem_cons, not_or] at hnil ⊢
    exact ⟨nofun, hnil.2⟩
  · refine List.forall_mem_cons.2 ⟨?_, fun m hm => hchains m (List.mem_cons_of_mem _ hm)⟩
    exact List.isChain_cons_cons.2 ⟨h, hchains _ List.mem_cons_self⟩
  · cases gs with
    | nil => exact List.isChain_singleton _
    | cons m gs =>
        rw [List.isChain_cons_cons] at hcuts ⊢
        obtain ⟨⟨hne, hne', hcut⟩, hcuts⟩ := hcuts
        exact ⟨⟨List.cons_ne_nil _ _, hne', by rwa [List.getLast_cons hne]⟩, hcuts⟩

/-- A list of images is cut where the list is. -/
theorem splitBy_map (f : β → α) (bs : List β) :
    (bs.map f).splitBy r = (bs.splitBy fun b c => r (f b) (f c)).map (List.map f) := by
  have hjoin : bs.map f = ((bs.splitBy fun b c => r (f b) (f c)).map (List.map f)).flatten := by
    rw [← List.map_flatten, List.flatten_splitBy]
  rw [hjoin]
  refine List.splitBy_flatten ?_ ?_ ?_
  · intro h
    obtain ⟨m, hm, hnil⟩ := List.mem_map.1 h
    exact List.ne_nil_of_mem_splitBy hm (List.map_eq_nil_iff.1 hnil)
  · intro m hm
    obtain ⟨m', hm', rfl⟩ := List.mem_map.1 hm
    exact (List.isChain_map f).2 (List.isChain_of_mem_splitBy hm')
  · rw [List.isChain_map]
    refine (List.isChain_getLast_head_splitBy _ bs).imp fun m m' ⟨hm, hm', hcut⟩ => ?_
    refine ⟨fun h => hm (List.map_eq_nil_iff.1 h), fun h => hm' (List.map_eq_nil_iff.1 h), ?_⟩
    rwa [List.getLast_map, List.head_map]

end

/-! ## Runs and components -/

/-- The graph that links two different vertices if their ranks differ by at most a
threshold. -/
def proximity {V : Type} (rank : V → Int) (threshold : Int) : SimpleGraph V where
  Adj a b := a ≠ b ∧ ((rank b - rank a).natAbs : Int) ≤ threshold
  symm := ⟨fun a b ⟨hne, hnear⟩ => ⟨hne.symm, by omega⟩⟩
  loopless := ⟨fun _ h => h.1 rfl⟩

/-- Whether the ranks of two vertices differ by at most a threshold. -/
def near {V : Type} (rank : V → Int) (threshold : Int) (a b : V) : Bool :=
  ((rank b - rank a).natAbs : Int) ≤ threshold

section

variable {V : Type} {rank : V → Int} {t : Int}

/-- A cut in a sorted list lies between all vertices before it and all behind it. -/
theorem apart_of_cuts {gs : List (List V)} (hsorted : gs.flatten.Pairwise fun a b => rank a ≤ rank b)
    (hcuts : gs.IsChain fun g h => ∃ (hg : g ≠ []) (hh : h ≠ []), near rank t (g.getLast hg) (h.head hh) = false) :
    gs.Pairwise fun g h => ∀ a ∈ g, ∀ b ∈ h, rank a ≤ rank b ∧ t < rank b - rank a := by
  induction gs with
  | nil => exact .nil
  | cons g gs ih =>
      rw [List.flatten_cons, List.pairwise_append] at hsorted
      obtain ⟨hfirst, hrest, hacross⟩ := hsorted
      refine List.pairwise_cons.2 ⟨fun h hh a ha b hb => ?_, ih hrest hcuts.of_cons⟩
      have hb' : b ∈ gs.flatten := List.mem_flatten_of_mem hh hb
      refine ⟨hacross a ha b hb', ?_⟩
      cases gs with
      | nil => cases hh
      | cons h₀ gs =>
          obtain ⟨hg, hne, hcut⟩ := (List.isChain_cons_cons.1 hcuts).1
          -- The last vertex before the cut has the greatest rank there, the first one behind it the least.
          have hlast : rank a ≤ rank (g.getLast hg) := by
            rw [← List.dropLast_append_getLast hg] at ha hfirst
            rcases List.mem_append.1 ha with ha | ha
            · exact (List.pairwise_append.1 hfirst).2.2 a ha _ (List.mem_singleton_self _)
            · rw [List.mem_singleton.1 ha]
          have hhead : rank (h₀.head hne) ≤ rank b := by
            rw [List.flatten_cons, ← List.cons_head_tail hne, List.cons_append] at hrest hb'
            rcases List.mem_cons.1 hb' with rfl | hb'
            · rfl
            · exact (List.pairwise_cons.1 hrest).1 b hb'
          have hbetween : rank (g.getLast hg) ≤ rank (h₀.head hne) :=
            hacross _ (List.getLast_mem hg) _ (List.mem_flatten_of_mem List.mem_cons_self (List.head_mem hne))
          have hfar := of_decide_eq_false hcut
          omega

/-- The vertices of a list each of which is near the next one can be reached from each
other. -/
theorem reachable_of_isChain {g : List V} (h : g.IsChain fun a b => near rank t a b = true) :
    ∀ a ∈ g, ∀ b ∈ g, (proximity rank t).Reachable a b := by
  have hstep : g.IsChain (proximity rank t).Reachable := by
    refine h.imp fun a b hnear => ?_
    by_cases heq : a = b
    · rw [heq]
    · exact SimpleGraph.Adj.reachable ⟨heq, of_decide_eq_true hnear⟩
  have hpairs : g.Pairwise (proximity rank t).Reachable := by
    have : IsTrans V (proximity rank t).Reachable := ⟨fun _ _ _ => SimpleGraph.Reachable.trans⟩
    exact List.isChain_iff_pairwise.1 hstep
  have : Std.Symm (proximity rank t).Reachable := ⟨fun _ _ => SimpleGraph.Reachable.symm⟩
  exact fun a ha b hb => hpairs.forall_of_forall (fun c _ => SimpleGraph.Reachable.refl c) ha hb

theorem get_inj_of_mem {gs : List (List V)} (hnodup : gs.flatten.Nodup) {k l : Fin gs.length} {v : V}
    (hk : v ∈ gs.get k) (hl : v ∈ gs.get l) : k = l := by
  have hpairs := (List.nodup_flatten.1 hnodup).2
  rcases lt_trichotomy k l with hlt | heq | hlt
  · exact absurd hl (List.pairwise_iff_get.1 hpairs k l hlt hk)
  · exact heq
  · exact absurd hk (List.pairwise_iff_get.1 hpairs l k hlt hl)

/-- No path leads over a cut. -/
theorem mem_of_reachable {gs : List (List V)}
    (happart : gs.Pairwise fun g h => ∀ a ∈ g, ∀ b ∈ h, rank a ≤ rank b ∧ t < rank b - rank a)
    (hall : ∀ v, ∃ k, v ∈ gs.get k) {a b : V} (hab : (proximity rank t).Reachable a b) {k : Fin gs.length}
    (ha : a ∈ gs.get k) : b ∈ gs.get k := by
  rw [SimpleGraph.reachable_iff_reflTransGen] at hab
  induction hab with
  | refl => exact ha
  | @tail b c _ hadj hb =>
      have hnear := hadj.2
      obtain ⟨l, hc⟩ := hall c
      rcases lt_trichotomy k l with hlt | rfl | hlt
      · have hfar := List.pairwise_iff_get.1 happart k l hlt b hb c hc
        omega
      · exact hc
      · have hfar := List.pairwise_iff_get.1 happart l k hlt c hc b hb
        omega

theorem runs_apart {vs : List V} (hsorted : vs.Pairwise fun a b => rank a ≤ rank b) :
    (vs.splitBy (near rank t)).Pairwise fun g h => ∀ a ∈ g, ∀ b ∈ h, rank a ≤ rank b ∧ t < rank b - rank a := by
  refine apart_of_cuts ?_ (List.isChain_getLast_head_splitBy (near rank t) vs)
  rwa [List.flatten_splitBy]

/-- A list in which every vertex stands once, in the order of the ranks, is cut into the
components of the graph. -/
theorem runs_components {vs : List V} (hsorted : vs.Pairwise fun a b => rank a ≤ rank b) (hnodup : vs.Nodup)
    (hall : ∀ v, v ∈ vs) :
    ∃ component : Fin (vs.splitBy (near rank t)).length ≃ (proximity rank t).ConnectedComponent,
      ∀ k v, v ∈ (vs.splitBy (near rank t)).get k ↔ (proximity rank t).connectedComponentMk v = component k := by
  have hapart := runs_apart (t := t) hsorted
  have hflatten := List.flatten_splitBy (near rank t) vs
  have hne : ∀ g ∈ vs.splitBy (near rank t), g ≠ [] := fun g => List.ne_nil_of_mem_splitBy
  have hlinked : ∀ g ∈ vs.splitBy (near rank t), ∀ a ∈ g, ∀ b ∈ g, (proximity rank t).Reachable a b :=
    fun g hg => reachable_of_isChain (List.isChain_of_mem_splitBy hg)
  generalize vs.splitBy (near rank t) = runs at *
  subst hflatten
  have hrun : ∀ v, ∃ k, v ∈ runs.get k := by
    intro v
    obtain ⟨g, hg, hv⟩ := List.mem_flatten.1 (hall v)
    obtain ⟨k, rfl⟩ := List.get_of_mem hg
    exact ⟨k, hv⟩
  -- The component of a run is that of its first vertex.
  obtain ⟨first, hhead⟩ : ∃ first : Fin runs.length → V, ∀ k, first k ∈ runs.get k :=
    ⟨fun k => (runs.get k).head (hne _ (runs.get_mem k)), fun k => List.head_mem _⟩
  have hmem : ∀ k v, v ∈ runs.get k ↔
      (proximity rank t).connectedComponentMk v = (proximity rank t).connectedComponentMk (first k) := by
    intro k v
    rw [SimpleGraph.ConnectedComponent.eq]
    constructor
    · exact fun hv => hlinked _ (runs.get_mem k) v hv _ (hhead k)
    · exact fun h => mem_of_reachable hapart hrun h.symm (hhead k)
  refine ⟨Equiv.ofBijective (fun k => (proximity rank t).connectedComponentMk (first k)) ⟨?_, ?_⟩, hmem⟩
  · intro k l heq
    exact get_inj_of_mem hnodup (hhead k) ((hmem l _).2 heq)
  · intro C
    induction C using SimpleGraph.ConnectedComponent.ind with
    | h v =>
        obtain ⟨k, hv⟩ := hrun v
        exact ⟨k, ((hmem k v).1 hv).symm⟩

end

/-! ## Runs of comments -/

namespace Comment

theorem areNear_int (t m n : Int) : areNear (.int t) (.int m) (.int n) = .ok (((n - m).natAbs : Int) ≤ t) := rfl

/-- A list of comments is cut where two neighbours are not near. -/
theorem cluster_eq (t : Int) {cs : List Comment} (hcs : Numbered cs) :
    cluster (.int t) cs = .ok (cs.splitBy (near lineNumber t)) := by
  induction cs with
  | nil => rfl
  | cons c cs ih =>
      cases cs with
      | nil => rfl
      | cons d cs =>
          have hrest := ih fun e he => hcs e (List.mem_cons_of_mem c he)
          have hnear : areNear (.int t) c.line d.line = .ok (near lineNumber t c d) := by
            rw [hcs c List.mem_cons_self, hcs d (List.mem_cons_of_mem c List.mem_cons_self), areNear_int]
            rfl
          rw [cluster, hnear, hrest]
          cases hgs : (d :: cs).splitBy (near lineNumber t) with
          | nil => exact absurd (List.splitBy_eq_nil.1 hgs) (List.cons_ne_nil d cs)
          | cons g gs =>
              cases h : near lineNumber t c d with
              | false =>
                  rw [splitBy_cons_of_false h, hgs]
                  rfl
              | true =>
                  rw [splitBy_cons_of_true h hgs]
                  rfl

def lineAt (cs : List Comment) (i : Fin cs.length) : Int := (cs.get i).lineNumber

open Classical in
/-- The comments at the places of a component, in their order. -/
noncomputable def members {t : Int} (cs : List Comment) (C : (proximity (lineAt cs) t).ConnectedComponent) :
    List Comment :=
  ((List.finRange cs.length).filter fun i => (proximity (lineAt cs) t).connectedComponentMk i = C).map cs.get

/-- The places of the comments in the order of their lines. -/
def places (cs : List Comment) : List (Fin cs.length) :=
  (List.finRange cs.length).mergeSort fun i j => lineAt cs i ≤ lineAt cs j

theorem places_stable (cs : List Comment) : StablySorted (lineAt cs) (List.finRange cs.length) (places cs) :=
  mergeSort_stablySorted (lineAt cs) _

theorem map_places {cs : List Comment} (hcs : Numbered cs) : (places cs).map cs.get = sorted cs := by
  have hmap : (places cs).map cs.get =
      ((List.finRange cs.length).map cs.get).mergeSort fun a b => a.lineNumber ≤ b.lineNumber :=
    List.map_mergeSort fun i _ j _ => rfl
  rw [hmap, List.map_get_finRange, sorted_eq_mergeSort hcs]

theorem nodup_places (cs : List Comment) : (places cs).Nodup :=
  (places_stable cs).perm.nodup_iff.2 (List.nodup_finRange _)

theorem mem_places (cs : List Comment) (i : Fin cs.length) : i ∈ places cs :=
  (places_stable cs).perm.mem_iff.2 (List.mem_finRange i)

/-- The runs of the places, in the order of their lines. -/
def placeRuns (t : Int) (cs : List Comment) : List (List (Fin cs.length)) :=
  (places cs).splitBy (near (lineAt cs) t)

theorem byProximity_eq (t : Int) {cs : List Comment} (hcs : Numbered cs) :
    byProximity (.int t) cs = .ok ((sorted cs).splitBy (near lineNumber t)) := by
  have hsorted : Numbered (sorted cs) := fun c hc => hcs c ((sorted_perm cs).subset hc)
  rw [← cluster_eq t hsorted, byProximity, sortByLine_eq hcs]
  rfl

theorem map_placeRuns (t : Int) {cs : List Comment} (hcs : Numbered cs) :
    (placeRuns t cs).map (List.map cs.get) = (sorted cs).splitBy (near lineNumber t) := by
  rw [← map_places hcs, splitBy_map]
  rfl

/-- A run has the places of its component in stable order. -/
theorem run_stable (t : Int) (cs : List Comment) {g : List (Fin cs.length)} (hg : g ∈ placeRuns t cs)
    {p : Fin cs.length → Bool} (hp : ∀ i, i ∈ g ↔ p i = true) :
    StablySorted (lineAt cs) ((List.finRange cs.length).filter p) g := by
  have hsub : g.Sublist (places cs) := by
    rw [← List.flatten_splitBy (near (lineAt cs) t) (places cs)]
    exact List.sublist_flatten_of_mem hg
  have hfilter : (places cs).filter p = g := by
    have hkept := hsub.filter p
    rw [List.filter_eq_self.2 fun i hi => (hp i).1 hi] at hkept
    have hperm : ((places cs).filter p).Perm g := by
      refine (List.perm_ext_iff_of_nodup ((nodup_places cs).filter p) ((nodup_places cs).sublist hsub)).2 fun i => ?_
      rw [List.mem_filter, hp i, and_iff_right (mem_places cs i)]
    exact (hkept.eq_of_length hperm.length_eq.symm).symm
  rw [← hfilter]
  exact (places_stable cs).filter p

/-- The groups of near comments are the components of the graph that links two comments
whose lines differ by at most the threshold: each has the comments of its component in the
order of their lines, the groups are in that order too, more than the threshold apart, and
all of them together are the comments in stable order. -/
theorem byProximity_components (t : Int) {cs : List Comment} (hcs : Numbered cs) :
    ∃ groups, byProximity (.int t) cs = .ok groups ∧
      (∃ component : Fin groups.length ≃ (proximity (lineAt cs) t).ConnectedComponent,
        ∀ k, StablySorted lineNumber (members cs (component k)) (groups.get k)) ∧
      (groups.Pairwise fun g h => ∀ c ∈ g, ∀ d ∈ h,
        c.lineNumber ≤ d.lineNumber ∧ t < d.lineNumber - c.lineNumber) ∧
      StablySorted lineNumber cs groups.flatten := by
  classical
  have hordered := (places_stable cs).ordered
  obtain ⟨component, hcomponent⟩ : ∃ component : Fin (placeRuns t cs).length ≃ _, ∀ k v, _ ↔ _ = component k :=
    runs_components (t := t) hordered (nodup_places cs) (mem_places cs)
  rw [byProximity_eq t hcs, ← map_placeRuns t hcs]
  refine ⟨_, rfl, ⟨(finCongr (List.length_map _)).trans component, fun k => ?_⟩, ?_, ?_⟩
  · have hrun := run_stable t cs ((placeRuns t cs).get_mem (k.cast (List.length_map _)))
      fun i => (hcomponent _ i).trans decide_eq_true_iff.symm
    rw [List.get_eq_getElem, List.getElem_map]
    exact StablySorted.map (f := cs.get) hrun
  · rw [List.pairwise_map]
    refine (runs_apart (t := t) hordered).imp fun hfar c hc d hd => ?_
    obtain ⟨i, hi, rfl⟩ := List.mem_map.1 hc
    obtain ⟨j, hj, rfl⟩ := List.mem_map.1 hd
    exact hfar i hi j hj
  · have hjoin : (placeRuns t cs).flatten = places cs := List.flatten_splitBy _ _
    rw [← List.map_flatten, hjoin, map_places hcs]
    exact sorted_stable hcs

/-- Comments of which each is two lines from another one, and one far away. -/
def stairs : List Comment :=
  [5, 1, 99, 3].map fun n => { id := .int n, path := .str "a.py", line := .int n, body := .str "" }

theorem byProximity_components_stairs : Numbered stairs ∧ ∃ groups, byProximity (.int 2) stairs = .ok groups ∧
    groups.map (List.map lineNumber) = [[1, 3, 5], [99]] ∧
    ∃ component : Fin groups.length ≃ (proximity (lineAt stairs) 2).ConnectedComponent,
      ∀ k, StablySorted lineNumber (members stairs (component k)) (groups.get k) := by
  have hcs : Numbered stairs := by
    intro c hc
    obtain ⟨n, -, rfl⟩ := List.mem_map.1 hc
    rfl
  have hsorted : (sorted stairs).map lineNumber = [1, 3, 5, 99] := by
    rw [sorted_eq_mergeSort hcs]
    simp [stairs, List.mergeSort, List.MergeSort.Internal.splitInTwo, lineNumber, Json.count?]
  have hlines : ((sorted stairs).splitBy (near lineNumber 2)).map (List.map lineNumber) = [[1, 3, 5], [99]] := by
    have hmap := splitBy_map (r := near (fun n => n) 2) lineNumber (sorted stairs)
    rw [hsorted] at hmap
    exact hmap.symm
  obtain ⟨groups, hrun, hcomponents, -⟩ := byProximity_components 2 hcs
  obtain rfl := Except.ok.inj ((byProximity_eq 2 hcs).symm.trans hrun)
  exact ⟨hcs, _, hrun, hlines, hcomponents⟩

end Comment

end Redline
