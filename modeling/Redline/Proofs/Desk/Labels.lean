import Redline.Proofs.Forge.Frame
import Redline.Proofs.Grouping

/-!
# Labels of a pull request

What becomes of the labels when some are added and one is taken off, whichever
requests fail on the way.  Labels are a set of texts, so they are given by a list
of names.  `manageLabels_cases` says all that an attempt to manage them can do: it
puts on some of the new labels and may take one off, it tells the truth about
whether it came to its end, and it does come to its end if no request fails.
-/

namespace Redline

namespace Json

variable {names : List String} {name : String}

theorem contains_map_str : (names.map str).contains (str name) = names.contains name := by
  induction names with
  | nil => rfl
  | cons n names ih => rw [List.map_cons, List.contains_cons, List.contains_cons, beq_str, ih]

theorem erase_map_str : (names.map str).erase (str name) = (names.erase name).map str := by
  induction names with
  | nil => rfl
  | cons n names ih =>
      rw [List.map_cons, List.erase_cons, List.erase_cons, beq_str, ih]
      cases n == name <;> rfl

theorem str_mem_map_str : str name ∈ names.map str ↔ name ∈ names := by
  constructor
  · intro h
    obtain ⟨n, hn, heq⟩ := List.mem_map.1 h
    cases heq
    exact hn
  · exact List.mem_map_of_mem

theorem mapM_key_str (names : List String) : (names.map str).mapM key = .ok (names.map str) := by
  have hkeys : ∀ v ∈ names.map str, key v = .ok (id v) := by
    intro v hv
    obtain ⟨n, -, rfl⟩ := List.mem_map.1 hv
    rfl
  rw [mapM_eq_ok hkeys, List.map_id]

end Json

namespace Session

/-- Two worlds with the same labels and the same outages. -/
structure Alike (w w' : World) : Prop where
  labels_eq : w'.forge.labels = w.forge.labels
  outage_eq : w'.forge.outage = w.forge.outage

theorem Alike.trans {w w' w'' : World} (h : Alike w w') (h' : Alike w' w'') : Alike w w'' :=
  ⟨h'.labels_eq.trans h.labels_eq, h'.outage_eq.trans h.outage_eq⟩

theorem Within.alike {α : Type} {ks : List Forge.Request.Kind} {x : Session α} (h : Within ks x) (w : World) :
    Alike w (after x w) := by
  obtain ⟨new, branches, -, hforge, -⟩ := h w
  constructor
  · rw [hforge]
    rfl
  · rw [hforge]
    rfl

/-- An operation does not touch the labels, and whether requests fail is not up to
it. -/
def LeavesLabels {α : Type} (x : Session α) : Prop := ∀ w, Alike w (after x w)

end Session

namespace Pull

open Session

/-- No request fails. -/
def Calm (w : World) : Prop := ∀ count r, w.forge.outage count r = none

theorem Calm.of_alike {w w' : World} (h : Calm w) (halike : Alike w w') : Calm w' := by
  intro count r
  rw [halike.outage_eq]
  exact h count r

def Labelled (names : List String) (w : World) : Prop := w.forge.labels = names.map .str

theorem Labelled.of_alike {names : List String} {w w' : World} (h : Labelled names w) (halike : Alike w w') :
    Labelled names w' :=
  halike.labels_eq.trans h

def Served (c : PullContext) (w : World) : Prop := Calm w ∧ ∃ name, c.fullName = .ok name

theorem Served.of_alike {c : PullContext} {w w' : World} (h : Served c w) (halike : Alike w w') : Served c w' :=
  ⟨h.1.of_alike halike, h.2⟩

section

variable {c : PullContext} {w : World}

theorem send_of_calm (h : Calm w) (r : Forge.Request) : ∃ w', send r id w = .ok () w' ∧ Alike w w' :=
  ⟨_, send_of_none (h _ r), rfl, rfl⟩

theorem open_of_served (h : Served c w) : ∃ w', Pull.open c w = .ok () w' := by
  obtain ⟨hcalm, name, hname⟩ := h
  obtain ⟨w₁, hfirst, halike₁⟩ := send_of_calm hcalm (.installation c.installation)
  obtain ⟨w₂, hsecond, halike₂⟩ := send_of_calm (hcalm.of_alike halike₁) (.repository name)
  obtain ⟨w₃, hthird, -⟩ :=
    send_of_calm ((hcalm.of_alike halike₁).of_alike halike₂) (.pull c.installation name c.number)
  have hlift : lift c.fullName w₁ = .ok name w₁ := lift_eq_ok.2 ⟨hname, rfl⟩
  exact ⟨w₃, by rw [Pull.open, bind_of_ok hfirst, bind_of_ok hlift, bind_of_ok hsecond, hthird]⟩

theorem open_alike {w' : World} (h : Pull.open c w = .ok () w') : Alike w w' := by
  have hlook : Within [.look] (Pull.open c) := open_within (by decide) c
  exact after_of_ok h ▸ hlook.alike w

end

/-! ## Looking at the labels -/

section

variable {c : PullContext} {w : World} {names : List String}

/-- The labels as they are asked for before they are changed. -/
def current (c : PullContext) : Session (List Json) := do
  Pull.open c
  labels

theorem current_alike (c : PullContext) (w : World) : Alike w (after (current c) w) := by
  have hlook : Within [.look] (current c) := (open_within (by decide) c).bind fun _ => labels_within (by decide)
  exact hlook.alike w

/-- The labels that are found are those that are there. -/
theorem current_eq_ok (hw : Labelled names w) {found : List Json} {w' : World} (h : current c w = .ok found w') :
    found = names.map .str := by
  obtain ⟨_, w₁, hopen, h⟩ := bind_eq_ok.1 h
  obtain ⟨_, w₂, hsend, h⟩ := bind_eq_ok.1 h
  have hlook : Within [.look] (send .labels) := Within.send (by decide) Forge.inBranches_id
  have hsent : Alike w₁ w₂ := after_of_ok hsend ▸ hlook.alike w₁
  have hlabels : w₂.forge.labels = names.map .str := hw.of_alike ((open_alike hopen).trans hsent)
  obtain ⟨hkeys, -⟩ := lift_eq_ok.1 (h : lift (w₂.forge.labels.mapM Json.key) w₂ = .ok found w')
  rw [hlabels, Json.mapM_key_str] at hkeys
  cases hkeys
  rfl

theorem current_of_served (h : Served c w) (hw : Labelled names w) :
    ∃ w', current c w = .ok (names.map .str) w' := by
  obtain ⟨w₁, hopen⟩ := open_of_served h
  have hopened := open_alike hopen
  have hlabels : w₁.forge.labels = names.map .str := hw.of_alike hopened
  obtain ⟨w₂, hsend, hsent⟩ := send_of_calm (h.1.of_alike hopened) .labels
  have hkeys : w₂.forge.labels.mapM Json.key = .ok (names.map .str) := by
    rw [hsent.labels_eq, hlabels, Json.mapM_key_str]
  refine ⟨w₂, ?_⟩
  rw [current, bind_of_ok hopen, labels, bind_of_ok hsend]
  exact lift_eq_ok.2 ⟨hkeys, rfl⟩

/-- Whether the pull request is being worked on is found out if no request fails. -/
theorem isInProgress_of_served (h : Served c w) (hw : Labelled names w) :
    ∃ w', isInProgress c w = .ok (names.contains inProgress) w' ∧ Alike w w' := by
  obtain ⟨w', hcurrent⟩ := current_of_served h hw
  have hask : isInProgress c = recover false do return (← current c).contains (.str inProgress) := by
    simp only [isInProgress, current, bind_assoc]
  refine ⟨w', ?_, after_of_ok hcurrent ▸ current_alike c w⟩
  rw [hask, ← Json.contains_map_str]
  exact recover_of_ok (bind_of_ok hcurrent)

end

/-! ## Adding and removing -/

section

variable {w : World} {names now : List String}

/-- Of the labels that are not there, those before the first failure are put on. -/
theorem addLabels_cases (names as : List String) (hw : Labelled now w) :
    ∃ new w', new <+: as.filter (fun a => !names.contains a) ∧ Labelled (now ++ new) w' ∧
      w'.forge.outage = w.forge.outage ∧
      (addLabels (names.map .str) (as.map .str) w = .ok () w' ∧ new = as.filter (fun a => !names.contains a) ∨
        ¬ Calm w ∧ ∃ e, addLabels (names.map .str) (as.map .str) w = .error e w') := by
  induction as generalizing w now with
  | nil => exact ⟨[], w, List.prefix_rfl, by rwa [List.append_nil], rfl, Or.inl ⟨rfl, rfl⟩⟩
  | cons a as ih =>
      simp only [List.map_cons, addLabels]
      have hkey : (lift (Json.str a).key : Session Json) w = .ok (.str a) w := rfl
      rw [bind_of_ok hkey, Json.contains_map_str, List.filter_cons]
      cases hthere : names.contains a with
      | true => exact ih hw
      | false =>
          simp only [Bool.not_false, if_true]
          cases hsend : w.forge.outage w.forge.log.length (.addLabel (.str a)) with
          | some reason =>
              refine ⟨[], _, List.nil_prefix, ?_, ?_, Or.inr ⟨fun hcalm => ?_, _, bind_of_error (send_of_some hsend)⟩⟩
              · rwa [List.append_nil]
              · rfl
              · rw [hcalm] at hsend
                cases hsend
          | none =>
              rw [bind_of_ok (send_of_none hsend)]
              have hadded : Labelled (now ++ [a]) (World.mk
                  { w.forge with log := w.forge.log ++ [.addLabel (.str a)], labels := w.forge.labels ++ [.str a] }
                  w.reviewer w.refiner w.parsers w.formatter) := by
                simp only [Labelled, List.map_append, List.map_cons, List.map_nil]
                rw [show w.forge.labels = now.map .str from hw]
              obtain ⟨new, w', hnew, hlabels, houtage, hrun⟩ := ih hadded
              refine ⟨a :: new, w', List.cons_prefix_cons.2 ⟨rfl, hnew⟩, by simpa using hlabels, houtage, ?_⟩
              exact hrun.imp (fun h => ⟨h.1, by rw [h.2]⟩) id

/-- A label that was found is taken off unless the request fails. -/
theorem removeLabels_cases {r : String} (hw : Labelled now w) (hsub : r ∈ names → r ∈ now) :
    ∃ w', w'.forge.outage = w.forge.outage ∧
      (removeLabels (names.map .str) [.str r] w = .ok () w' ∧
          Labelled (if names.contains r then now.erase r else now) w' ∨
        ¬ Calm w ∧ Labelled now w' ∧ ∃ e, removeLabels (names.map .str) [.str r] w = .error e w') := by
  simp only [removeLabels]
  have hkey : (lift (Json.str r).key : Session Json) w = .ok (.str r) w := rfl
  rw [bind_of_ok hkey, Json.contains_map_str]
  cases hthere : names.contains r with
  | false => exact ⟨w, rfl, Or.inl ⟨rfl, hw⟩⟩
  | true =>
      have hnow : w.forge.labels.contains (.str r) = true := by
        rw [show w.forge.labels = now.map .str from hw, Json.contains_map_str]
        exact List.contains_iff_mem.2 (hsub (List.contains_iff_mem.1 hthere))
      have hforge : forge w = .ok w.forge w := rfl
      simp only [if_true, removeLabel]
      rw [bind_assoc, bind_of_ok hforge, hnow]
      cases hsend : w.forge.outage w.forge.log.length (.removeLabel (.str r)) with
      | some reason =>
          refine ⟨_, ?_, Or.inr ⟨fun hcalm => ?_, ?_, _, bind_of_error (bind_of_error (send_of_some hsend))⟩⟩
          · rfl
          · rw [hcalm] at hsend
            cases hsend
          · exact hw
      | none =>
          refine ⟨_, ?_, Or.inl ⟨bind_of_ok (bind_of_ok (send_of_none hsend)), ?_⟩⟩
          · rfl
          · simp only [Labelled]
            rw [show w.forge.labels = now.map .str from hw, Json.erase_map_str]

end

/-! ## Managing labels -/

section

variable {c : PullContext} {w : World} {names as : List String} {r : String} {add remove : Json}

theorem changeLabels_eq (c : PullContext) (add remove : Json) : changeLabels c add remove = (do
    let found ← current c
    addLabels found (← lift (labelsIn add))
    removeLabels found (← lift (labelsIn remove))) := by
  simp only [changeLabels, current, bind_assoc]

/-- What an attempt to put labels on and to take another one off can do. -/
theorem manageLabels_cases (hw : Labelled names w) (hadd : labelsIn add = .ok (as.map .str))
    (hremove : labelsIn remove = .ok [.str r]) (hr : r ∉ as) :
    ∃ done new w', manageLabels c add remove w = .ok done w' ∧ w'.forge.outage = w.forge.outage ∧
      new <+: as.filter (fun a => !names.contains a) ∧
      (done = true ∧ new = as.filter (fun a => !names.contains a) ∧ Labelled ((names ++ new).erase r) w' ∨
        done = false ∧ ¬ Served c w ∧ Labelled (names ++ new) w') := by
  have hasked := current_alike c w
  cases hcurrent : current c w with
  | error e w₁ =>
      rw [after_of_error hcurrent] at hasked
      have hrun : changeLabels c add remove w = .error e w₁ := by rw [changeLabels_eq, bind_of_error hcurrent]
      refine ⟨false, [], w₁, recover_of_error (bind_of_error hrun), hasked.outage_eq, List.nil_prefix,
        Or.inr ⟨rfl, fun hserved => ?_, by rw [List.append_nil]; exact hw.of_alike hasked⟩⟩
      obtain ⟨w', hok⟩ := current_of_served hserved hw
      rw [hcurrent] at hok
      cases hok
  | ok found w₁ =>
      rw [after_of_ok hcurrent] at hasked
      obtain rfl := current_eq_ok hw hcurrent
      have hcalm : Served c w → Calm w₁ := fun hserved => hserved.1.of_alike hasked
      have hstart : changeLabels c add remove w = (do
          addLabels (names.map .str) (as.map .str)
          removeLabels (names.map .str) [.str r]) w₁ := by
        have hadds : (lift (labelsIn add) : Session _) w₁ = .ok (as.map .str) w₁ := lift_eq_ok.2 ⟨hadd, rfl⟩
        rw [changeLabels_eq, bind_of_ok hcurrent, bind_of_ok hadds]
        refine congrFun (bind_congr fun _ => ?_) w₁
        rw [hremove]
        rfl
      obtain ⟨new, w₂, hnew, hlabels₂, houtage₂, hadded⟩ := addLabels_cases names as (hw.of_alike hasked)
      rcases hadded with ⟨hadded, hall⟩ | ⟨hfail, e, hadded⟩
      · have hsub : r ∈ names → r ∈ names ++ new := List.mem_append_left new
        obtain ⟨w₃, houtage₃, hremoved⟩ := removeLabels_cases hlabels₂ hsub
        have houtage : w₃.forge.outage = w.forge.outage := houtage₃.trans (houtage₂.trans hasked.outage_eq)
        rcases hremoved with ⟨hremoved, hlabels₃⟩ | ⟨hfail, hlabels₃, e, hremoved⟩
        · have hrun : changeLabels c add remove w = .ok () w₃ := by rw [hstart, bind_of_ok hadded, hremoved]
          refine ⟨true, new, w₃, recover_of_ok (bind_of_ok hrun), houtage, hnew, Or.inl ⟨rfl, hall, ?_⟩⟩
          -- A label that was not found is not among those that were added either.
          cases hthere : names.contains r with
          | true => simpa only [hthere, if_true] using hlabels₃
          | false =>
              have hmem : r ∉ names ++ new := by
                rw [List.mem_append, not_or]
                refine ⟨fun h => ?_, fun h => hr ?_⟩
                · rw [List.contains_iff_mem.2 h] at hthere
                  cases hthere
                · exact (List.mem_filter.1 (hnew.subset h)).1
              rw [List.erase_of_not_mem hmem]
              simpa only [hthere, Bool.false_eq_true, if_false] using hlabels₃
        · have hrun : changeLabels c add remove w = .error e w₃ := by rw [hstart, bind_of_ok hadded, hremoved]
          refine ⟨false, new, w₃, recover_of_error (bind_of_error hrun), houtage, hnew,
            Or.inr ⟨rfl, fun hserved => hfail ?_, hlabels₃⟩⟩
          intro count q
          rw [houtage₂]
          exact hcalm hserved count q
      · have hrun : changeLabels c add remove w = .error e w₂ := by rw [hstart, bind_of_error hadded]
        exact ⟨false, new, w₂, recover_of_error (bind_of_error hrun), houtage₂.trans hasked.outage_eq, hnew,
          Or.inr ⟨rfl, fun hserved => hfail (hcalm hserved), hlabels₂⟩⟩

end

end Pull

end Redline
