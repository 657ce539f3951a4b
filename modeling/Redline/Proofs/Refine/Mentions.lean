import Redline.Proofs.Distinct
import Redline.Proofs.Grouping
import Redline.Proofs.Refine.Steps

/-!
# Suggestions that an answer does not mention

An answer of the refiner lists the suggestions that it carried out and those that it
passed over, and both lists are whatever the refiner wrote.  A comment that is in neither
of them counts as carried out.

The loop that adds such comments looks through the list that it extends, so a comment
whose id came before is not added again (`completed_spec`).
-/

namespace Redline

/-- The ids of the suggestions in the two lists of an answer. -/
def Refinement.ids (r : Refinement) : List String := r.implemented.map (·.id) ++ r.skipped.map (·.id)

/-- An answer with more suggestions among those that were carried out. -/
def Refinement.extend (r : Refinement) (added : List Implemented) : Refinement :=
  { r with implemented := r.implemented ++ added }

theorem Refinement.mem_ids_extend {r : Refinement} {added : List Implemented} {id : String} :
    id ∈ (r.extend added).ids ↔ id ∈ r.ids ∨ id ∈ added.map (·.id) := by
  simp only [ids, extend, List.map_append, List.mem_append]
  tauto

theorem Refinement.extend_extend (r : Refinement) (as bs : List Implemented) :
    (r.extend as).extend bs = r.extend (as ++ bs) := by
  simp only [extend, List.append_assoc]

namespace Comment

/-- The suggestion that a comment makes for a file. -/
def suggestion (path : String) (c : Comment) : Suggestion :=
  ⟨c.id.displayed, c.body.displayed, path, c.lineNumber⟩

/-- The record of a comment that was carried out. -/
def carriedOut (path : String) (c : Comment) : Implemented := ⟨c.id.displayed, path, c.lineNumber⟩

/-- The ids of comments, each once, in the order in which they first come. -/
def firstIds (cs : List Comment) : List String := (cs.map (·.id.displayed)).eraseDups

theorem firstIds_cons (c : Comment) (cs : List Comment) :
    firstIds (c :: cs) = c.id.displayed :: (firstIds cs).filter (!· == c.id.displayed) := by
  rw [firstIds, List.map_cons, List.eraseDups_cons, eraseDups_filter]
  rfl

end Comment

namespace Refine

open Comment

variable {path : String} {c : Comment} {cs : List Comment} {r : Refinement}

theorem mentions_eq_true_iff {id : String} : mentions r id = true ↔ id ∈ r.ids := by
  simp [mentions, Refinement.ids]

theorem suggestion_ofComment (hline : c.line = .int c.lineNumber) (hbody : ∃ text, c.body = .str text) :
    (Request.ofComment c).suggestion (.str path) = .ok (c.suggestion path) := by
  obtain ⟨text, hbody⟩ := hbody
  have htext : (Json.str text).displayed = text := String.ofList_toList
  unfold Request.ofComment Comment.suggestion
  rw [hline, hbody, htext]
  rfl

theorem implemented_ofComment (hline : c.line = .int c.lineNumber) :
    (Request.ofComment c).implemented (.str path) = .ok (c.carriedOut path) := by
  unfold Request.ofComment Comment.carriedOut
  rw [hline]
  rfl

/-- Comments with integers for lines and texts for bodies make suggestions. -/
theorem mapM_suggestion (path : String) (hlines : Numbered cs) (hbodies : ∀ c ∈ cs, ∃ text, c.body = .str text) :
    (cs.map Request.ofComment).mapM (·.suggestion (.str path)) = .ok (cs.map (Comment.suggestion path)) := by
  induction cs with
  | nil => rfl
  | cons c cs ih =>
      rw [List.forall_mem_cons] at hbodies
      obtain ⟨hline, hlines⟩ := List.forall_mem_cons.1 hlines
      rw [List.map_cons, List.mapM_cons, suggestion_ofComment hline hbodies.1, ih hlines hbodies.2]
      rfl

/-- The records that stand for the comments that an answer does not mention: one for each
id, with the file and the line of the first comment of that id. -/
structure Fills (path : String) (cs : List Comment) (r : Refinement) (added : List Implemented) : Prop where
  ids : added.map (·.id) = (firstIds cs).filter (· ∉ r.ids)
  first : ∀ a ∈ added, ∃ c, cs.find? (·.id.displayed == a.id) = some c ∧ a = c.carriedOut path

namespace Fills

variable {added : List Implemented}

theorem not_mem_ids (h : Fills path cs r added) {a : Implemented} (ha : a ∈ added) : a.id ∉ r.ids := by
  have hid : a.id ∈ added.map (·.id) := List.mem_map_of_mem ha
  rw [h.ids, List.mem_filter] at hid
  exact of_decide_eq_true hid.2

/-- A comment that is mentioned needs no record. -/
theorem cons_of_mem (h : Fills path cs r added) (hc : c.id.displayed ∈ r.ids) : Fills path (c :: cs) r added where
  ids := by
    rw [h.ids, firstIds_cons, List.filter_cons_of_neg (by simpa using hc), List.filter_filter]
    refine List.filter_congr fun id _ => ?_
    by_cases heq : id = c.id.displayed
    · simp [heq, hc]
    · simp [heq]
  first a ha := by
    obtain ⟨d, hd, heq⟩ := h.first a ha
    have hne : c.id.displayed ≠ a.id := fun heq => h.not_mem_ids ha (heq ▸ hc)
    exact ⟨d, by rw [List.find?_cons_of_neg (by simpa using hne), hd], heq⟩

/-- A comment that is not mentioned gets a record, and the rest is filled in for the
answer that has it. -/
theorem cons_of_not_mem (hc : c.id.displayed ∉ r.ids) (h : Fills path cs (r.extend [c.carriedOut path]) added) :
    Fills path (c :: cs) r (c.carriedOut path :: added) where
  ids := by
    rw [List.map_cons, h.ids, firstIds_cons, List.filter_cons_of_pos (by simpa using hc), List.filter_filter]
    refine congrArg (c.id.displayed :: ·) (List.filter_congr fun id _ => ?_)
    rw [Bool.eq_iff_iff]
    simp [Refinement.mem_ids_extend, Comment.carriedOut]
  first a ha := by
    rcases List.mem_cons.1 ha with rfl | ha
    · exact ⟨c, List.find?_cons_of_pos (beq_self_eq_true _), rfl⟩
    · obtain ⟨d, hd, heq⟩ := h.first a ha
      have hne : c.id.displayed ≠ a.id := by
        intro heq
        refine h.not_mem_ids ha (Refinement.mem_ids_extend.2 (Or.inr ?_))
        rw [← heq]
        exact List.mem_singleton_self _
      exact ⟨d, by rw [List.find?_cons_of_neg (by simpa using hne), hd], heq⟩

theorem nodup (h : Fills path cs r added) : (added.map (·.id)).Nodup := by
  rw [h.ids]
  exact (nodup_eraseDups _).filter _

theorem covers (h : Fills path cs r added) (hc : c ∈ cs) : c.id.displayed ∈ (r.extend added).ids := by
  rw [Refinement.mem_ids_extend, h.ids, List.mem_filter, firstIds, List.mem_eraseDups]
  by_cases hid : c.id.displayed ∈ r.ids
  · exact Or.inl hid
  · exact Or.inr ⟨List.mem_map_of_mem hc, decide_eq_true hid⟩

end Fills

theorem completed_spec (path : String) (hlines : Numbered cs) (r : Refinement) :
    ∃ added, completed (.str path) (cs.map Request.ofComment) r = .ok (r.extend added) ∧ Fills path cs r added := by
  -- the answer is what the loop carries along, so the induction is for every answer
  induction cs generalizing r with
  | nil => exact ⟨[], by simp [completed, Refinement.extend], rfl, by simp⟩
  | cons c cs ih =>
      obtain ⟨hline, hlines⟩ := List.forall_mem_cons.1 hlines
      rw [List.map_cons, completed]
      by_cases hc : (Request.ofComment c).id ∈ r.ids
      · obtain ⟨added, hrun, hfills⟩ := ih hlines r
        rw [if_pos (mentions_eq_true_iff.2 hc)]
        exact ⟨added, hrun, hfills.cons_of_mem hc⟩
      · obtain ⟨added, hrun, hfills⟩ := ih hlines (r.extend [c.carriedOut path])
        rw [if_neg (fun hm => hc (mentions_eq_true_iff.1 hm)), implemented_ofComment hline]
        rw [Refinement.extend_extend] at hrun
        exact ⟨c.carriedOut path :: added, hrun, hfills.cons_of_not_mem hc⟩

theorem code?_refinement (hcode : r.code ≠ []) : Answer.code? (some (.refinement r)) = some r := by
  have hsome : r.code.isEmpty = false := by simpa using hcode
  simp [Answer.code?, hsome]

/-- An answer with code comes back with the comments that it does not mention added to
those that were carried out.  There is one record for each of their ids, in the order in
which they first come, after which every comment is mentioned. -/
theorem changes_fill_mentions (path : String) (code : Text) {w : World} (hlines : Numbered cs)
    (hbodies : ∀ c ∈ cs, ∃ text, c.body = .str text) (hcode : r.code ≠ [])
    (hreply : w.refiner.reply w.refiner.asked.length (changePrompt code (cs.map (Comment.suggestion path))) =
      .ok (.refinement r)) :
    ∃ added, changes (.str path) code (cs.map Request.ofComment) w =
        .ok (some { r with implemented := r.implemented ++ added })
          (prompted w (changePrompt code (cs.map (Comment.suggestion path)))) ∧
      added.map (·.id) = (cs.map (·.id.displayed)).eraseDups.filter
        (fun id => id ∉ r.implemented.map (·.id) ∧ id ∉ r.skipped.map (·.id)) ∧
      (∀ a ∈ added, ∃ c, cs.find? (·.id.displayed == a.id) = some c ∧
        a = { id := c.id.displayed, path := path, line := c.lineNumber }) ∧
      (added.map (·.id)).Nodup ∧
      ∀ c ∈ cs, c.id.displayed ∈ (r.implemented ++ added).map (·.id) ∨ c.id.displayed ∈ r.skipped.map (·.id) := by
  obtain ⟨added, hdone, hfills⟩ := completed_spec path hlines r
  refine ⟨added, ?_, ?_, hfills.first, hfills.nodup, fun c hc => ?_⟩
  · have hrun : changesFor (.str path) code (cs.map Request.ofComment) w = _ :=
      changesFor_eq (mapM_suggestion path hlines hbodies) w
    rw [hreply, Except.toOption, code?_refinement hcode] at hrun
    simp only [hdone] at hrun
    exact recover_of_ok hrun
  · rw [hfills.ids]
    refine List.filter_congr fun id _ => ?_
    simp [Refinement.ids]
  · exact List.mem_append.1 (hfills.covers hc)

/-- Comments of which two have one id, as a number and as a text. -/
def repeating : List Comment :=
  [{ id := .int 5, body := .str "rename a", path := .str "a.py", line := .int 2 },
   { id := .int 8, body := .str "drop b", path := .str "a.py", line := .int 3 },
   { id := .str "8", body := .str "really", path := .str "a.py", line := .int 1 },
   { id := .int 6, body := .str "add a docstring", path := .str "a.py", line := .int 1 }]

/-- An answer that lists one suggestion twice and one that nobody made. -/
def overlapping : Refinement :=
  { name := "f", path := "a.py", startLine := 1, endLine := 3, code := "def f():\n    a".toList,
    implemented := [⟨"5", "a.py", 2⟩, ⟨"77", "b.py", 9⟩], skipped := [⟨"5", "too risky"⟩] }

def inattentive : World where
  forge := {}
  reviewer := Advisor.constant (.ok none)
  refiner := Advisor.constant (.ok (.refinement overlapping))
  parsers := Outline.Parsers.sound
  formatter := Formatter.absent

theorem changes_fill_inattentive : ∃ added w',
    changes (.str "a.py") "def f():\n    a\n    b".toList (repeating.map Request.ofComment) inattentive =
      .ok (some { overlapping with implemented := overlapping.implemented ++ added }) w' ∧
    added.map (·.id) = ["8", "6"] := by
  have hlines : Numbered repeating := by simp [Numbered, repeating, lineNumber, Json.count?]
  have hbodies : ∀ c ∈ repeating, ∃ text, c.body = .str text := by simp [repeating]
  have hreply (prompt : Text) : inattentive.refiner.reply 0 prompt = .ok (.refinement overlapping) := rfl
  obtain ⟨added, hrun, hids, -⟩ :=
    changes_fill_mentions "a.py" "def f():\n    a\n    b".toList hlines hbodies (by decide) (hreply _)
  exact ⟨added, _, hrun, hids.trans (by decide)⟩

end Refine

end Redline
