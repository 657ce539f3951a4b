import Redline.Review.Sections
import Redline.Proofs.Text.Search
import Redline.Proofs.Diff.Patch

/-!
# The code that a reviewer sees

A template is filled line by line, since no name between braces reaches over the end of a
line.  So the section of the code after a change stands in the text for a reviewer between
its own lines.  Two things are done to the code in it.  The section of the hunks is put in
wherever its name stands, and of three line feeds in a row one is taken away.  The code is
shown as it is exactly if neither of them finds anything (`after_code_shown_iff`).
-/

namespace Redline

open Text (lines unlines)

/-! ## Templates -/

namespace Template

theorem token_ne_nil (name : String) : token name ≠ [] := List.cons_ne_nil _ _

/-- A name is replaced on every line for itself. -/
theorem fillOne_unlines {name : String} (hname : '\n' ∉ token name) (value : Text) (ls : List Text) :
    fillOne (unlines ls) (name, value) = unlines (ls.map (fillOne · (name, value))) := by
  induction ls with
  | nil => rfl
  | cons l ls ih =>
      cases ls with
      | nil => simp
      | cons m ms =>
          rw [List.map_cons, List.map_cons, Text.unlines_cons_cons, Text.unlines_cons_cons]
          rw [List.map_cons] at ih
          rw [← ih]
          exact Text.replaceAll_append_cons (token_ne_nil name) hname _ _ _

/-- A template whose names are on one line each is filled line by line. -/
theorem fill_eq {t : Template} {ls : List Text} (htext : t.text = unlines ls) (hone : ∀ name ∈ t.names, '\n' ∉ token name)
    (values : List (String × Text)) (hnames : values.map (·.1) = t.names) :
    t.fill values = unlines (ls.map fun l => values.foldl fillOne l) := by
  rw [← hnames] at hone
  rw [fill, htext]
  clear htext hnames
  induction values generalizing ls with
  | nil => simp
  | cons v values ih =>
      rw [List.map_cons, List.forall_mem_cons] at hone
      rw [List.foldl_cons, fillOne_unlines hone.1, ih hone.2, List.map_map]
      rfl

theorem fillOne_of_not_contains {t : Text} {name : String} (h : t.contains (token name) = false) (value : Text) :
    fillOne t (name, value) = t :=
  Text.replaceAll_of_not_infix (Text.contains_eq_false_iff.1 h) _

theorem fillOne_of_not_mem {t : Text} (h : '\x7b' ∉ t) (value : String × Text) : fillOne t value = t := by
  refine Text.replaceAll_of_not_infix (fun hin => h (hin.subset ?_)) _
  exact List.mem_cons_self

theorem fillOne_token (name : String) (value : Text) : fillOne (token name) (name, value) = value := by
  have hwhole := Text.replaceAll_append (token_ne_nil name) value []
  rwa [List.append_nil, Text.replaceAll_nil, List.append_nil] at hwhole

/-- A name in a line, behind a character that is not in it. -/
theorem fillOne_within {name : String} {a b : Text} {c : Char} (hc : c ∉ token name)
    (ha : a.contains (token name) = false) (hb : b.contains (token name) = false) (value : Text) :
    fillOne (a ++ c :: (token name ++ b)) (name, value) = a ++ c :: (value ++ b) := by
  have ha' : a.replaceAll (token name) value = a := fillOne_of_not_contains ha value
  have hb' : b.replaceAll (token name) value = b := fillOne_of_not_contains hb value
  rw [fillOne, Text.replaceAll_append_cons (token_ne_nil name) hc, Text.replaceAll_append (token_ne_nil name), ha', hb']

/-- On the place of a name stands its value, in which the later names are replaced. -/
theorem foldl_fillOne_token {name : String} (names : List String)
    (hother : ∀ n ∈ names, (token name).contains (token n) = false) {earlier : List (String × Text)}
    (hnames : earlier.map (·.1) = names) (value : Text) (later : List (String × Text)) :
    (earlier ++ (name, value) :: later).foldl fillOne (token name) = later.foldl fillOne value := by
  induction earlier generalizing names with
  | nil => rw [List.nil_append, List.foldl_cons, fillOne_token]
  | cons v earlier ih =>
      subst hnames
      rw [List.map_cons, List.forall_mem_cons] at hother
      rw [List.cons_append, List.foldl_cons, fillOne_of_not_contains hother.1, ih _ hother.2 rfl]

end Template

open Template (token fillOne)

namespace Review

/-! ## Sections -/

section

variable (path before after changes : Text)

theorem unitTemplate_fill : ∃ title shown,
    unitTemplate.fill [("file_path", path), ("before_section", before), ("after_section", after),
      ("changes_section", changes)] =
      unlines [title, [], shown, [], fillOne after ("changes_section", changes), [], changes] := by
  have htext : unitTemplate.text = unlines ["## Code Unit in \x7bfile_path\x7d".toList, [], token "before_section", [],
    token "after_section", [], token "changes_section"] := by decide
  have hfill := Template.fill_eq htext (by decide)
    [("file_path", path), ("before_section", before), ("after_section", after), ("changes_section", changes)] rfl
  have hafter : [("file_path", path), ("before_section", before), ("after_section", after),
      ("changes_section", changes)].foldl fillOne (token "after_section") = fillOne after ("changes_section", changes) :=
    Template.foldl_fillOne_token ["file_path", "before_section"] (by decide)
      (show [("file_path", path), ("before_section", before)].map (·.1) = _ from rfl) after _
  have hchanges : [("file_path", path), ("before_section", before), ("after_section", after),
      ("changes_section", changes)].foldl fillOne (token "changes_section") = changes :=
    Template.foldl_fillOne_token ["file_path", "before_section", "after_section"] (by decide)
      (show [("file_path", path), ("before_section", before), ("after_section", after)].map (·.1) = _ from rfl) changes []
  simp only [List.map_cons, List.map_nil, hafter, hchanges] at hfill
  exact ⟨_, _, hfill⟩

def fence : Text := "```".toList

/-- The first line of the section of the code after. -/
def afterTitle (range : Text) : Text := "### After (lines ".toList ++ (range ++ "):".toList)

theorem afterTemplate_fill {range : Text} (hrange : '\x7b' ∉ range) (code : Text) :
    afterTemplate.fill [("line_range", range), ("code", code)] = unlines [afterTitle range, fence, code, fence] := by
  have htext : afterTemplate.text = unlines ["### After (lines".toList ++ ' ' :: (token "line_range" ++ "):".toList),
    fence, token "code", fence] := by decide
  have hfill := Template.fill_eq htext (by decide) [("line_range", range), ("code", code)] rfl
  have hcode : fillOne (fillOne (token "code") ("line_range", range)) ("code", code) = code :=
    Template.foldl_fillOne_token ["line_range"] (by decide) (show [("line_range", range)].map (·.1) = _ from rfl) code []
  have htitle : fillOne (fillOne ("### After (lines".toList ++ ' ' :: (token "line_range" ++ "):".toList))
      ("line_range", range)) ("code", code) = afterTitle range := by
    rw [Template.fillOne_within (by decide) (by decide) (by decide)]
    refine Template.fillOne_of_not_mem ?_ _
    have hstart : '\x7b' ∉ "### After (lines".toList := by decide
    have hend : '\x7b' ∉ "):".toList := by decide
    simp only [List.mem_append, List.mem_cons, not_or]
    exact ⟨hstart, by decide, hrange, hend⟩
  have hfence : ∀ v, fillOne fence v = fence := Template.fillOne_of_not_mem (by decide)
  simp only [List.map_cons, List.map_nil, List.foldl_cons, List.foldl_nil, hcode, htitle, hfence] at hfill
  exact hfill

theorem changesTemplate_fill (blocks : Text) :
    changesTemplate.fill [("diff_blocks", blocks)] = unlines ["## Changes:".toList, [], blocks] := by
  have htext : changesTemplate.text = unlines ["## Changes:".toList, [], token "diff_blocks"] := by decide
  have hfill := Template.fill_eq htext (by decide) [("diff_blocks", blocks)] rfl
  have htitle : fillOne "## Changes:".toList ("diff_blocks", blocks) = "## Changes:".toList :=
    Template.fillOne_of_not_mem (by decide) _
  simp only [List.map_cons, List.map_nil, List.foldl_cons, List.foldl_nil, htitle, Template.fillOne_token] at hfill
  exact hfill

theorem diffTemplate_fill (diff : Text) :
    diffTemplate.fill [("diff_text", diff)] = unlines ["```diff".toList, diff, fence] := by
  have htext : diffTemplate.text = unlines ["```diff".toList, token "diff_text", fence] := by decide
  have hfill := Template.fill_eq htext (by decide) [("diff_text", diff)] rfl
  have hopen : fillOne "```diff".toList ("diff_text", diff) = "```diff".toList := Template.fillOne_of_not_mem (by decide) _
  have hclose : fillOne fence ("diff_text", diff) = fence := Template.fillOne_of_not_mem (by decide) _
  simp only [List.map_cons, List.map_nil, List.foldl_cons, List.foldl_nil, hopen, hclose, Template.fillOne_token] at hfill
  exact hfill

/-- The hunks of a unit are none or longer than the name of their section. -/
theorem countP_changesSection (u : ChangedUnit) :
    (changesSection u).countP (· ≠ '\n') ≠ (token "changes_section").countP (· ≠ '\n') := by
  unfold changesSection
  split
  next => decide
  next hne =>
    obtain ⟨d, ds, hds⟩ := List.exists_cons_of_ne_nil (fun h => hne (List.isEmpty_iff.2 h))
    rw [changesTemplate_fill, hds, List.map_cons, diffTemplate_fill]
    generalize ds.map _ = blocks
    have hblock : "```diff".toList <+: unlines ["```diff".toList, d.display, fence] :=
      Outline.unlines_leads (a := ["```diff".toList]) (List.cons_ne_nil _ _) _
    have hfirst : ∀ b : Text, b <+: List.intercalate "\n\n".toList (b :: blocks) := by
      intro b
      cases blocks with
      | nil => exact List.prefix_append b []
      | cons c cs =>
          rw [List.intercalate_cons_cons, List.append_assoc]
          exact List.prefix_append _ _
    have hsub : ("## Changes:".toList ++ "```diff".toList).Sublist
        (unlines ["## Changes:".toList, [], List.intercalate "\n\n".toList
          (unlines ["```diff".toList, d.display, fence] :: blocks)]) := by
      rw [unlines, List.intercalate_cons_cons, List.intercalate_cons_cons, List.append_assoc]
      refine (List.Sublist.refl _).append (List.sublist_append_of_sublist_right ?_)
      refine List.sublist_append_of_sublist_right ?_
      rw [List.intercalate_singleton]
      exact (hblock.trans (hfirst _)).sublist
    have hcount := hsub.countP_le (p := (· ≠ '\n'))
    have hleft : ("## Changes:".toList ++ "```diff".toList).countP (· ≠ '\n') = 18 := by decide
    have htoken : (token "changes_section").countP (· ≠ '\n') = 17 := by decide
    rw [hleft] at hcount
    rw [htoken]
    omega

end

/-! ## Tidying -/

section

variable {t : Text} {c : Char}

/-- Only line feeds are taken away, so any other character keeps two texts apart. -/
theorem tidy_append_cons (hc : c ≠ '\n') (a b : Text) : tidy (a ++ c :: b) = tidy a ++ c :: tidy b := by
  refine Text.replaceAll_append_cons (by decide) (fun hmem => hc ?_) _ a b
  have hfeeds : "\n\n\n".toList.all (· == '\n') = true := by decide
  exact beq_iff_eq.1 (List.all_eq_true.1 hfeeds c hmem)

theorem tidy_append_of_not_mem {m : Text} (hm : '\n' ∉ m) (hne : m ≠ []) (a b : Text) :
    tidy (a ++ (m ++ b)) = tidy a ++ (m ++ tidy b) := by
  induction m generalizing a with
  | nil => exact absurd rfl hne
  | cons c m ih =>
      rw [List.mem_cons, not_or] at hm
      rw [List.cons_append, tidy_append_cons (Ne.symm hm.1)]
      cases m with
      | nil => rfl
      | cons d m => rw [← List.nil_append (d :: m ++ b), ih hm.2 (List.cons_ne_nil d m)]; rfl

/-- A text that begins with a line feed still does so. -/
theorem tidy_feed (b : Text) : ∃ back, tidy ('\n' :: b) = '\n' :: back := by
  by_cases h : "\n\n\n".toList <+: '\n' :: b
  · obtain ⟨x, hx⟩ := h
    rw [← hx, tidy, Text.replaceAll_append (by decide)]
    exact ⟨_, rfl⟩
  · exact ⟨_, Text.replaceAll_cons h _⟩

/-- And so does one that ends with a line feed. -/
theorem tidy_getLast (h : t.getLast? = some '\n') : (tidy t).getLast? = some '\n' := by
  unfold tidy
  induction t using Text.replaceAll_induction (p := "\n\n\n".toList) (by decide) with
  | nil => cases h
  | skip c t hskip ih =>
      rw [Text.replaceAll_cons hskip]
      cases t with
      | nil => exact h
      | cons d t =>
          rw [List.getLast?_cons_cons] at h
          rw [List.getLast?_cons, ih h]
          rfl
  | found x ih =>
      rw [Text.replaceAll_append (by decide), List.getLast?_append]
      cases x with
      | nil => rfl
      | cons d x =>
          rw [List.getLast?_append_cons] at h
          rw [ih h]
          rfl

end

/-! ## The code after a change -/

/-- What stands between the fences: the code on lines of its own, with the hunks put in for
the name of their section, and tidied. -/
def fencedCode (code changes : Text) : Text :=
  tidy ('\n' :: code.replaceAll (token "changes_section") changes ++ ['\n'])

/-- The name of the section of the hunks is not in the code, and neither are three line
feeds in a row, with those at the fences counted. -/
structure Undisturbed (code : Text) : Prop where
  name : ¬token "changes_section" <:+: code
  feeds : ¬"\n\n\n".toList <:+: '\n' :: code ++ ['\n']

theorem fencedCode_eq_iff (code : Text) {changes : Text}
    (hchanges : changes.countP (· ≠ '\n') ≠ (token "changes_section").countP (· ≠ '\n')) :
    fencedCode code changes = '\n' :: code ++ ['\n'] ↔ Undisturbed code := by
  unfold fencedCode tidy
  constructor
  · intro h
    -- Tidying keeps all but the line feeds, so the code has as many other characters as before.
    have hname : ¬token "changes_section" <:+: code := by
      obtain ⟨k, hk, hcount⟩ :=
        Text.countP_replaceAll (Template.token_ne_nil "changes_section") changes (· ≠ '\n') code
      obtain ⟨n, -, htidy⟩ := Text.countP_replaceAll (p := "\n\n\n".toList) (by decide) "\n\n".toList (· ≠ '\n')
        ('\n' :: code.replaceAll (token "changes_section") changes ++ ['\n'])
      have hnone : "\n\n\n".toList.countP (· ≠ '\n') = 0 := by decide
      have hnone' : "\n\n".toList.countP (· ≠ '\n') = 0 := by decide
      have hframe : ∀ x : Text, ('\n' :: x ++ ['\n']).countP (· ≠ '\n') = x.countP (· ≠ '\n') := fun x => by simp
      rw [h, hnone, hnone', hframe, hframe] at htidy
      refine hk.1 ?_
      have hprod : k * (token "changes_section").countP (· ≠ '\n') = k * changes.countP (· ≠ '\n') := by omega
      by_contra hpos
      exact hchanges (Nat.eq_of_mul_eq_mul_left (Nat.pos_of_ne_zero hpos) hprod).symm
    rw [Text.replaceAll_of_not_infix hname] at h
    refine ⟨hname, ?_⟩
    obtain ⟨k, hk, hcount⟩ := Text.countP_replaceAll (p := "\n\n\n".toList) (by decide) "\n\n".toList (· == '\n')
      ('\n' :: code ++ ['\n'])
    have hthree : "\n\n\n".toList.countP (· == '\n') = 3 := by decide
    have htwo : "\n\n".toList.countP (· == '\n') = 2 := by decide
    rw [h, hthree, htwo] at hcount
    exact hk.1 (by omega)
  · rintro ⟨hname, hfeeds⟩
    rw [Text.replaceAll_of_not_infix hname, Text.replaceAll_of_not_infix hfeeds]

section

variable {u : ChangedUnit} {s : Site} {code : String}

theorem codeOf_str (hne : code ≠ "") : codeOf (.str code) = some (.str code) := by
  simp [codeOf, Json.truthy, hne]

/-- A unit with code after its change is shown with it. -/
theorem shownSections_after (hcode : u.afterCode = .str code) (hne : code ≠ "") (complex : Bool) :
    (shownSections (changeKind u) complex u).2 = afterSection u := by
  unfold changeKind
  rw [hcode, codeOf_str hne]
  cases codeOf u.beforeCode <;> rfl

theorem showsBoth_ok (hcode : u.afterCode = .str code) (hbefore : u.beforeCode = .null ∨ ∃ old, u.beforeCode = .str old)
    (kind : ChangeKind) : ∃ complex, showsBoth kind u = .ok complex := by
  have hcomplex : ∃ judged, complexity u = .ok judged := by
    unfold complexity
    split
    next before after hb ha =>
      have hsame : ∀ {v w : Json}, codeOf v = some w → w = v := fun h => by
        unfold codeOf at h
        split at h <;> cases h
        rfl
      rw [hsame ha, hcode]
      rcases hbefore with hnull | ⟨old, hold⟩
      · rw [hnull] at hb
        cases hb
      · rw [hsame hb, hold]
        exact ⟨_, rfl⟩
    next => exact ⟨(false, []), rfl⟩
  obtain ⟨judged, hjudged⟩ := hcomplex
  unfold showsBoth
  split
  next => exact ⟨judged.1, by rw [isComplex, hjudged]; rfl⟩
  next => exact ⟨false, rfl⟩

theorem not_mem_lineRange {a b : Int} (ha : s.startLine = .int a) (hb : s.endLine = .int b) {c : Char}
    (hdigit : c.isDigit = false) (hminus : c ≠ '-') : c ∉ lineRange s := by
  rw [lineRange, ha, hb]
  simp only [List.mem_append, List.mem_cons, not_or]
  exact ⟨Diff.not_mem_intText hdigit hminus a, hminus, Diff.not_mem_intText hdigit hminus b⟩

theorem afterSection_eq (hsite : u.after = some s) (hrange : '\x7b' ∉ lineRange s) (hcode : u.afterCode = .str code)
    (hne : code ≠ "") : afterSection u = unlines [afterTitle (lineRange s), fence, code.toList, fence] := by
  rw [afterSection, hsite, hcode]
  unfold sideSection
  rw [codeOf_str hne]
  exact afterTemplate_fill hrange _

end

theorem not_mem_afterTitle {range : Text} {c : Char} (hrange : c ∉ range) (hstart : c ∉ "### After (lines ".toList)
    (hend : c ∉ "):".toList) : c ∉ afterTitle range :=
  fun h => (List.mem_append.1 h).elim hstart fun h => (List.mem_append.1 h).elim hrange hend

/-- The section of the code after stands on lines of its own, with its code between fences. -/
theorem unitText_eq {u : ChangedUnit} {kind : ChangeKind} {complex : Bool} {range code : Text}
    (hbrace : '\x7b' ∉ range) (hfeed : '\n' ∉ range)
    (hafter : (shownSections kind complex u).2 = unlines [afterTitle range, fence, code, fence]) (path : Json) :
    ∃ front back, unitText path kind complex u = front ++ '\n' ::
      (afterTitle range ++ '\n' :: (fence ++ (fencedCode code (changesSection u) ++ (fence ++ '\n' :: back)))) := by
  have htitle := not_mem_afterTitle hbrace (by decide) (by decide)
  have htitle' := not_mem_afterTitle hfeed (by decide) (by decide)
  -- The hunks are put in for their name, which can stand in the code only.
  have hfilled : fillOne (unlines [afterTitle range, fence, code, fence]) ("changes_section", changesSection u) =
      unlines [afterTitle range, fence, code.replaceAll (token "changes_section") (changesSection u), fence] := by
    have hfence : ∀ v, fillOne fence v = fence := Template.fillOne_of_not_mem (by decide)
    rw [Template.fillOne_unlines (by decide)]
    simp only [List.map_cons, List.map_nil, Template.fillOne_of_not_mem htitle, hfence]
    rfl
  obtain ⟨title, shown, hfill⟩ := unitTemplate_fill path.display (shownSections kind complex u).1
    (shownSections kind complex u).2 (changesSection u)
  have hends : (Outline.closed [title, [], shown, []]).getLast? = some '\n' := by
    rw [Outline.closed_eq (List.cons_ne_nil _ _), List.getLast?_concat]
  obtain ⟨front, hfront⟩ := List.getLast?_eq_some_iff.1 (tidy_getLast hends)
  obtain ⟨back, hback⟩ := tidy_feed (unlines [[], changesSection u])
  refine ⟨front, back, ?_⟩
  have hfence : '\n' ∉ fence := by decide
  have hlast : tidy (('\n' :: (code.replaceAll (token "changes_section") (changesSection u)) ++ ['\n']) ++
      (fence ++ '\n' :: unlines [[], changesSection u])) =
        fencedCode code (changesSection u) ++ (fence ++ '\n' :: back) := by
    rw [tidy_append_of_not_mem hfence (by decide), hback]
    rfl
  have hsection : tidy (['\n'] ++ (fence ++ (('\n' :: (code.replaceAll (token "changes_section") (changesSection u)) ++
      ['\n']) ++ (fence ++ '\n' :: unlines [[], changesSection u])))) =
        '\n' :: (fence ++ (fencedCode code (changesSection u) ++ (fence ++ '\n' :: back))) := by
    rw [tidy_append_of_not_mem hfence (by decide), hlast]
    rfl
  have hlayout : ∀ x y code changes : Text, unlines [title, [], shown, [], unlines [x, y, code, y], [], changes] =
      Outline.closed [title, [], shown, []] ++ (x ++ (['\n'] ++ (y ++ (('\n' :: code ++ ['\n']) ++
        (y ++ '\n' :: unlines [[], changes]))))) := by
    intro x y code changes
    have happend := Outline.unlines_append (a := [title, [], shown, []]) (b := [unlines [x, y, code, y], [], changes])
      (List.cons_ne_nil _ _)
    rw [List.cons_append, List.cons_append, List.cons_append, List.cons_append, List.nil_append] at happend
    rw [happend, Text.unlines_cons_cons (unlines _), Text.unlines_cons_cons x, Text.unlines_cons_cons y,
      Text.unlines_cons_cons code, Text.unlines_singleton]
    simp only [List.append_assoc, List.cons_append, List.nil_append]
  unfold unitText
  dsimp only
  rw [hfill, hafter, hfilled, hlayout, tidy_append_of_not_mem htitle' (List.append_ne_nil_of_left_ne_nil (by decide) _),
    hsection, hfront, List.append_assoc, List.singleton_append]

/-- The lines of a text with code between fences. -/
theorem lines_section {title : Text} (htitle : '\n' ∉ title) (front code back : Text) :
    lines (front ++ '\n' :: (title ++ '\n' :: (fence ++ ('\n' :: code ++ ['\n'] ++ (fence ++ '\n' :: back))))) =
      front.lines ++ [title, fence] ++ (code.lines ++ ([fence] ++ back.lines)) := by
  have hfence : fence.lines = [fence] := Text.lines_of_not_mem (by decide)
  have hcode : '\n' :: code ++ ['\n'] ++ (fence ++ '\n' :: back) = '\n' :: (code ++ '\n' :: (fence ++ '\n' :: back)) := by
    simp
  rw [hcode, Text.lines_append_feed, Text.lines_append_feed, Text.lines_append_feed, Text.lines_append_feed,
    Text.lines_append_feed, hfence, Text.lines_of_not_mem htitle]
  simp

/-- The code after a change stands between fences in the text for a reviewer.  It is the
code of the unit exactly if that is undisturbed, and then its lines are those of the file. -/
theorem after_code_shown_iff {u : ChangedUnit} {s : Site} {a b : Int} {code : String} (hsite : u.after = some s)
    (ha : s.startLine = .int a) (hb : s.endLine = .int b) (hcode : u.afterCode = .str code) (hne : code ≠ "")
    (hbefore : u.beforeCode = .null ∨ ∃ old, u.beforeCode = .str old) (path : Json) (isTest : Bool) :
    ∃ text instruction front back, presentation path u (changeKind u) isTest = .ok (text, instruction) ∧
      text = front ++ '\n' :: (afterTitle (lineRange s) ++ '\n' :: (fence ++
        (fencedCode code.toList (changesSection u) ++ (fence ++ '\n' :: back)))) ∧
      (fencedCode code.toList (changesSection u) = '\n' :: code.toList ++ ['\n'] ↔ Undisturbed code.toList) ∧
      (Undisturbed code.toList →
        text.lines = front.lines ++ [afterTitle (lineRange s), fence] ++ (lines code.toList ++ ([fence] ++ lines back)) ∧
        ∀ file : List Text, lines code.toList <+: file.drop (a.toNat - 1) → ∀ k < (lines code.toList).length,
          text.lines[front.lines.length + 2 + k]? = file[a.toNat - 1 + k]?) := by
  have hbrace : '\x7b' ∉ lineRange s := not_mem_lineRange ha hb (by decide) (by decide)
  have hfeed : '\n' ∉ lineRange s := not_mem_lineRange ha hb (by decide) (by decide)
  obtain ⟨complex, hcomplex⟩ := showsBoth_ok hcode hbefore (changeKind u)
  have hafter := (shownSections_after hcode hne complex).trans (afterSection_eq hsite hbrace hcode hne)
  obtain ⟨front, back, htext⟩ := unitText_eq hbrace hfeed hafter path
  have hiff := fencedCode_eq_iff code.toList (countP_changesSection u)
  have hrun : presentation path u (changeKind u) isTest =
      .ok (unitText path (changeKind u) complex u, forTests isTest (instruction (changeKind u) complex)) := by
    rw [presentation, hcomplex]
    rfl
  refine ⟨_, _, front, back, hrun, htext, hiff, fun hcond => ?_⟩
  have hlines := lines_section (not_mem_afterTitle hfeed (by decide) (by decide)) front code.toList back
  rw [← hiff.2 hcond, ← htext] at hlines
  refine ⟨hlines, fun file hfile k hk => ?_⟩
  obtain ⟨rest, hrest⟩ := hfile
  have hindex : front.lines.length + 2 + k = (front.lines ++ [afterTitle (lineRange s), fence]).length + k := by simp
  rw [hlines, hindex, List.getElem?_append_right (Nat.le_add_right _ _), Nat.add_sub_cancel_left,
    List.getElem?_append_left hk, ← List.getElem?_drop, ← hrest, List.getElem?_append_left hk]

/-- A unit whose code has one line feed, and hunks. -/
def shortUnit : ChangedUnit where
  path := "a.py"
  afterCode := .str "x = 1\ny = 2"
  after := some ⟨"a.py", .int 3, .int 4, none⟩
  diffs := [.str "@@ -2,0 +3,2 @@"]

theorem after_code_shown_short : Undisturbed "x = 1\ny = 2".toList ∧
    ∃ text instruction front back, presentation (.str "a.py") shortUnit (changeKind shortUnit) false = .ok (text, instruction) ∧
      text.lines = front ++ ["### After (lines 3-4):".toList, fence, "x = 1".toList, "y = 2".toList, fence] ++ back := by
  have hcode : Undisturbed "x = 1\ny = 2".toList :=
    ⟨Text.contains_eq_false_iff.1 (by decide), Text.contains_eq_false_iff.1 (by decide)⟩
  obtain ⟨text, instruction, front, back, hrun, -, -, hlines⟩ :=
    after_code_shown_iff (u := shortUnit) (a := 3) (b := 4) rfl rfl rfl rfl (by decide) (Or.inl rfl) (.str "a.py") false
  refine ⟨hcode, text, instruction, front.lines, lines back, hrun, ?_⟩
  rw [(hlines hcode).1]
  have htitle : afterTitle (lineRange ⟨"a.py", .int 3, .int 4, none⟩) = "### After (lines 3-4):".toList := by decide
  have hcodeLines : lines "x = 1\ny = 2".toList = ["x = 1".toList, "y = 2".toList] := by decide
  rw [htitle, hcodeLines]
  simp

def spacedUnit : ChangedUnit where
  path := "a.py"
  afterCode := .str "a\n\n\nb"
  after := some ⟨"a.py", .int 1, .int 4, none⟩

theorem spaced_code_altered : ∃ text instruction,
    presentation (.str "a.py") spacedUnit (changeKind spacedUnit) false = .ok (text, instruction) ∧
      text = "## Code Unit in a.py\n\n\n### After (lines 1-4):\n```\na\n\nb\n```\n\n".toList ∧
      ¬"a\n\n\nb".toList <:+: text := by
  refine ⟨_, _, rfl, by decide, Text.contains_eq_false_iff.1 (by decide)⟩

end Review

end Redline
