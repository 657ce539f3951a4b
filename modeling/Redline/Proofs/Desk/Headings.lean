import Redline.Proofs.Desk.Attempts
import Redline.Proofs.Text.Search

/-!
# Categories in headings

A comment that tells a finding begins with a heading: the category, a dash and the severity.
When comments are read, the category is taken from the heading again.  The marks around the
heading are dropped first, and then the part before the first dash is taken.  So the category
comes back if no mark of it is dropped and no dash in it comes first, and if the severity
keeps the dash from being dropped at the end (`posted_category_read_back`).
-/

namespace Redline

/-! ## The parts of a heading -/

/-- The category of a finding can be read from its heading: it is one line that begins with no
mark of a heading and has no dash between spaces, nor would it have one if a space followed.
The severity is one line and not only marks. -/
structure Finding.Legible (f : Finding) : Prop where
  category_ne : f.category.toList ≠ []
  category_line : '\n' ∉ f.category.toList
  category_head : ∀ c ∈ f.category.toList.head?, c ≠ '#' ∧ c ≠ ' '
  category_dash : ¬" - ".toList <:+: f.category.toList
  category_last : ¬" -".toList <:+ f.category.toList
  severity_line : '\n' ∉ f.severity.toList
  /-- It has a character that is kept at the end of the heading. -/
  severity_kept : ∃ c ∈ f.severity.toList, c ≠ '#' ∧ c ≠ ' '

namespace Pull

/-- No dash between spaces begins in a category before the one that follows it. -/
theorem dash_follows {a : Text} (hdash : ¬" - ".toList <:+: a) (hlast : ¬" -".toList <:+ a) (x b c : Text)
    (hbc : a = b ++ c) (hc : c ≠ []) : ¬" - ".toList <+: c ++ (" - ".toList ++ x) := by
  intro h
  match c, hc with
  | [d], _ => simp at h
  | [d, e], _ =>
      have hde : d = ' ' ∧ e = '-' := by simpa [eq_comm] using h
      exact hlast ⟨b, by rw [hbc, hde.1, hde.2]; rfl⟩
  | d :: e :: g :: c, _ =>
      refine hdash ?_
      have hpre : " - ".toList <+: d :: e :: g :: c := by simpa using h
      exact hbc ▸ hpre.isInfix.trans (List.suffix_append b _).isInfix

theorem isHeadingMark_eq_false {c : Char} : isHeadingMark c = false ↔ c ≠ '#' ∧ c ≠ ' ' := by
  simp [isHeadingMark]

/-- The category that a heading names. -/
theorem headingCategory_of_legible {f : Finding} (h : f.Legible) :
    headingCategory ("# ".toList ++ (f.category.toList ++ (" - ".toList ++ f.severity.toList))) =
      f.category.toList := by
  obtain ⟨m, hm⟩ := h.severity_kept
  obtain ⟨x, y, hxy⟩ := List.append_of_mem hm.1
  have hmarks : ∀ c ∈ "# ".toList, isHeadingMark c = true := List.all_eq_true.1 (by decide)
  have hhead : ∀ c ∈ (f.category.toList ++ (" - ".toList ++ f.severity.toList)).head?, isHeadingMark c = false := by
    intro c hc
    rw [List.head?_append_of_ne_nil _ h.category_ne] at hc
    exact isHeadingMark_eq_false.2 (h.category_head c hc)
  have hright : Text.trimRight (f.category.toList ++ (" - ".toList ++ f.severity.toList)) isHeadingMark =
      f.category.toList ++ (" - ".toList ++ (x ++ m :: Text.trimRight y isHeadingMark)) := by
    have hparts : f.category.toList ++ (" - ".toList ++ f.severity.toList) =
        f.category.toList ++ " - ".toList ++ x ++ m :: y := by
      rw [hxy]
      simp only [List.append_assoc]
    rw [hparts, Text.trimRight_append (isHeadingMark_eq_false.2 hm.2)]
    simp only [List.append_assoc]
  rw [headingCategory, Text.trim, List.dropWhile_append_of_pos hmarks, Text.dropWhile_of_head hhead, hright]
  exact Text.headD_splitOn (by decide) (dash_follows h.category_dash h.category_last _)

end Pull

namespace Desk

open Session
open Refine (firstPull)

/-! ## What is posted and read -/

theorem findingText_toList (f : Finding) : (findingText f).toList =
    "# ".toList ++ (f.category.toList ++ (" - ".toList ++ f.severity.toList)) ++
      '\n' :: ('\n' :: f.description.toList ++ "\n\n**Suggestion**: ".toList ++ f.suggestion.toList) := by
  simp [findingText]

/-- The category of a finding is read from the text that tells the finding. -/
theorem categoryOf_findingText {f : Finding} (h : f.Legible) :
    Pull.categoryOf (findingText f).toList = f.category := by
  have hline : '\n' ∉ "# ".toList ++ (f.category.toList ++ (" - ".toList ++ f.severity.toList)) := by
    simp [h.category_line, h.severity_line]
  have hfirst : (Text.lines (findingText f).toList).headD [] =
      "# ".toList ++ (f.category.toList ++ (" - ".toList ++ f.severity.toList)) := by
    rw [findingText_toList, Text.lines_append hline]
    rfl
  have hmark : ∃ t, (findingText f).toList = '#' :: t := ⟨_, findingText_toList f⟩
  obtain ⟨t, ht⟩ := hmark
  rw [ht] at hfirst ⊢
  rw [Pull.categoryOf, hfirst, Pull.headingCategory_of_legible h, String.ofList_toList]

theorem toComment_of_finding {f : Finding} (h : f.Legible) {r : Forge.Remark} (hr : r.body = .str (findingText f)) :
    ∃ k, Pull.toComment r = .ok k ∧ k.category = f.category := by
  have hsome : Json.truthy (.str (findingText f)) = true := by
    simp [Json.truthy, findingText]
  have hcategory : Pull.categoryIn r.body = .ok f.category := by
    rw [hr, Pull.categoryIn, if_pos hsome, ← categoryOf_findingText h]
    rfl
  exact ⟨_, by rw [Pull.toComment, hcategory]; rfl, rfl⟩

/-- A review posts its findings file by file and one after the other.  To post one with a legible
category makes one request for a comment on a line, unless it fails before.  Whatever comment
has the body of this request is read as one of the category of the finding. -/
theorem posted_category_read_back {f : Finding} (h : f.Legible) (c : PullContext) (path : Json)
    (rest : List Finding) (more : List (Json × List Finding)) (w : World) : ∃ w₁ new,
      postResults c ((path, f :: rest) :: more) w = postResults c ((path, rest) :: more) w₁ ∧
      w₁.forge.log = w.forge.log ++ new ∧
      ((new.filter (·.isLineComment) = [] ∧
          ∃ e, Pull.postLineComment c path (.int f.line) (.str (findingText f)) (.str f.side) w = .error e w₁) ∨
        ∃ body commit, new.filter (·.isLineComment) =
            [.lineComment body commit path (.int f.line) (Pull.sideOf (.str f.side))] ∧
          ∀ r : Forge.Remark, r.body = body → ∃ k, Pull.toComment r = .ok k ∧ k.category = f.category) := by
  obtain ⟨new, hlog, hnew⟩ := postLineComment_requests c path (.int f.line) (.str (findingText f)) (.str f.side) w
  obtain ⟨_, w₁, hrun⟩ :=
    recover_ok () (Pull.postLineComment c path (.int f.line) (.str (findingText f)) (.str f.side)) w
  have hafter : after (Pull.postLineComment c path (.int f.line) (.str (findingText f)) (.str f.side)) w = w₁ := by
    rw [← after_recover (), after_of_ok hrun]
  rw [hafter] at hlog
  refine ⟨w₁, new, ?_, hlog, ?_⟩
  · rw [postResults, postFindings, bind_assoc, bind_of_ok hrun]
    rfl
  · rcases hnew with ⟨hnone, e, w₂, hfailed⟩ | ⟨commit, hone⟩
    · rw [after_of_error hfailed] at hafter
      exact Or.inl ⟨hnone, e, hafter ▸ hfailed⟩
    · exact Or.inr ⟨_, commit, hone, fun r hr => toComment_of_finding h hr⟩

/-- A finding whose category ends in a space and whose severity is between marks. -/
def spacedFinding : Finding where
  path := "a.py"
  line := 2
  category := "Bug#1-a "
  severity := "# - High #"
  description := "# Style - Low"
  suggestion := ""
  side := "RIGHT"

theorem spacedFinding_legible : spacedFinding.Legible where
  category_ne := by decide +kernel
  category_line := by decide +kernel
  category_head := by
    intro c hc
    cases hc
    decide
  category_dash := by decide +kernel
  category_last := by decide +kernel
  severity_line := by decide +kernel
  severity_kept := ⟨'H', by decide +kernel, by decide⟩

theorem posted_category_read_back_spaced : spacedFinding.Legible ∧ ∃ w₁ body commit,
    postResults firstPull [(.str "a.py", [spacedFinding])] (signs ["a.py"] fun _ _ => none) =
      postResults firstPull [(.str "a.py", [])] w₁ ∧
    .lineComment body commit (.str "a.py") (.int 2) "RIGHT" ∈ w₁.forge.log ∧
    ∃ k, Pull.toComment { id := .int 7, body := body } = .ok k ∧ k.category = "Bug#1-a " := by
  obtain ⟨w₁, new, hrun, hlog, hposted⟩ := posted_category_read_back spacedFinding_legible firstPull (.str "a.py") [] []
    (signs ["a.py"] fun _ _ => none)
  obtain ⟨w', hdone⟩ : ∃ w', Pull.postLineComment firstPull (.str "a.py") (.int spacedFinding.line)
      (.str (findingText spacedFinding)) (.str spacedFinding.side) (signs ["a.py"] fun _ _ => none) = .ok () w' :=
    ⟨_, rfl⟩
  rcases hposted with ⟨-, e, hfailed⟩ | ⟨body, commit, hone, hread⟩
  · cases hdone.symm.trans hfailed
  · have hmem := (List.mem_filter.1 (hone ▸ List.mem_singleton_self _)).1
    refine ⟨spacedFinding_legible, w₁, body, commit, hrun, ?_, hread _ rfl⟩
    rw [hlog]
    exact List.mem_append_right _ hmem

end Desk

end Redline
