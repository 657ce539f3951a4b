import Redline.Proofs.Diff.Sides

/-!
# Hunks without their numbers

Numbers are put behind the first character of a line, and that character tells whether
there are any.  So two hunks that are shown alike with the same first numbers are the
same, whatever the numbers are.  Numbers that are integers hold no colon, so they can be
taken out again without being known: `unnumber` gives every hunk back (`numbered_decodable`).
-/

namespace Redline.Diff

open Text (unlines)
open Number (intText)

/-! ## One line -/

/-- The numbers of a line, by its first character. -/
def inserted (old new : Json) : Option Char → Text
  | some '+' => new.display ++ ": ".toList
  | some '-' => old.display ++ ": ".toList
  | some ' ' => old.display ++ ',' :: new.display ++ ": ".toList
  | _ => []

/-- The numbers of the next line, behind a line with a first character. -/
def counted (old new : Json) : Option Char → Except Fault (Json × Json)
  | some '+' => do return (old, ← nextNumber new)
  | some '-' => do return (← nextNumber old, new)
  | some ' ' => do return (← nextNumber old, ← nextNumber new)
  | _ => .ok (old, new)

def withNumbers (old new : Json) (l : Text) : Text := l.take 1 ++ (inserted old new l.head? ++ l.drop 1)

theorem withNumbers_cons (old new : Json) (c : Char) (t : Text) :
    withNumbers old new (c :: t) = c :: (inserted old new (some c) ++ t) := rfl

/-- A line gets its numbers, and the others are counted on. -/
theorem numberLines_cons (old new : Json) (l : Text) (ls : List Text) : numberLines old new (l :: ls) = (do
      let next ← counted old new l.head?
      let rest ← numberLines next.1 next.2 ls
      return withNumbers old new l :: rest) := by
  conv_lhs => unfold numberLines
  split
  next t => simp [counted, withNumbers, inserted]
  next t => simp [counted, withNumbers, inserted]
  next t => simp [counted, withNumbers, inserted]
  next hplus hminus hspace =>
    cases l with
    | nil => rfl
    | cons c t =>
        have hc : c ≠ '+' ∧ c ≠ '-' ∧ c ≠ ' ' :=
          ⟨fun h => hplus t (h ▸ rfl), fun h => hminus t (h ▸ rfl), fun h => hspace t (h ▸ rfl)⟩
        have hcounted : counted old new (some c) = .ok (old, new) := by simp [counted, hc]
        have hinserted : inserted old new (some c) = [] := by simp [inserted, hc]
        rw [withNumbers_cons, hinserted, List.head?_cons, hcounted]
        rfl

theorem numberLines_cons_eq_ok {old new : Json} {l : Text} {ls rows : List Text}
    (h : numberLines old new (l :: ls) = .ok rows) : ∃ next rest, counted old new l.head? = .ok next ∧
      numberLines next.1 next.2 ls = .ok rest ∧ rows = withNumbers old new l :: rest := by
  rw [numberLines_cons] at h
  obtain ⟨next, hnext, h⟩ := except_bind_eq_ok.1 h
  obtain ⟨rest, hrest, h⟩ := except_bind_eq_ok.1 h
  cases h
  exact ⟨next, rest, hnext, hrest, rfl⟩

theorem endsLine_append_inj {a b x y : Text} (ha : '\n' ∉ a) (hb : '\n' ∉ b) (hx : EndsLine x) (hy : EndsLine y)
    (h : a ++ x = b ++ y) : a = b ∧ x = y := by
  have hab : a = b := by rw [← firstLine_append ha hx, h, firstLine_append hb hy]
  subst hab
  exact ⟨rfl, List.append_cancel_left h⟩

/-- An empty line is told from a line with something in it by what is shown first. -/
theorem withNumbers_ne {old new : Json} {c : Char} {t x y : Text} (hl : '\n' ∉ c :: t) (hx : EndsLine x) :
    x ≠ withNumbers old new (c :: t) ++ y := by
  rintro rfl
  exact hl (by rw [hx c rfl]; exact List.mem_cons_self)

/-- Lines that are shown alike with the same numbers are the same. -/
theorem withNumbers_inj {old new : Json} {l m x y : Text} (hl : '\n' ∉ l) (hm : '\n' ∉ m) (hx : EndsLine x)
    (hy : EndsLine y) (h : withNumbers old new l ++ x = withNumbers old new m ++ y) : l = m ∧ x = y := by
  cases l with
  | nil =>
      cases m with
      | nil => exact ⟨rfl, h⟩
      | cons d u => exact absurd h (withNumbers_ne hm hx)
  | cons c t =>
      cases m with
      | nil => exact absurd h.symm (withNumbers_ne hl hy)
      | cons d u =>
          rw [withNumbers_cons, withNumbers_cons, List.cons_append, List.cons_append] at h
          obtain ⟨rfl, hrest⟩ := List.cons.inj h
          rw [List.append_assoc, List.append_assoc] at hrest
          obtain ⟨rfl, rfl⟩ := endsLine_append_inj (fun h => hl (List.mem_cons_of_mem _ h))
            (fun h => hm (List.mem_cons_of_mem _ h)) hx hy (List.append_cancel_left hrest)
          exact ⟨rfl, rfl⟩

/-! ## Hunks that are shown alike -/

/-- The numbers are the same for both texts all the way, since they are counted on by what
is shown. -/
theorem numberLines_inj {old new : Json} {ls ms rows rows' : List Text} (hls : ∀ l ∈ ls, '\n' ∉ l)
    (hms : ∀ m ∈ ms, '\n' ∉ m) (h : numberLines old new ls = .ok rows) (h' : numberLines old new ms = .ok rows')
    (heq : opened rows = opened rows') : ls = ms := by
  induction ls generalizing old new ms rows rows' with
  | nil =>
      cases h
      cases ms with
      | nil => rfl
      | cons m ms =>
          obtain ⟨next, rest, -, -, rfl⟩ := numberLines_cons_eq_ok h'
          cases heq
  | cons l ls ih =>
      obtain ⟨next, rest, hnext, hrest, rfl⟩ := numberLines_cons_eq_ok h
      cases ms with
      | nil =>
          cases h'
          cases heq
      | cons m ms =>
          obtain ⟨next', rest', hnext', hrest', rfl⟩ := numberLines_cons_eq_ok h'
          rw [List.forall_mem_cons] at hls hms
          obtain ⟨rfl, hbelow⟩ := withNumbers_inj hls.1 hms.1 (endsLine_opened rest) (endsLine_opened rest')
            (List.cons.inj heq).2
          -- the two first lines are the same, so both go on with the same numbers
          cases hnext.symm.trans hnext'
          rw [ih hls.2 hms.2 hrest hrest' hbelow]

theorem numberLines_int (old new : Int) (ls : List Text) :
    numberLines (.int old) (.int new) ls = .ok (annotateLines old new ls) := by
  fun_induction annotateLines old new ls with
  | case1 => rfl
  | case2 old new ls t ih => exact except_bind_eq_ok.2 ⟨.int (new + 1), rfl, except_bind_eq_ok.2 ⟨_, ih, rfl⟩⟩
  | case3 old new ls t ih => exact except_bind_eq_ok.2 ⟨.int (old + 1), rfl, except_bind_eq_ok.2 ⟨_, ih, rfl⟩⟩
  | case4 old new ls t ih =>
      exact except_bind_eq_ok.2 ⟨.int (old + 1), rfl, except_bind_eq_ok.2 ⟨.int (new + 1), rfl,
        except_bind_eq_ok.2 ⟨_, ih, rfl⟩⟩⟩
  | case5 old new l ls hplus hminus hspace ih =>
      rw [numberLines, ih]
      · rfl
      · exact hplus
      · exact hminus
      · exact hspace

/-- A hunk that is shown has its header, and below it the lines with their numbers. -/
theorem numbered_eq_unlines {hunk shown : Text} {old new : Json} (h : numbered hunk old new = .ok shown) :
    ∃ header ls rows, hunk.lines = header :: ls ∧ numberLines old new ls = .ok rows ∧
      shown = unlines (header :: rows) := by
  obtain ⟨header, ls, hlines⟩ := List.exists_cons_of_ne_nil (Text.lines_ne_nil hunk)
  unfold numbered at h
  split at h
  next old new =>
    obtain ⟨-, -, hshown⟩ := except_bind_eq_ok.1 h
    cases hshown
    exact ⟨header, ls, _, hlines, numberLines_int old new ls, by rw [annotate, hlines]⟩
  next hnil => cases hlines.symm.trans hnil
  next header' ls' _ hcons =>
    obtain ⟨rows, hrows, hshown⟩ := except_bind_eq_ok.1 h
    cases hshown
    exact ⟨header', ls', rows, hcons, hrows, rfl⟩

theorem numbered_inj {d₁ d₂ shown : Text} {old new : Json} (h₁ : numbered d₁ old new = .ok shown)
    (h₂ : numbered d₂ old new = .ok shown) : d₁ = d₂ := by
  obtain ⟨header₁, ls, rows, hlines₁, hrows₁, rfl⟩ := numbered_eq_unlines h₁
  obtain ⟨header₂, ms, rows', hlines₂, hrows₂, heq⟩ := numbered_eq_unlines h₂
  have hfree₁ : ∀ l ∈ header₁ :: ls, '\n' ∉ l := fun l hl => Outline.not_mem_of_mem_lines (hlines₁ ▸ hl)
  have hfree₂ : ∀ l ∈ header₂ :: ms, '\n' ∉ l := fun l hl => Outline.not_mem_of_mem_lines (hlines₂ ▸ hl)
  rw [List.forall_mem_cons] at hfree₁ hfree₂
  rw [unlines_cons, unlines_cons] at heq
  obtain ⟨rfl, hbelow⟩ := endsLine_append_inj hfree₁.1 hfree₂.1 (endsLine_opened rows) (endsLine_opened rows') heq
  rw [← Text.unlines_lines d₁, ← Text.unlines_lines d₂, hlines₁, hlines₂,
    numberLines_inj hfree₁.2 hfree₂.2 hrows₁ hrows₂ hbelow]

/-! ## Taking the numbers out -/

/-- What stands behind the first colon and the space that follows it. -/
def behindColon (t : Text) : Text := (t.dropWhile (· ≠ ':')).drop 2

/-- A line without its numbers. -/
def unnumberLine : Text → Text
  | [] => []
  | c :: t => c :: if c = '+' ∨ c = '-' ∨ c = ' ' then behindColon t else t

/-- A hunk without the numbers of its lines. -/
def unnumber (shown : Text) : Text :=
  match shown.lines with
  | [] => shown
  | header :: ls => unlines (header :: ls.map unnumberLine)

theorem behindColon_append {ds : Text} (h : ':' ∉ ds) (t : Text) : behindColon (ds ++ (": ".toList ++ t)) = t := by
  have hpass : ∀ c ∈ ds, decide (c ≠ ':') = true := fun c hc => by
    rw [decide_eq_true_eq]
    rintro rfl
    exact h hc
  rw [behindColon, List.dropWhile_append_of_pos hpass]
  rfl

theorem map_unnumberLine (old new : Int) (ls : List Text) : (annotateLines old new ls).map unnumberLine = ls := by
  have hnumber : ∀ n, ':' ∉ intText n := not_mem_intText (by decide) (by decide)
  fun_induction annotateLines old new ls with
  | case1 => rfl
  | case2 old new ls t ih => simpa [unnumberLine, ih] using behindColon_append (hnumber new) t
  | case3 old new ls t ih => simpa [unnumberLine, ih] using behindColon_append (hnumber old) t
  | case4 old new ls t ih =>
      have hboth : ':' ∉ intText old ++ ',' :: intText new := by simp [hnumber]
      simpa [unnumberLine, ih] using behindColon_append hboth t
  | case5 old new l ls hplus hminus hspace ih =>
      rw [List.map_cons, ih]
      cases l with
      | nil => rfl
      | cons c t =>
          rw [unnumberLine, if_neg]
          rintro (rfl | rfl | rfl)
          · exact hplus t rfl
          · exact hminus t rfl
          · exact hspace t rfl

theorem unnumber_annotate (d : Text) (old new : Int) : unnumber (annotate d old new) = d := by
  obtain ⟨header, ls, hlines⟩ := List.exists_cons_of_ne_nil (Text.lines_ne_nil d)
  rw [unnumber, lines_annotate hlines]
  dsimp only
  rw [map_unnumberLine, ← hlines, Text.unlines_lines]

/-- Two hunks that are shown alike with the same first numbers are the same.  Every hunk is
read back from how it is shown, and for that its numbers need not be known.  It is shown
unless a number of a line is too long. -/
theorem numbered_decodable :
    (∀ (old new : Json) (d₁ d₂ shown : Text), numbered d₁ old new = .ok shown →
      numbered d₂ old new = .ok shown → d₁ = d₂) ∧
    ∀ (d : Text) (old new : Nat), unnumber (annotate d old new) = d ∧
      (∀ shown, numbered d (.int old) (.int new) = .ok shown → unnumber shown = d) ∧
      ((∃ shown, numbered d (.int old) (.int new) = .ok shown) ↔ ∀ n ∈ written old new d.lines.tail, Short n) := by
  refine ⟨fun old new d₁ d₂ shown h₁ h₂ => numbered_inj h₁ h₂, fun d old new => ⟨unnumber_annotate d old new, ?_, ?_⟩⟩
  · intro shown hshown
    obtain ⟨-, rfl⟩ := numbered_eq_ok.1 hshown
    exact unnumber_annotate d old new
  · simp [numbered_eq_ok]

/-- A hunk whose lines look as if they had numbers. -/
def lookalike : Text := "@@ -7,2 +9 @@\n 7,9: a\n-7: \n\n\\ 8: b\n+9:".toList

theorem numbered_decodable_lookalike : ∃ shown, numbered lookalike (.int 7) (.int 9) = .ok shown ∧
    unnumber shown = lookalike ∧ ∀ d, numbered d (.int 7) (.int 9) = .ok shown → d = lookalike := by
  obtain ⟨hinj, hread⟩ := numbered_decodable
  obtain ⟨-, hback, hwritten⟩ := hread lookalike 7 9
  obtain ⟨shown, hshown⟩ := hwritten.2 (by decide)
  exact ⟨shown, hshown, hback shown hshown, fun d hd => hinj _ _ d lookalike shown hd hshown⟩

end Redline.Diff
