import Redline.Proofs.Diff.Numbers
import Redline.Proofs.Outline.Rows

/-!
# Patches that are written from hunks

A patch is written line by line: for every hunk its header, and then its lines
(`patchText`).  The headers that are found in it are those of the lines that hold a mark,
each from its first mark on (`headers_unlines`).  So the headers of the hunks are found and
no others, exactly if no line of a hunk holds a mark.  What is found is always read as a
header, with the numbers of its mark (`headers_are_read`).

The hunk of a header is cut out from the first place where the header stands.  If that
is not in an earlier line, then the hunk is shown as it is, exactly if none of its lines
holds a mark and no number in it is too long (`patch_read_back`).  A line that holds a mark
ends the hunk too early, and the characters `@` behind it are lost.
-/

namespace Redline.Diff

open Text (lines unlines isBlank)

/-! ## Lines with a line feed before each -/

/-- Some lines with a line feed before each of them. -/
def opened (ls : List Text) : Text := ls.flatMap ('\n' :: ·)

@[simp] theorem opened_nil : opened [] = [] := rfl

@[simp] theorem opened_cons (l : Text) (ls : List Text) : opened (l :: ls) = '\n' :: (l ++ opened ls) := rfl

@[simp] theorem opened_append (a b : List Text) : opened (a ++ b) = opened a ++ opened b :=
  List.flatMap_append

theorem unlines_cons (l : Text) (ls : List Text) : unlines (l :: ls) = l ++ opened ls := by
  induction ls generalizing l with
  | nil => simp
  | cons m ls ih => rw [Text.unlines_cons_cons, ih, opened_cons]

/-- A text ends, or a line of it does. -/
def EndsLine (x : Text) : Prop := ∀ c ∈ x.head?, c = '\n'

theorem endsLine_opened (ls : List Text) : EndsLine (opened ls) := by
  cases ls with
  | nil => exact fun c hc => nomatch hc
  | cons l ls =>
      intro c hc
      cases hc
      rfl

/-! ## Marks in a text -/

def IsMark (m : Text) : Prop :=
  ∃ old oldCount new newCount, IsNumber old ∧ IsCount oldCount ∧ IsNumber new ∧ IsCount newCount ∧
    m = mark old oldCount new newCount

def HoldsMark (t : Text) : Prop := ∃ u m v, IsMark m ∧ t = u ++ (m ++ v)

theorem IsMark.not_mem {m : Text} (h : IsMark m) : '\n' ∉ m := by
  obtain ⟨old, oldCount, new, newCount, hold, holdCount, hnew, hnewCount, rfl⟩ := h
  exact not_mem_mark hold holdCount hnew hnewCount

theorem IsMark.head {m : Text} (h : IsMark m) : ∃ x, m = '@' :: x := by
  obtain ⟨old, oldCount, new, newCount, -, -, -, -, rfl⟩ := h
  exact mark_head old oldCount new newCount

theorem startsHeader_iff {t : Text} : startsHeader t = true ↔ ∃ m v, IsMark m ∧ t = m ++ v := by
  constructor
  · intro h
    obtain ⟨⟨old, new, v⟩, hread⟩ := Option.isSome_iff_exists.1 h
    obtain ⟨oldCount, newCount, hold, holdCount, hnew, hnewCount, ht⟩ := readHeader_eq_some hread
    exact ⟨_, v, ⟨old, oldCount, new, newCount, hold, holdCount, hnew, hnewCount, rfl⟩, ht⟩
  · rintro ⟨m, v, ⟨old, oldCount, new, newCount, hold, holdCount, hnew, hnewCount, rfl⟩, rfl⟩
    rw [startsHeader, readHeader_mark hold holdCount hnew hnewCount]
    rfl

theorem startsHeader_head {t : Text} (h : startsHeader t = true) : ∃ x, t = '@' :: x := by
  obtain ⟨m, v, hm, rfl⟩ := startsHeader_iff.1 h
  obtain ⟨x, rfl⟩ := hm.head
  exact ⟨x ++ v, rfl⟩

/-- What has no line feed does not reach over the end of a line. -/
theorem leads_of_endsLine {p t x : Text} (hp : '\n' ∉ p) (hx : EndsLine x) (h : p <+: t ++ x) : p <+: t := by
  obtain ⟨v, hv⟩ := h
  rcases List.append_eq_append_iff.1 hv with ⟨a, ht, -⟩ | ⟨a, hpa, hrest⟩
  · exact ⟨a, ht.symm⟩
  · cases a with
    | nil => exact ⟨[], by rw [hpa, List.append_nil, List.append_nil]⟩
    | cons c a =>
        obtain rfl : c = '\n' := hx c (by rw [hrest]; rfl)
        exact absurd (by rw [hpa]; simp) hp

/-- A mark does not reach over the end of a line. -/
theorem startsHeader_append {x : Text} (hx : EndsLine x) (t : Text) :
    startsHeader (t ++ x) = startsHeader t := by
  rw [Bool.eq_iff_iff, startsHeader_iff, startsHeader_iff]
  constructor
  · rintro ⟨m, v, hm, heq⟩
    obtain ⟨a, ha⟩ := leads_of_endsLine hm.not_mem hx ⟨v, heq.symm⟩
    exact ⟨m, a, hm, ha.symm⟩
  · rintro ⟨m, v, hm, rfl⟩
    exact ⟨m, v ++ x, hm, List.append_assoc _ _ _⟩

theorem startsHeader_feed (t : Text) : startsHeader ('\n' :: t) = false := by
  cases h : startsHeader ('\n' :: t) with
  | false => rfl
  | true =>
      obtain ⟨x, hx⟩ := startsHeader_head h
      cases hx

theorem nextHeader?_cons (c : Char) (t : Text) : nextHeader? (c :: t) =
    if startsHeader (c :: t) then some 0 else (nextHeader? t).map (· + 1) := rfl

theorem nextHeader?_of_starts {t : Text} (h : startsHeader t = true) : nextHeader? t = some 0 := by
  obtain ⟨x, rfl⟩ := startsHeader_head h
  rw [nextHeader?_cons, if_pos h]

theorem nextHeader?_append {x : Text} (hx : EndsLine x) (t : Text) :
    nextHeader? (t ++ x) = (nextHeader? t).or ((nextHeader? x).map (· + t.length)) := by
  induction t with
  | nil => simp [nextHeader?]
  | cons c t ih =>
      have hstarts := startsHeader_append hx (c :: t)
      rw [List.cons_append] at hstarts
      rw [List.cons_append, nextHeader?_cons, nextHeader?_cons, hstarts]
      split
      next => rfl
      next =>
        rw [ih]
        cases nextHeader? t with
        | some i => rfl
        | none =>
            cases nextHeader? x with
            | none => rfl
            | some i => simp [Nat.add_assoc]

theorem holdsMark_cons {c : Char} {t : Text} :
    HoldsMark (c :: t) ↔ startsHeader (c :: t) = true ∨ HoldsMark t := by
  rw [startsHeader_iff]
  constructor
  · rintro ⟨u, m, v, hm, heq⟩
    cases u with
    | nil => exact Or.inl ⟨m, v, hm, heq⟩
    | cons d u => exact Or.inr ⟨u, m, v, hm, (List.cons.inj heq).2⟩
  · rintro (⟨m, v, hm, heq⟩ | ⟨u, m, v, hm, rfl⟩)
    · exact ⟨[], m, v, hm, heq⟩
    · exact ⟨c :: u, m, v, hm, rfl⟩

theorem nextHeader?_eq_none {t : Text} : nextHeader? t = none ↔ ¬HoldsMark t := by
  induction t with
  | nil =>
      refine iff_of_true rfl ?_
      rintro ⟨u, m, v, hm, heq⟩
      obtain ⟨x, rfl⟩ := hm.head
      simp at heq
  | cons c t ih =>
      rw [nextHeader?_cons, holdsMark_cons, not_or, ← ih]
      cases startsHeader (c :: t) <;> simp

theorem nextHeader?_opened {ls : List Text} :
    nextHeader? (opened ls) = none ↔ ∀ l ∈ ls, nextHeader? l = none := by
  induction ls with
  | nil => simp [nextHeader?]
  | cons l ls ih =>
      rw [opened_cons, nextHeader?_cons, startsHeader_feed, nextHeader?_append (endsLine_opened ls),
        List.forall_mem_cons, ← ih]
      cases nextHeader? l <;> simp

theorem nextHeader?_leads {t : Text} {n : Nat} (h : nextHeader? t = some n) :
    ∃ x, t.drop n = '@' :: x ∧ n < t.length := by
  induction t generalizing n with
  | nil => cases h
  | cons c t ih =>
      rw [nextHeader?_cons] at h
      split at h
      next hstarts =>
        cases h
        obtain ⟨x, hx⟩ := startsHeader_head hstarts
        exact ⟨x, hx, Nat.succ_pos _⟩
      next =>
        obtain ⟨m, hm, rfl⟩ := Option.map_eq_some_iff.1 h
        obtain ⟨x, hx, hlt⟩ := ih hm
        exact ⟨x, hx, Nat.succ_lt_succ hlt⟩

/-! ## The headers of a patch -/

def headerIn (l : Text) : Option Text := (nextHeader? l).map l.drop

theorem headerIn_cons (c : Char) (l : Text) :
    headerIn (c :: l) = if startsHeader (c :: l) then some (c :: l) else headerIn l := by
  rw [headerIn, nextHeader?_cons]
  split
  next => rfl
  next => rw [headerIn, Option.map_map]; rfl

theorem headerIn_eq_none {l : Text} : headerIn l = none ↔ ¬HoldsMark l := by
  rw [headerIn, Option.map_eq_none_iff, nextHeader?_eq_none]

theorem headersFrom_length (a b : Text) : headersFrom a.length (a ++ b) = headersFrom 0 b := by
  induction a with
  | nil => rfl
  | cons c a ih => exact ih

theorem firstLine_append {l x : Text} (hl : '\n' ∉ l) (hx : EndsLine x) : firstLine (l ++ x) = l := by
  have hkeep : ∀ c ∈ l, decide (c ≠ '\n') = true := fun c hc => by
    rw [decide_eq_true_eq]
    rintro rfl
    exact hl hc
  rw [firstLine, List.takeWhile_append_of_pos hkeep]
  cases x with
  | nil => exact List.append_nil l
  | cons c x => rw [List.takeWhile_cons_of_neg (by simp [hx c rfl]), List.append_nil]

theorem headersFrom_line {l x : Text} (hl : '\n' ∉ l) (hx : EndsLine x) :
    headersFrom 0 (l ++ x) = (headerIn l).toList ++ headersFrom 0 x := by
  induction l with
  | nil => rfl
  | cons c l ih =>
      have hstarts := startsHeader_append hx (c :: l)
      have hfirst := firstLine_append hl hx
      rw [List.cons_append] at hstarts hfirst
      rw [List.cons_append, headersFrom, hstarts, headerIn_cons, hfirst]
      split
      next =>
        dsimp only
        rw [List.length_cons, Nat.add_sub_cancel, headersFrom_length]
        rfl
      next => exact ih fun h => hl (List.mem_cons_of_mem c h)

theorem headersFrom_opened {ls : List Text} (h : ∀ l ∈ ls, '\n' ∉ l) :
    headersFrom 0 (opened ls) = ls.filterMap headerIn := by
  induction ls with
  | nil => rfl
  | cons l ls ih =>
      rw [List.forall_mem_cons] at h
      rw [opened_cons, headersFrom, startsHeader_feed, if_neg Bool.false_ne_true,
        headersFrom_line h.1 (endsLine_opened ls), ih h.2, List.filterMap_cons]
      cases headerIn l <;> rfl

/-- The headers of a patch are those of its lines. -/
theorem headers_unlines {ls : List Text} (h : ∀ l ∈ ls, '\n' ∉ l) : headers (unlines ls) = ls.filterMap headerIn := by
  cases ls with
  | nil => rfl
  | cons l ls =>
      rw [List.forall_mem_cons] at h
      rw [headers, unlines_cons, headersFrom_line h.1 (endsLine_opened ls), headersFrom_opened h.2,
        List.filterMap_cons]
      cases headerIn l <;> rfl

/-- A list in which each item may be followed by others is the items alone, exactly if
none is. -/
theorem flatMap_cons_eq_map {α β : Type} {f : α → β} {g : α → List β} {as : List α} :
    (as.flatMap fun a => f a :: g a) = as.map f ↔ ∀ a ∈ as, g a = [] := by
  have hlength : ∀ bs : List α, bs.length ≤ (bs.flatMap fun a => f a :: g a).length := by
    intro bs
    induction bs with
    | nil => exact Nat.le_refl _
    | cons b bs ih =>
        simp only [List.flatMap_cons, List.length_cons, List.length_append]
        omega
  induction as with
  | nil => simp
  | cons a as ih =>
      rw [List.flatMap_cons, List.map_cons, List.cons_append, List.cons.injEq, List.forall_mem_cons]
      constructor
      · rintro ⟨-, heq⟩
        have hlen := congrArg List.length heq
        rw [List.length_append, List.length_map] at hlen
        have hnil : g a = [] := List.eq_nil_of_length_eq_zero (by have := hlength as; omega)
        rw [hnil] at heq
        exact ⟨hnil, ih.1 heq⟩
      · rintro ⟨hnil, hrest⟩
        rw [hnil]
        exact ⟨rfl, ih.2 hrest⟩

/-! ## Patches -/

namespace Hunk

def header (k : Hunk) : Text := k.mark ++ k.tail

def texts (k : Hunk) : List Text := k.header :: k.lines.map Line.text

/-- What is written in the lines of a hunk has no line feed. -/
structure Plain (k : Hunk) : Prop where
  /-- There is none in its header. -/
  tail : '\n' ∉ k.tail
  content : ∀ l ∈ k.lines, '\n' ∉ l.content

/-- No line of a hunk holds a mark. -/
def Markless (k : Hunk) : Prop := ∀ l ∈ k.lines, ¬HoldsMark l.text

/-- No number in a hunk as it is shown is too long. -/
structure AllShort (k : Hunk) : Prop where
  old : Short k.old
  new : Short k.new
  written : ∀ n ∈ written k.old k.new (Text.strip k.text).lines.tail, Short n

end Hunk

def patchText (ks : List Hunk) : Text := unlines (ks.flatMap Hunk.texts)

section

variable {k : Hunk}

theorem Hunk.isMark_mark (k : Hunk) : IsMark k.mark :=
  ⟨_, _, _, _, isNumber_natText k.old, isCount_countText k.oldCount, isNumber_natText k.new,
    isCount_countText k.newCount, rfl⟩

theorem Hunk.readHeader_append (k : Hunk) (x : Text) :
    readHeader (k.mark ++ x) = some (Number.natText k.old, Number.natText k.new, x) :=
  readHeader_mark (isNumber_natText _) (isCount_countText _) (isNumber_natText _) (isCount_countText _) x

theorem Hunk.readHeader_header (k : Hunk) :
    readHeader k.header = some (Number.natText k.old, Number.natText k.new, k.tail) :=
  k.readHeader_append k.tail

theorem Hunk.startsHeader_header (k : Hunk) : startsHeader k.header = true := by
  rw [startsHeader, k.readHeader_header]
  rfl

theorem Hunk.headerIn_header (k : Hunk) : headerIn k.header = some k.header := by
  rw [headerIn, nextHeader?_of_starts k.startsHeader_header]
  rfl

theorem Hunk.not_mem_header (hk : k.Plain) : '\n' ∉ k.header := by
  rw [header, List.mem_append, not_or]
  exact ⟨k.isMark_mark.not_mem, hk.tail⟩

theorem Line.not_mem_text {l : Line} (h : '\n' ∉ l.content) : '\n' ∉ l.text := by
  cases l <;> simpa [Line.text, Line.content] using h

theorem Hunk.not_mem_texts (hk : k.Plain) : ∀ t ∈ k.texts, '\n' ∉ t := by
  intro t ht
  rcases List.mem_cons.1 ht with rfl | ht
  · exact not_mem_header hk
  · obtain ⟨l, hl, rfl⟩ := List.mem_map.1 ht
    exact Line.not_mem_text (hk.content l hl)

theorem Hunk.headers_texts (k : Hunk) :
    k.texts.filterMap headerIn = k.header :: (k.lines.map Line.text).filterMap headerIn := by
  rw [texts, List.filterMap_cons, headerIn_header]

theorem Hunk.markless_iff : k.Markless ↔ (k.lines.map Line.text).filterMap headerIn = [] := by
  rw [List.filterMap_eq_nil_iff, List.forall_mem_map]
  exact forall₂_congr fun l hl => headerIn_eq_none.symm

/-- The headers that are found are those of the hunks, exactly if no line of a hunk holds
a mark. -/
theorem headers_patchText_iff {ks : List Hunk} (hks : ∀ k ∈ ks, k.Plain) :
    headers (patchText ks) = ks.map Hunk.header ↔ ∀ k ∈ ks, k.Markless := by
  have hlines : ∀ t ∈ ks.flatMap Hunk.texts, '\n' ∉ t := by
    intro t ht
    obtain ⟨k, hk, ht⟩ := List.mem_flatMap.1 ht
    exact Hunk.not_mem_texts (hks k hk) t ht
  rw [patchText, headers_unlines hlines, List.filterMap_flatMap]
  simp only [Hunk.headers_texts, Hunk.markless_iff]
  exact flatMap_cons_eq_map

end

/-! ## Headers that are found and read -/

/-- What is found in a line is its end, from a mark on. -/
theorem headerIn_eq_some {l h : Text} (hin : headerIn l = some h) : startsHeader h = true ∧ h <:+ l := by
  induction l with
  | nil => cases hin
  | cons c l ih =>
      rw [headerIn_cons] at hin
      split at hin
      next hstarts =>
        cases hin
        exact ⟨hstarts, List.suffix_refl _⟩
      next =>
        obtain ⟨hstarts, hend⟩ := ih hin
        exact ⟨hstarts, hend.trans (List.suffix_cons c l)⟩

theorem mark_of_mem_headers {patch h : Text} (hh : h ∈ headers patch) :
    ∃ m tail, IsMark m ∧ '\n' ∉ tail ∧ h = m ++ tail := by
  rw [← Text.unlines_lines patch, headers_unlines fun l hl => Outline.not_mem_of_mem_lines hl] at hh
  obtain ⟨l, hl, hin⟩ := List.mem_filterMap.1 hh
  obtain ⟨hstarts, hend⟩ := headerIn_eq_some hin
  obtain ⟨m, tail, hm, rfl⟩ := startsHeader_iff.1 hstarts
  have hfree : '\n' ∉ l := Outline.not_mem_of_mem_lines hl
  exact ⟨m, tail, hm, fun hmem => hfree (hend.subset (List.mem_append_right m hmem)), rfl⟩

section

variable {old oldCount new newCount : Text}

theorem lineNumbers_ne_none (hold : IsNumber old) (holdCount : IsCount oldCount) (hnew : IsNumber new)
    (hnewCount : IsCount newCount) (x : Text) : lineNumbers (mark old oldCount new newCount ++ x) ≠ .ok none := by
  intro h
  rw [lineNumbers_mark hold holdCount hnew hnewCount] at h
  obtain ⟨o, -, h⟩ := except_bind_eq_ok.1 h
  obtain ⟨n, -, h⟩ := except_bind_eq_ok.1 h
  cases h

theorem lineNumbers_of_short (hold : IsNumber old) (holdCount : IsCount oldCount) (hnew : IsNumber new)
    (hnewCount : IsCount newCount) (ho : old.length ≤ Text.maxDigits) (hn : new.length ≤ Text.maxDigits) (x : Text) :
    lineNumbers (mark old oldCount new newCount ++ x) = .ok (some (valueOf old, valueOf new)) := by
  rw [lineNumbers_mark hold holdCount hnew hnewCount, lineNumber_eq hold, lineNumber_eq hnew, if_pos ho, if_pos hn]
  rfl

end

/-- What is found as a header is always read as one.  It is a mark with the rest of its
line, and the numbers that are read are those of the mark if they are not too long.  A mark
that is written from numbers is found together with all that stands behind it in its line,
even another mark, and the numbers are read from it. -/
theorem headers_are_read :
    (∀ patch, ∀ h ∈ headers patch, lineNumbers h ≠ .ok none ∧
      ∃ old oldCount new newCount tail, IsNumber old ∧ IsCount oldCount ∧ IsNumber new ∧ IsCount newCount ∧
        '\n' ∉ tail ∧ h = mark old oldCount new newCount ++ tail ∧
        (old.length ≤ Text.maxDigits → new.length ≤ Text.maxDigits →
          lineNumbers h = .ok (some (valueOf old, valueOf new)))) ∧
    ∀ (old new : Nat) (oldCount newCount : Option Nat) (tail line : Text), '\n' ∉ tail →
      line = mark (Number.natText old) (Hunk.countText oldCount) (Number.natText new) (Hunk.countText newCount) ++ tail →
      headers line = [line] ∧ lineNumbers line ≠ .ok none ∧
        (Short old → Short new → lineNumbers line = .ok (some (old, new))) := by
  constructor
  · intro patch h hh
    obtain ⟨m, tail, ⟨old, oldCount, new, newCount, hold, holdCount, hnew, hnewCount, rfl⟩, htail, rfl⟩ :=
      mark_of_mem_headers hh
    exact ⟨lineNumbers_ne_none hold holdCount hnew hnewCount tail, old, oldCount, new, newCount, tail, hold,
      holdCount, hnew, hnewCount, htail, rfl,
      fun ho hn => lineNumbers_of_short hold holdCount hnew hnewCount ho hn tail⟩
  · rintro old new oldCount newCount tail line htail rfl
    have hold := isNumber_natText old
    have hnew := isNumber_natText new
    have holdCount := isCount_countText oldCount
    have hnewCount := isCount_countText newCount
    refine ⟨?_, lineNumbers_ne_none hold holdCount hnew hnewCount tail, fun ho hn => ?_⟩
    · -- the line is that of a hunk without lines, and all of it is its header
      let k : Hunk := { old, oldCount, new, newCount, tail, lines := [] }
      have hk : ∀ l ∈ [k.header], '\n' ∉ l :=
        List.forall_mem_singleton.2 (Hunk.not_mem_header ⟨htail, fun l hl => absurd hl List.not_mem_nil⟩)
      have hfound := headers_unlines hk
      rw [unlines_cons, opened_nil, List.append_nil, List.filterMap_cons, k.headerIn_header] at hfound
      exact hfound
    · rw [lineNumbers_of_short hold holdCount hnew hnewCount ho hn, valueOf_natText, valueOf_natText]

theorem headers_are_read_twice :
    headers "@@ -10 +12,3 @@ f @@ -1 +1 @@".toList = ["@@ -10 +12,3 @@ f @@ -1 +1 @@".toList] ∧
      lineNumbers "@@ -10 +12,3 @@ f @@ -1 +1 @@".toList = .ok (some (10, 12)) := by
  obtain ⟨hfound, -, hread⟩ := headers_are_read.2 10 12 none (some 3) " f @@ -1 +1 @@".toList _ (by decide) rfl
  exact ⟨hfound, hread (by decide) (by decide)⟩

/-! ## Where a header stands -/

section

variable {p : Text}

/-- A header that is not in a line stands behind it. -/
theorem find?_line (hp : '\n' ∉ p) (hne : p ≠ []) {l : Text} (hl : ¬p <:+: l) (x : Text) :
    Text.find? p (l ++ '\n' :: x) = (Text.find? p x).map (· + (l.length + 1)) := by
  have hends : EndsLine ('\n' :: x) := fun c hc => by cases hc; rfl
  induction l with
  | nil =>
      have hnot : ¬p.isPrefixOf ('\n' :: x) = true := by
        rw [List.isPrefixOf_iff_prefix]
        intro h
        exact hne (List.prefix_nil.1 (leads_of_endsLine (t := []) hp hends h))
      rw [List.nil_append, Text.find?, if_neg hnot]
      rfl
  | cons c l ih =>
      have hnot : ¬p.isPrefixOf (c :: (l ++ '\n' :: x)) = true := by
        rw [List.isPrefixOf_iff_prefix]
        intro h
        exact hl (leads_of_endsLine (t := c :: l) hp hends h).isInfix
      rw [List.cons_append, Text.find?, if_neg hnot, ih fun h => hl (List.infix_cons h), Option.map_map]
      rfl

theorem find?_closed (hp : '\n' ∉ p) (hne : p ≠ []) {ls : List Text} (hls : ∀ l ∈ ls, ¬p <:+: l) (x : Text) :
    Text.find? p (Outline.closed ls ++ x) = (Text.find? p x).map (· + Outline.size ls) := by
  induction ls with
  | nil => simp [Outline.closed]
  | cons l ls ih =>
      have hcons : Outline.closed (l :: ls) ++ x = l ++ '\n' :: (Outline.closed ls ++ x) := by
        simp [Outline.closed]
      rw [hcons, find?_line hp hne (hls l List.mem_cons_self),
        ih fun m hm => hls m (List.mem_cons_of_mem l hm), Option.map_map, Outline.size_cons]
      congr 1
      funext i
      simp only [Function.comp_apply]
      omega

end

/-! ## Cutting out a hunk -/

/-- A hunk ends at the next mark behind its header. -/
theorem hunkText_append (a header x : Text) : hunkText (a ++ (header ++ x)) header a.length =
    Text.strip (header ++ match nextHeader? x with | some n => x.take n | none => x) := by
  unfold hunkText
  rw [List.drop_left]
  dsimp only
  rw [List.drop_left]
  cases nextHeader? x with
  | none => rfl
  | some n => exact congrArg Text.strip (List.take_length_add_append n)

theorem trimRight_feed (x : Text) : Text.trimRight (x ++ ['\n']) isBlank = Text.trimRight x isBlank := by
  have hfeed : isBlank '\n' = true := by decide
  rw [Text.trimRight, Text.trimRight, List.reverse_append, List.reverse_singleton, List.singleton_append,
    List.dropWhile_cons_of_pos hfeed]

section

variable {k : Hunk} {a : Text}

theorem Hunk.text_eq (k : Hunk) : k.text = k.header ++ opened (k.lines.map Line.text) := unlines_cons _ _

theorem Hunk.strip_feed (k : Hunk) (x : Text) : Text.strip (k.header ++ (x ++ ['\n'])) = Text.strip (k.header ++ x) := by
  rw [header, List.append_assoc, List.append_assoc, mark, strip_mark, strip_mark, ← List.append_assoc, trimRight_feed]

/-- The lines of a hunk are followed by the next hunk, or by nothing. -/
theorem nextHeader?_texts (after : List Hunk) :
    opened (after.flatMap Hunk.texts) = [] ∨ nextHeader? (opened (after.flatMap Hunk.texts)) = some 1 := by
  cases after with
  | nil => exact Or.inl rfl
  | cons k after =>
      right
      have hnext : nextHeader? (k.header ++ opened (k.lines.map Line.text ++ after.flatMap Hunk.texts)) = some 0 :=
        nextHeader?_of_starts (by rw [startsHeader_append (endsLine_opened _), k.startsHeader_header])
      rw [List.flatMap_cons, Hunk.texts, List.cons_append, opened_cons, nextHeader?_cons, startsHeader_feed, hnext]
      rfl

/-- A hunk without a mark in its lines is cut out up to the next hunk. -/
theorem Hunk.hunkText_markless (hk : k.Markless) (a : Text) (after : List Hunk) :
    hunkText (a ++ (k.header ++ opened (k.lines.map Line.text ++ after.flatMap Hunk.texts))) k.header a.length =
      Text.strip k.text := by
  have hnone : nextHeader? (opened (k.lines.map Line.text)) = none := by
    rw [nextHeader?_opened, List.forall_mem_map]
    exact fun l hl => nextHeader?_eq_none.2 (hk l hl)
  rw [hunkText_append, opened_append, nextHeader?_append (endsLine_opened _), hnone, k.text_eq]
  have hends := endsLine_opened (after.flatMap Hunk.texts)
  rcases nextHeader?_texts after with hnil | hnext
  · simp [hnil, nextHeader?]
  · obtain ⟨rest, hrest⟩ : ∃ rest, opened (after.flatMap Hunk.texts) = '\n' :: rest := by
      cases h : opened (after.flatMap Hunk.texts) with
      | nil =>
          rw [h] at hnext
          cases hnext
      | cons c rest =>
          rw [h] at hends
          exact ⟨rest, by rw [hends c rfl]⟩
    rw [hnext, hrest]
    have htake : (opened (k.lines.map Line.text) ++ '\n' :: rest).take (1 + (opened (k.lines.map Line.text)).length) =
        opened (k.lines.map Line.text) ++ ['\n'] := by
      rw [Nat.add_comm, List.take_length_add_append]
      rfl
    show Text.strip (k.header ++ List.take (1 + _) _) = _
    rw [htake, k.strip_feed]

/-! ## Characters that are lost -/

theorem count_dropWhile {drop : Char → Bool} {c : Char} (hc : drop c = false) (t : Text) :
    (t.dropWhile drop).count c = t.count c := by
  have hzero : (t.takeWhile drop).count c = 0 := by
    refine List.count_eq_zero_of_not_mem fun hmem => ?_
    rw [List.all_eq_true.1 List.all_takeWhile c hmem] at hc
    cases hc
  have hsplit := congrArg (List.count c) (List.takeWhile_append_dropWhile (p := drop) (l := t))
  rwa [List.count_append, hzero, Nat.zero_add] at hsplit

theorem count_strip {c : Char} (hc : isBlank c = false) (t : Text) : (Text.strip t).count c = t.count c := by
  rw [Text.strip, Text.trim, Text.trimRight, List.count_reverse, count_dropWhile hc, List.count_reverse,
    count_dropWhile hc]

theorem not_mem_intText {c : Char} (hdigit : c.isDigit = false) (hminus : c ≠ '-') (n : Int) :
    c ∉ Number.intText n := by
  have hnat : ∀ m, c ∉ Number.natText m := fun m hm => by
    rw [isDigit_of_mem_natText hm] at hdigit
    cases hdigit
  intro hmem
  cases n with
  | ofNat m => exact hnat m hmem
  | negSucc m => exact hnat (m + 1) ((List.mem_cons.1 hmem).resolve_left hminus)

theorem count_intText (n : Int) : (Number.intText n).count '@' = 0 :=
  List.count_eq_zero_of_not_mem (not_mem_intText (by decide) (by decide) n)

theorem count_annotateLines (old new : Int) (ls : List Text) :
    (opened (annotateLines old new ls)).count '@' = (opened ls).count '@' := by
  fun_induction annotateLines old new ls with
  | case1 => rfl
  | case2 old new ls t ih => simp [count_intText, ih]
  | case3 old new ls t ih => simp [count_intText, ih]
  | case4 old new ls t ih => simp [count_intText, ih]
  | case5 old new l ls hplus hminus hspace ih => simp [ih]

/-- The numbers that are written into a hunk do not change how often a character `@`
stands in it. -/
theorem count_annotate (t : Text) (old new : Int) : (annotate t old new).count '@' = t.count '@' := by
  obtain ⟨l, ls, hlines⟩ := List.exists_cons_of_ne_nil (Text.lines_ne_nil t)
  have htext := Text.unlines_lines t
  rw [hlines, unlines_cons] at htext
  rw [annotate, hlines, ← htext]
  dsimp only
  rw [unlines_cons, List.count_append, List.count_append, count_annotateLines]

/-- A hunk with a mark in its lines is cut out too short. -/
theorem Hunk.markless_of_annotate (a : Text) (x : List Text)
    (h : annotate (hunkText (a ++ (k.header ++ opened (k.lines.map Line.text ++ x))) k.header a.length)
      k.old k.new = k.shown) : k.Markless := by
  have hat : isBlank '@' = false := by decide
  intro l hl hmark
  have hsome : nextHeader? (opened (k.lines.map Line.text)) ≠ none := fun hnone =>
    nextHeader?_eq_none.1 (nextHeader?_opened.1 hnone l.text (List.mem_map_of_mem hl)) hmark
  obtain ⟨n, hn⟩ := Option.ne_none_iff_exists'.1 hsome
  obtain ⟨rest, hrest, hlt⟩ := nextHeader?_leads hn
  have hcut : hunkText (a ++ (k.header ++ opened (k.lines.map Line.text ++ x))) k.header a.length =
      Text.strip (k.header ++ (opened (k.lines.map Line.text)).take n) := by
    rw [hunkText_append, opened_append, nextHeader?_append (endsLine_opened _), hn, Option.some_or]
    dsimp only
    rw [List.take_append_of_le_length (Nat.le_of_lt hlt)]
  have hcount := congrArg (List.count '@') h
  rw [hcut, shown, count_annotate, count_annotate, count_strip hat, count_strip hat, k.text_eq, List.count_append,
    List.count_append] at hcount
  have hsplit := congrArg (List.count '@') (List.take_append_drop n (opened (k.lines.map Line.text)))
  rw [hrest, List.count_append, List.count_cons_self] at hsplit
  omega

end

/-- A patch is the lines before a hunk, and then the hunk and those behind it. -/
theorem patchText_append (before after : List Hunk) (k : Hunk) : patchText (before ++ k :: after) =
    Outline.closed (before.flatMap Hunk.texts) ++
      (k.header ++ opened (k.lines.map Line.text ++ after.flatMap Hunk.texts)) := by
  rw [patchText, List.flatMap_append, List.flatMap_cons, Outline.unlines_append (by simp [Hunk.texts]), Hunk.texts,
    List.cons_append, unlines_cons]

section

variable {before after : List Hunk} {k : Hunk}

/-- A header that stands in no earlier line is found where its hunk begins. -/
theorem find?_patchText (hk : k.Plain) (hearlier : ∀ l ∈ before.flatMap Hunk.texts, ¬k.header <:+: l) :
    Text.find? k.header (patchText (before ++ k :: after)) =
      some (Outline.closed (before.flatMap Hunk.texts)).length := by
  have hne : k.header ≠ [] := by
    obtain ⟨x, hx⟩ := startsHeader_head k.startsHeader_header
    rw [hx]
    exact List.cons_ne_nil _ _
  rw [patchText_append, find?_closed (Hunk.not_mem_header hk) hne hearlier, Text.find?_self hne, Outline.length_closed]
  simp

/-- The hunk of a header that stands in no earlier line. -/
theorem change_patchText_iff (hk : k.Plain) (hearlier : ∀ l ∈ before.flatMap Hunk.texts, ¬k.header <:+: l) :
    change (patchText (before ++ k :: after)) k.header = .ok ⟨k.shown, k.old, k.new⟩ ↔ k.Markless ∧ k.AllShort := by
  rw [change_eq_ok (find?_patchText hk hearlier) k.readHeader_header]
  simp only [valueOf_natText, Change.mk.injEq, and_true]
  rw [patchText_append]
  constructor
  · rintro ⟨hold, hnew, hwritten, hshown⟩
    have hmarkless := Hunk.markless_of_annotate _ _ hshown.symm
    rw [Hunk.hunkText_markless hmarkless] at hwritten
    exact ⟨hmarkless, hold, hnew, hwritten⟩
  · rintro ⟨hmarkless, hshort⟩
    rw [Hunk.hunkText_markless hmarkless]
    exact ⟨hshort.old, hshort.new, hshort.written, rfl⟩

/-- A hunk without a mark in its lines can be shown only if its numbers are not too long. -/
theorem allShort_of_legible (hk : k.Plain) (hearlier : ∀ l ∈ before.flatMap Hunk.texts, ¬k.header <:+: l)
    (hmarkless : k.Markless) (h : Legible (patchText (before ++ k :: after)) k.header) : k.AllShort := by
  obtain ⟨hold, hnew, hwritten⟩ := h _ _ _ _ (find?_patchText hk hearlier) k.readHeader_header
  rw [patchText_append, Hunk.hunkText_markless hmarkless, valueOf_natText, valueOf_natText] at hwritten
  exact ⟨hold, hnew, hwritten⟩

end

/-- A hunk that is found has the numbers of its header. -/
theorem numbers_of_change {ks : List Hunk} {k : Hunk} (hk : k ∈ ks) {c : Change}
    (hc : change (patchText ks) k.header = .ok c) : c.old = k.old ∧ c.new = k.new := by
  obtain ⟨before, after, rfl⟩ := List.append_of_mem hk
  have hin : k.header <:+: patchText (before ++ k :: after) := by
    rw [patchText_append]
    exact ⟨_, _, (List.append_assoc _ _ _)⟩
  obtain ⟨start, hfind⟩ := Option.ne_none_iff_exists'.1 (Text.find?_ne_none hin)
  rw [change_eq_ok hfind k.readHeader_header, valueOf_natText, valueOf_natText] at hc
  obtain ⟨-, -, -, rfl⟩ := hc
  exact ⟨rfl, rfl⟩

theorem Hunk.holdsMark_of_header {k : Hunk} {t : Text} (h : k.header <:+: t) : HoldsMark t := by
  obtain ⟨u, v, rfl⟩ := h
  exact ⟨u, k.mark, k.tail ++ v, k.isMark_mark, by rw [header, List.append_assoc, List.append_assoc]⟩

/-- The headers of two hunks that begin in different lines are not one in the other,
unless a mark stands behind the start of one. -/
theorem Hunk.not_infix_header {j k : Hunk} (hold : j.old ≠ k.old) (hj : ¬HoldsMark j.header.tail) :
    ¬k.header <:+: j.header := by
  intro h
  obtain ⟨x, hx⟩ := startsHeader_head j.startsHeader_header
  rw [hx, List.tail_cons] at hj
  rw [hx] at h
  rcases List.infix_cons_iff.1 h with ⟨v, hv⟩ | hin
  · have hread := j.readHeader_header
    rw [hx, ← hv, header, List.append_assoc, readHeader_append, Option.some.injEq, Prod.mk.injEq] at hread
    have hvalue := congrArg valueOf hread.1
    rw [valueOf_natText, valueOf_natText] at hvalue
    exact hold hvalue.symm
  · exact hj (holdsMark_of_header hin)

/-- In hunks that begin in different lines and hold no mark but those that open them, no
header stands in an earlier line. -/
theorem not_infix_earlier {before after : List Hunk} {k : Hunk}
    (hsorted : (before ++ k :: after).Pairwise fun j k => j.old < k.old)
    (hmarks : ∀ j ∈ before, j.Markless ∧ ¬HoldsMark j.header.tail) :
    ∀ l ∈ before.flatMap Hunk.texts, ¬k.header <:+: l := by
  intro l hl hin
  obtain ⟨j, hj, hl⟩ := List.mem_flatMap.1 hl
  obtain ⟨hmarkless, htail⟩ := hmarks j hj
  rcases List.mem_cons.1 hl with rfl | hl
  · have hlt := (List.pairwise_append.1 hsorted).2.2 j hj k List.mem_cons_self
    exact Hunk.not_infix_header (Nat.ne_of_lt hlt) htail hin
  · obtain ⟨line, hline, rfl⟩ := List.mem_map.1 hl
    exact hmarkless line hline (Hunk.holdsMark_of_header hin)

/-- The headers that are found in a patch are those of its hunks, exactly if no line of a
hunk holds a mark.  The hunk of a header that stands in no earlier line is found with its
numbers and shown line by line, exactly if none of its lines holds a mark and none of
its numbers is too long.  Every hunk that is found has the numbers of its header.

So all hunks are found as they were written if they begin in different lines, they hold
no mark but those that open them, and no number is too long. -/
theorem patch_read_back {ks : List Hunk} (hks : ∀ k ∈ ks, k.Plain) :
    (headers (patchText ks) = ks.map Hunk.header ↔ ∀ k ∈ ks, k.Markless) ∧
      (∀ k ∈ ks, ∀ c, change (patchText ks) k.header = .ok c → c.old = k.old ∧ c.new = k.new) ∧
      (∀ before k after, ks = before ++ k :: after → (∀ l ∈ before.flatMap Hunk.texts, ¬k.header <:+: l) →
        (change (patchText ks) k.header = .ok ⟨k.shown, k.old, k.new⟩ ↔ k.Markless ∧ k.AllShort)) ∧
      (ks.Pairwise (fun j k => j.old < k.old) → (∀ k ∈ ks, k.Markless ∧ ¬HoldsMark k.header.tail) →
        (∀ k ∈ ks, k.AllShort) → ∀ k ∈ ks, change (patchText ks) k.header = .ok ⟨k.shown, k.old, k.new⟩) := by
  refine ⟨headers_patchText_iff hks, fun k hk c hc => numbers_of_change hk hc, ?_, ?_⟩
  · rintro before k after rfl hearlier
    exact change_patchText_iff (hks k (by simp)) hearlier
  · intro hsorted hmarks hshort k hk
    obtain ⟨before, after, rfl⟩ := List.append_of_mem hk
    have hearlier := not_infix_earlier hsorted fun j hj => hmarks j (List.mem_append_left _ hj)
    exact (change_patchText_iff (hks k hk) hearlier).2 ⟨(hmarks k hk).1, hshort k hk⟩

/-- Two hunks whose lines look like parts of a mark. -/
def plainHunks : List Hunk :=
  [{ old := 1, oldCount := some 3, new := 1, newCount := some 2, tail := " @@ def f():".toList
     lines := [.context "@@ -5".toList, .removed "@ -5 +5 @@".toList, .removed "a".toList,
       .added "-5 +5 @@".toList, .note " No newline at end of file".toList] },
   { old := 7, new := 6, lines := [.added "c".toList, .context []] }]

theorem patch_read_back_plainHunks : (∀ k ∈ plainHunks, k.Plain) ∧ plainHunks.Pairwise (fun j k => j.old < k.old) ∧
    (∀ k ∈ plainHunks, k.Markless ∧ ¬HoldsMark k.header.tail) ∧ (∀ k ∈ plainHunks, k.AllShort) ∧
    headers (patchText plainHunks) = plainHunks.map Hunk.header ∧
    ∀ k ∈ plainHunks, change (patchText plainHunks) k.header = .ok ⟨k.shown, k.old, k.new⟩ := by
  have hplain : ∀ k ∈ plainHunks, k.Plain := by
    have htail : ∀ k ∈ plainHunks, '\n' ∉ k.tail := by decide
    have hcontent : ∀ k ∈ plainHunks, ∀ l ∈ k.lines, '\n' ∉ l.content := by decide
    exact fun k hk => ⟨htail k hk, hcontent k hk⟩
  have hmarks : ∀ k ∈ plainHunks, k.Markless ∧ ¬HoldsMark k.header.tail := by
    have hlines : ∀ k ∈ plainHunks, ∀ l ∈ k.lines, nextHeader? l.text = none := by decide +kernel
    have htail : ∀ k ∈ plainHunks, nextHeader? k.header.tail = none := by decide +kernel
    exact fun k hk => ⟨fun l hl => nextHeader?_eq_none.1 (hlines k hk l hl), nextHeader?_eq_none.1 (htail k hk)⟩
  have hshort : ∀ k ∈ plainHunks, k.AllShort := by
    have hfirst : ∀ k ∈ plainHunks, Short k.old ∧ Short k.new := by decide +kernel
    have hwritten : ∀ k ∈ plainHunks, ∀ n ∈ written k.old k.new (Text.strip k.text).lines.tail, Short n := by
      decide +kernel
    exact fun k hk => ⟨(hfirst k hk).1, (hfirst k hk).2, hwritten k hk⟩
  have hsorted : plainHunks.Pairwise (fun j k => j.old < k.old) := by decide
  obtain ⟨hheaders, -, -, hchange⟩ := patch_read_back hplain
  exact ⟨hplain, hsorted, hmarks, hshort, hheaders.2 fun k hk => (hmarks k hk).1, hchange hsorted hmarks hshort⟩

def nestedHunk : Hunk where
  old := 1
  new := 1
  newCount := some 2
  lines := [.added "@@ -5 +5 @@".toList, .added "x".toList]

/-- Two hunks, with the header of the second one at the end of that of the first. -/
def echoedHunks : List Hunk :=
  [{ old := 1, new := 1, tail := " @@ -2 +2 @@".toList, lines := [.added "a".toList] },
   { old := 2, new := 2, lines := [.added "b".toList] }]

/-- A line that holds a mark is taken for a header and ends its hunk, and a header that
stands in an earlier one is given the lines of that. -/
theorem patch_misread :
    (nestedHunk.Plain ∧ headers (patchText [nestedHunk]) = [nestedHunk.header, "@@ -5 +5 @@".toList] ∧
      change (patchText [nestedHunk]) nestedHunk.header = .ok ⟨"@@ -1 +1,2 @@\n+1: ".toList, 1, 1⟩ ∧
      nestedHunk.shown = "@@ -1 +1,2 @@\n+1: @@ -5 +5 @@\n+2: x".toList) ∧
    ((∀ k ∈ echoedHunks, k.Plain) ∧ echoedHunks.Pairwise (fun j k => j.old < k.old ∧ j.new < k.new) ∧
      change (patchText echoedHunks) "@@ -2 +2 @@".toList = .ok ⟨"@@ -2 +2 @@\n+2: a".toList, 2, 2⟩ ∧
      echoedHunks.map Hunk.shown = ["@@ -1 +1 @@ @@ -2 +2 @@\n+1: a".toList, "@@ -2 +2 @@\n+2: b".toList]) := by
  have hplain : ∀ k ∈ nestedHunk :: echoedHunks, k.Plain := by
    have htail : ∀ k ∈ nestedHunk :: echoedHunks, '\n' ∉ k.tail := by decide
    have hcontent : ∀ k ∈ nestedHunk :: echoedHunks, ∀ l ∈ k.lines, '\n' ∉ l.content := by decide
    exact fun k hk => ⟨htail k hk, hcontent k hk⟩
  refine ⟨⟨hplain _ List.mem_cons_self, by decide +kernel, ?_, by decide +kernel⟩,
    fun k hk => hplain k (List.mem_cons_of_mem _ hk), by decide, ?_, by decide +kernel⟩
  · decide +kernel
  · decide +kernel

end Redline.Diff
