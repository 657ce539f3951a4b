import Mathlib.Data.List.Basic
import Mathlib.Data.List.TakeWhile
import Redline.Diff.Annotation
import Redline.Proofs.Text.Search

/-!
# Marks of hunks

A hunk opens with a mark that gives its first lines.  `readHeader` reads exactly such
marks, and what stands behind a mark does not matter (`readHeader_mark` and
`readHeader_eq_some`).  A mark survives when its hunk is stripped and its lines are
numbered, so the numbers of a hunk can be read from its text as it is shown.
-/

namespace Redline

namespace Diff

open Text (isDecimal isBlank)

/-! ## Numbers and counts -/

/-- A row of digits. -/
structure IsNumber (ds : Text) : Prop where
  /-- There is one at least. -/
  ne_nil : ds ≠ []
  decimal : ∀ c ∈ ds, isDecimal c = true

/-- What may stand behind a number: nothing, or a comma and a number. -/
inductive IsCount : Text → Prop where
  | nothing : IsCount []
  | number {ds : Text} (h : IsNumber ds) : IsCount (',' :: ds)

def mark (old oldCount new newCount : Text) : Text :=
  "@@ -".toList ++ (old ++ (oldCount ++ (" +".toList ++ (new ++ (newCount ++ " @@".toList)))))

section

variable {ds t x : Text}

theorem takeWhile_number (h : IsNumber ds) (hx : ∀ c ∈ x.head?, isDecimal c = false) :
    (ds ++ x).takeWhile isDecimal = ds ∧ (ds ++ x).dropWhile isDecimal = x := by
  rw [List.takeWhile_append_of_pos h.decimal, List.dropWhile_append_of_pos h.decimal]
  cases x with
  | nil => exact ⟨List.append_nil ds, rfl⟩
  | cons c x =>
      have hc : isDecimal c = false := hx c rfl
      rw [List.takeWhile_cons_of_neg (by simp [hc]), List.dropWhile_cons_of_neg (by simp [hc])]
      exact ⟨List.append_nil ds, rfl⟩

theorem readDecimals_append (h : IsNumber ds) (hx : ∀ c ∈ x.head?, isDecimal c = false) :
    readDecimals (ds ++ x) = some (ds, x) := by
  obtain ⟨htake, hdrop⟩ := takeWhile_number h hx
  rw [readDecimals, htake, hdrop, if_neg (by simpa using h.ne_nil)]

theorem readDecimals_eq_some (h : readDecimals t = some (ds, x)) : IsNumber ds ∧ t = ds ++ x := by
  unfold readDecimals at h
  dsimp only at h
  split at h
  next => cases h
  next hne =>
    cases h
    refine ⟨⟨fun hnil => hne (by rw [hnil]; rfl), fun c hc => ?_⟩, (List.takeWhile_append_dropWhile ..).symm⟩
    exact List.all_eq_true.1 List.all_takeWhile c hc

theorem readWord_append (word x : Text) : readWord word (word ++ x) = some x := by
  rw [readWord, if_pos (by simp), List.drop_left]

theorem readWord_eq_some {word : Text} (h : readWord word t = some x) : t = word ++ x := by
  unfold readWord at h
  split at h
  next hpre =>
    cases h
    obtain ⟨y, rfl⟩ := List.isPrefixOf_iff_prefix.1 hpre
    rw [List.drop_left]
  next => cases h

theorem head_count {count : Text} (h : IsCount count) (hx : x.head? = some ' ') :
    ∀ c ∈ (count ++ x).head?, isDecimal c = false := by
  intro c hc
  cases h with
  | nothing =>
      rw [List.nil_append, hx] at hc
      cases hc
      decide
  | number h =>
      cases hc
      decide

theorem skipCount_append {count : Text} (h : IsCount count) (hx : x.head? = some ' ') :
    skipCount (count ++ x) = x := by
  cases h with
  | nothing =>
      cases x with
      | nil => cases hx
      | cons c x =>
          cases hx
          rfl
  | number h =>
      have hstop : ∀ c ∈ x.head?, isDecimal c = false := head_count .nothing hx
      rw [List.cons_append, skipCount, readDecimals_append h hstop]

theorem exists_count (t : Text) : ∃ count, IsCount count ∧ t = count ++ skipCount t := by
  unfold skipCount
  split
  next u =>
    split
    next ds rest hread =>
      obtain ⟨hds, rfl⟩ := readDecimals_eq_some hread
      exact ⟨',' :: ds, .number hds, rfl⟩
    next => exact ⟨[], .nothing, rfl⟩
  next => exact ⟨[], .nothing, rfl⟩

end

/-! ## Marks -/

section

variable {old oldCount new newCount : Text}

/-- A mark is read, whatever stands behind it. -/
theorem readHeader_mark (hold : IsNumber old) (holdCount : IsCount oldCount) (hnew : IsNumber new)
    (hnewCount : IsCount newCount) (x : Text) :
    readHeader (mark old oldCount new newCount ++ x) = some (old, new, x) := by
  simp only [mark, List.append_assoc, readHeader, readWord_append, Option.bind_eq_bind, Option.bind_some]
  rw [readDecimals_append hold (head_count holdCount rfl)]
  simp only [Option.bind_some]
  rw [skipCount_append holdCount rfl, readWord_append]
  simp only [Option.bind_some]
  rw [readDecimals_append hnew (head_count hnewCount rfl)]
  simp only [Option.bind_some]
  rw [skipCount_append hnewCount rfl, readWord_append]
  rfl

/-- Only marks are read. -/
theorem readHeader_eq_some {t x : Text} (h : readHeader t = some (old, new, x)) :
    ∃ oldCount newCount, IsNumber old ∧ IsCount oldCount ∧ IsNumber new ∧ IsCount newCount ∧
      t = mark old oldCount new newCount ++ x := by
  simp only [readHeader, Option.bind_eq_bind, Option.bind_eq_some_iff] at h
  obtain ⟨t₁, h₁, ⟨ds, t₂⟩, h₂, t₃, h₃, ⟨es, t₄⟩, h₄, t₅, h₅, heq⟩ := h
  cases heq
  obtain ⟨hold, rfl⟩ := readDecimals_eq_some h₂
  obtain ⟨oldCount, holdCount, ht₂⟩ := exists_count t₂
  obtain ⟨hnew, rfl⟩ := readDecimals_eq_some h₄
  obtain ⟨newCount, hnewCount, ht₄⟩ := exists_count t₄
  refine ⟨oldCount, newCount, hold, holdCount, hnew, hnewCount, ?_⟩
  rw [readWord_eq_some h₁, ht₂, readWord_eq_some h₃, ht₄, readWord_eq_some h₅]
  simp only [mark, List.append_assoc]

theorem mark_head (old oldCount new newCount : Text) :
    ∃ m, mark old oldCount new newCount = '@' :: m := ⟨_, rfl⟩

theorem mark_last (old oldCount new newCount : Text) :
    ∃ m, mark old oldCount new newCount = m ++ ['@'] :=
  ⟨"@@ -".toList ++ (old ++ (oldCount ++ (" +".toList ++ (new ++ (newCount ++ " @".toList))))), by
    simp only [mark, List.append_assoc]
    rfl⟩

theorem not_mem_number {ds : Text} (h : IsNumber ds) : '\n' ∉ ds := fun hmem => by
  have := h.decimal _ hmem
  revert this
  decide

theorem not_mem_count {count : Text} (h : IsCount count) : '\n' ∉ count := by
  cases h with
  | nothing => exact List.not_mem_nil
  | number h => exact fun hmem => not_mem_number h ((List.mem_cons.1 hmem).resolve_left (by decide))

theorem not_mem_mark (hold : IsNumber old) (holdCount : IsCount oldCount) (hnew : IsNumber new)
    (hnewCount : IsCount newCount) : '\n' ∉ mark old oldCount new newCount := by
  have hat : '\n' ∉ "@@ -".toList := by decide
  have hplus : '\n' ∉ " +".toList := by decide
  have hend : '\n' ∉ " @@".toList := by decide
  simp only [mark, List.mem_append, not_or]
  exact ⟨hat, not_mem_number hold, not_mem_count holdCount, hplus, not_mem_number hnew, not_mem_count hnewCount, hend⟩

end

/-! ## Hunks as they are shown -/

section

variable {old oldCount new newCount : Text}

theorem strip_mark (x : Text) :
    Text.strip (mark old oldCount new newCount ++ x) = mark old oldCount new newCount ++ Text.trimRight x isBlank := by
  obtain ⟨m, hm⟩ := mark_head old oldCount new newCount
  obtain ⟨n, hn⟩ := mark_last old oldCount new newCount
  have hat : isBlank '@' = false := by decide
  have hleft : (mark old oldCount new newCount ++ x).dropWhile isBlank = mark old oldCount new newCount ++ x := by
    rw [hm, List.cons_append, List.dropWhile_cons_of_neg (by simp [hat])]
  rw [Text.strip, Text.trim, hleft, hn, List.append_assoc, List.append_assoc]
  exact Text.trimRight_append hat x

end

theorem lines_leading {m : Text} (hm : '\n' ∉ m) (x : Text) :
    ∃ l ls, x.lines = l :: ls ∧ Text.lines (m ++ x) = (m ++ l) :: ls := by
  obtain ⟨l, ls, hlines⟩ := List.exists_cons_of_ne_nil (Text.lines_ne_nil x)
  refine ⟨l, ls, hlines, ?_⟩
  induction m with
  | nil => exact hlines
  | cons c m ih =>
      rw [List.mem_cons, not_or] at hm
      rw [List.cons_append, Text.lines, if_neg (Ne.symm hm.1), ih hm.2]
      rfl

/-- The lines of a hunk get numbers, and its first line stays. -/
theorem annotate_leading {m : Text} (hm : '\n' ∉ m) (x : Text) (old new : Int) :
    ∃ y, annotate (m ++ x) old new = m ++ y := by
  obtain ⟨l, ls, -, hlines⟩ := lines_leading hm x
  rw [annotate, hlines]
  dsimp only
  cases annotateLines old new ls with
  | nil => exact ⟨l, by simp [Text.unlines]⟩
  | cons k ks => exact ⟨l ++ '\n' :: Text.unlines (k :: ks), by simp [Text.unlines]⟩

end Diff

/-! ## Decimal digits -/

namespace Text

theorem digitValue?_of_isDigit {c : Char} (h : c.isDigit = true) : digitValue? c = some (c.toNat - 48) := by
  have hrange : 48 ≤ c.toNat ∧ c.toNat ≤ 57 := by
    simp only [Char.isDigit, Bool.and_eq_true, decide_eq_true_eq, ge_iff_le, UInt32.le_iff_toNat_le] at h
    exact h
  have hfirst : (decide (48 ≤ c.toNat) && decide (c.toNat < 48 + 10)) = true := by
    rw [Bool.and_eq_true, decide_eq_true_eq, decide_eq_true_eq]
    omega
  have hfound : digitZeros.find? (fun z => z ≤ c.toNat && c.toNat < z + 10) = some 48 :=
    List.find?_cons_of_pos (p := fun z => z ≤ c.toNat && c.toNat < z + 10) hfirst
  rw [digitValue?, hfound]
  rfl

theorem digitRow_decimals {ds : Text} (h : ∀ c ∈ ds, isDecimal c = true) :
    digitRow true ds = some (ds.filterMap digitValue?) ∧ (ds.filterMap digitValue?).length = ds.length := by
  induction ds with
  | nil => exact ⟨rfl, rfl⟩
  | cons c ds ih =>
      obtain ⟨d, hd⟩ := Option.isSome_iff_exists.1 (h c List.mem_cons_self)
      obtain ⟨hrow, hlength⟩ := ih fun c hc => h c (List.mem_cons_of_mem _ hc)
      rw [digitRow, hd, hrow, List.filterMap_cons_some hd, List.length_cons, hlength]
      exact ⟨rfl, rfl⟩

end Text

namespace Diff

/-- The number that a row of digits stands for. -/
def valueOf (ds : Text) : Nat := Text.numberOf (ds.filterMap Text.digitValue?)

/-- A row of digits is read unless it is too long. -/
theorem lineNumber_eq {ds : Text} (h : IsNumber ds) : lineNumber ds =
    if ds.length ≤ Text.maxDigits then .ok (valueOf ds) else .error (.integerTooLong ds.length) := by
  obtain ⟨hrow, hlength⟩ := Text.digitRow_decimals h.decimal
  have hall : ds.takeWhile (fun c => Text.isDecimal c || c = '_') = ds := by
    rw [List.takeWhile_eq_self_iff]
    intro c hc
    rw [h.decimal c hc]
    rfl
  have hfirst : Text.digitRow false ds = Text.digitRow true ds := by
    obtain ⟨c, rest, rfl⟩ := List.exists_cons_of_ne_nil h.ne_nil
    obtain ⟨d, hd⟩ := Option.isSome_iff_exists.1 (h.decimal c List.mem_cons_self)
    simp only [Text.digitRow, hd]
  unfold lineNumber Text.readDigits
  simp only [hall, hfirst, hrow, hlength, Nat.lt_irrefl, if_false]
  by_cases hlong : ds.length ≤ Text.maxDigits
  · rw [if_pos hlong, if_neg (Nat.not_lt.2 hlong)]
    rfl
  · rw [if_neg hlong, if_pos (Nat.lt_of_not_le hlong)]

theorem isDigit_of_mem_natText {n : Nat} {c : Char} (h : c ∈ Number.natText n) : c.isDigit = true :=
  Nat.isDigit_of_mem_toDigits (by decide) (by decide) h

theorem isNumber_natText (n : Nat) : IsNumber (Number.natText n) := by
  refine ⟨Nat.toDigits_ne_nil, fun c hc => ?_⟩
  rw [Text.isDecimal, Text.digitValue?_of_isDigit (isDigit_of_mem_natText hc)]
  rfl

theorem valueOf_natText (n : Nat) : valueOf (Number.natText n) = n := by
  have hdigits : (Number.natText n).filterMap Text.digitValue? = (Number.natText n).map fun c => c.toNat - 48 := by
    rw [← List.filterMap_eq_map]
    exact List.filterMap_congr fun c hc => Text.digitValue?_of_isDigit (isDigit_of_mem_natText hc)
  rw [valueOf, hdigits, Text.numberOf, List.foldl_map]
  exact Nat.ofDigitChars_ten_toDigits

/-- The digits of a number are read as the number, unless they are too many. -/
theorem lineNumber_natText {n m : Nat} (h : lineNumber (Number.natText n) = .ok m) : m = n := by
  rw [lineNumber_eq (isNumber_natText n), valueOf_natText] at h
  split at h
  next =>
    cases h
    rfl
  next => cases h

end Diff

end Redline
