import Mathlib.Data.List.TakeWhile
import Redline.Text.Blank

/-!
# Searching, replacing and trimming

A pattern is found in a text exactly if it stands somewhere in it (`contains_iff`).
Replacing goes from left to right, and `replaceAll_induction` is the induction that
follows it: a text is empty, or no occurrence begins at its first character, or it begins
with one.  A character that is not in the pattern keeps what stands before it apart from
what stands behind it, so a text is replaced in piece by piece
(`replaceAll_append_cons`).  A split text begins with what stands before the first separator
(`headD_splitOn`).  Trimming takes away what is dropped at the two ends and
nothing else.
-/

namespace Redline.Text

/-! ## Search -/

section

variable {p t : Text} {c : Char}

theorem find?_self (hne : p ≠ []) (x : Text) : find? p (p ++ x) = some 0 := by
  obtain ⟨c, p, rfl⟩ := List.exists_cons_of_ne_nil hne
  rw [List.cons_append, find?, if_pos (by simp)]

theorem contains_iff : contains t p = true ↔ p <:+: t := by
  unfold contains
  induction t with
  | nil => cases p <;> simp [find?]
  | cons c t ih =>
      rw [List.infix_cons_iff, ← List.isPrefixOf_iff_prefix, ← ih, find?]
      split
      next h => simp [h]
      next h => simp [h]

theorem contains_eq_false_iff : contains t p = false ↔ ¬p <:+: t := by
  rw [← contains_iff, Bool.not_eq_true]

theorem find?_ne_none (h : p <:+: t) : find? p t ≠ none :=
  Option.isSome_iff_ne_none.1 (contains_iff.2 h)

theorem contains_of_not_mem (hp : c ∈ p) (ht : c ∉ t) : contains t p = false := by
  rw [contains_eq_false_iff]
  exact fun h => ht (h.subset hp)

/-- A pattern is found behind a text if no occurrence begins in the text. -/
theorem find?_append_of_first {a : Text} (hp : p ≠ []) (x : Text)
    (hfirst : ∀ b d, a = b ++ d → d ≠ [] → ¬p <+: d ++ (p ++ x)) : find? p (a ++ (p ++ x)) = some a.length := by
  induction a with
  | nil => exact find?_self hp x
  | cons e a ih =>
      have hskip : ¬p <+: e :: (a ++ (p ++ x)) := hfirst [] (e :: a) rfl (List.cons_ne_nil e a)
      have hrest := ih fun b d hbd => hfirst (e :: b) d (congrArg (e :: ·) hbd)
      rw [List.cons_append, find?, if_neg (by rwa [List.isPrefixOf_iff_prefix]), hrest]
      rfl

/-- In particular if the text does not have the first character of the pattern. -/
theorem find?_append_of_not_mem {a : Text} (h : c ∉ a) (x : Text) :
    find? (c :: p) (a ++ (c :: p ++ x)) = some a.length := by
  refine find?_append_of_first (List.cons_ne_nil c p) x fun b d hbd hne hpre => ?_
  obtain ⟨e, d, rfl⟩ := List.exists_cons_of_ne_nil hne
  obtain rfl : c = e := (List.cons_prefix_cons.1 hpre).1
  exact h (by simp [hbd])

/-- An occurrence does not reach over a character that is not in the pattern. -/
theorem prefix_of_not_mem {a b : Text} (hc : c ∉ p) (h : p <+: a ++ c :: b) : p <+: a := by
  obtain ⟨v, hv⟩ := h
  rcases List.append_eq_append_iff.1 hv with ⟨m, ha, -⟩ | ⟨m, rfl, hrest⟩
  · exact ⟨m, ha.symm⟩
  · cases m with
    | nil => simp
    | cons d m =>
        obtain rfl : c = d := (List.cons.inj hrest).1
        exact absurd (by simp) hc

/-- So it stands on one side of such a character. -/
theorem infix_append_cons {a b : Text} (hp : p ≠ []) (hc : c ∉ p) : p <:+: a ++ c :: b ↔ p <:+: a ∨ p <:+: b := by
  induction a with
  | nil =>
      have hnot : ¬p <+: c :: b := fun h => hp (List.prefix_nil.1 (prefix_of_not_mem (a := []) hc h))
      simp [List.infix_cons_iff, hnot, hp]
  | cons d a ih =>
      have hfirst : p <+: d :: (a ++ c :: b) ↔ p <+: d :: a :=
        ⟨fun h => prefix_of_not_mem (a := d :: a) hc h, fun h => h.trans (List.prefix_append _ _)⟩
      rw [List.cons_append, List.infix_cons_iff, List.infix_cons_iff, ih, hfirst, or_assoc]

end

/-! ## Pieces -/

/-- The first piece of a text reaches to the first separator, and goes on from what has been
read of it. -/
theorem head?_splitFrom (separator piece t : Text) :
    (splitFrom separator 0 piece t).head? = some (piece.reverse ++ t.take ((find? separator t).getD t.length)) := by
  induction t generalizing piece with
  | nil =>
      rw [splitFrom, List.take_nil, List.append_nil]
      rfl
  | cons c t ih =>
      rw [splitFrom, find?]
      split
      next => simp
      next =>
        rw [ih]
        cases find? separator t <;> simp

theorem headD_splitOn {separator a x : Text} (hs : separator ≠ [])
    (hfirst : ∀ b d, a = b ++ d → d ≠ [] → ¬separator <+: d ++ (separator ++ x)) :
    (splitOn (a ++ (separator ++ x)) separator).headD [] = a := by
  rw [List.headD_eq_head?_getD, splitOn, head?_splitFrom, find?_append_of_first hs x hfirst]
  simp

/-! ## Replacement -/

section

variable {p t : Text} {c : Char}

theorem replaceFrom_eq (p new : Text) (skip : Nat) (t : Text) :
    replaceFrom p new skip t = replaceAll (t.drop skip) p new := by
  unfold replaceAll
  induction t generalizing skip with
  | nil => simp [replaceFrom]
  | cons c t ih =>
      cases skip with
      | zero => rfl
      | succ skip => exact ih skip

@[simp] theorem replaceAll_nil (p new : Text) : replaceAll [] p new = [] := rfl

theorem replaceAll_append (hp : p ≠ []) (new x : Text) : replaceAll (p ++ x) p new = new ++ replaceAll x p new := by
  obtain ⟨c, p, rfl⟩ := List.exists_cons_of_ne_nil hp
  have hrest := replaceFrom_eq (c :: p) new p.length (p ++ x)
  rw [List.drop_left] at hrest
  rw [replaceAll, List.cons_append, replaceFrom, if_pos (by simp), List.length_cons, Nat.add_sub_cancel, hrest]

theorem replaceAll_cons (h : ¬p <+: c :: t) (new : Text) : replaceAll (c :: t) p new = c :: replaceAll t p new := by
  rw [replaceAll, replaceFrom, if_neg (by rwa [List.isPrefixOf_iff_prefix])]
  rfl

/-- What holds of the empty text, in front of a character where no occurrence begins, and in
front of an occurrence, holds of every text. -/
theorem replaceAll_induction {motive : Text → Prop} (hp : p ≠ []) (nil : motive [])
    (skip : ∀ c t, ¬p <+: c :: t → motive t → motive (c :: t)) (found : ∀ x, motive x → motive (p ++ x))
    (t : Text) : motive t := by
  induction h : t.length using Nat.strongRecOn generalizing t with
  | ind n ih =>
      subst h
      cases t with
      | nil => exact nil
      | cons c t =>
          by_cases hfound : p <+: c :: t
          · obtain ⟨x, hx⟩ := hfound
            have hlength := congrArg List.length hx
            have hpos := List.length_pos_iff.2 hp
            rw [List.length_append] at hlength
            rw [← hx]
            exact found x (ih x.length (by omega) x rfl)
          · exact skip c t hfound (ih t.length (Nat.lt_succ_self _) t rfl)

/-- A text without the pattern stays as it is. -/
theorem replaceAll_of_not_infix (h : ¬p <:+: t) (new : Text) : replaceAll t p new = t := by
  induction t with
  | nil => rfl
  | cons c t ih =>
      rw [List.infix_cons_iff, not_or] at h
      rw [replaceAll_cons h.1, ih h.2]

/-- A character that is not in the pattern keeps what stands before it apart from what
stands behind it. -/
theorem replaceAll_append_cons (hp : p ≠ []) (hc : c ∉ p) (new a b : Text) :
    replaceAll (a ++ c :: b) p new = replaceAll a p new ++ c :: replaceAll b p new := by
  induction a using replaceAll_induction hp with
  | nil =>
      refine replaceAll_cons (fun h => hp ?_) new
      exact List.prefix_nil.1 (prefix_of_not_mem (a := []) hc h)
  | skip d a hskip ih =>
      have hskip' : ¬p <+: d :: (a ++ c :: b) := fun h => hskip (prefix_of_not_mem (a := d :: a) hc h)
      rw [List.cons_append, replaceAll_cons hskip', ih, replaceAll_cons hskip, List.cons_append]
  | found a ih => rw [List.append_assoc, replaceAll_append hp, ih, replaceAll_append hp, List.append_assoc]

/-- How many characters of a kind there are after a replacement, by the number of
occurrences. -/
theorem countP_replaceAll (hp : p ≠ []) (new : Text) (kind : Char → Bool) (t : Text) :
    ∃ k, (k = 0 ↔ ¬p <:+: t) ∧
      (replaceAll t p new).countP kind + k * p.countP kind = t.countP kind + k * new.countP kind := by
  induction t using replaceAll_induction hp with
  | nil => exact ⟨0, by simpa using hp, by simp⟩
  | skip c t hskip ih =>
      obtain ⟨k, hk, hcount⟩ := ih
      refine ⟨k, by rw [hk, List.infix_cons_iff, not_or, and_iff_right hskip], ?_⟩
      rw [replaceAll_cons hskip, List.countP_cons, List.countP_cons]
      omega
  | found x ih =>
      obtain ⟨k, -, hcount⟩ := ih
      refine ⟨k + 1, ⟨fun h => absurd h (Nat.succ_ne_zero k), fun h => absurd (List.prefix_append p x).isInfix h⟩, ?_⟩
      rw [replaceAll_append hp, List.countP_append, List.countP_append, Nat.succ_mul, Nat.succ_mul]
      omega

end

/-! ## Ends -/

section

variable {drop keep : Char → Bool} {t : Text}

/-- Only what stands behind a character that is not dropped is cut. -/
theorem trimRight_append {m : Text} {c : Char} (hc : drop c = false) (x : Text) :
    trimRight (m ++ c :: x) drop = m ++ c :: trimRight x drop := by
  have hrev : (m ++ c :: x).reverse = x.reverse ++ c :: m.reverse := by simp
  rw [trimRight, hrev, List.dropWhile_append]
  cases h : x.reverse.dropWhile drop with
  | nil =>
      rw [List.isEmpty_nil, if_pos rfl, List.dropWhile_cons_of_neg (by simp [hc]), trimRight, h]
      simp
  | cons d ds =>
      rw [List.isEmpty_cons, if_neg Bool.false_ne_true, trimRight, h]
      simp

theorem dropWhile_of_head (h : ∀ c ∈ t.head?, drop c = false) : t.dropWhile drop = t := by
  cases t with
  | nil => rfl
  | cons c t => rw [List.dropWhile_cons_of_neg (by simp [h c rfl])]

/-- Of a text between characters that are dropped the text is left, if it begins and ends
with others. -/
theorem trim_between {a b : Text} (ha : ∀ c ∈ a, drop c = true) (hb : ∀ c ∈ b, drop c = true)
    (hhead : ∀ c ∈ t.head?, drop c = false) (hlast : ∀ c ∈ t.getLast?, drop c = false) :
    trim (a ++ (t ++ b)) drop = t := by
  cases t with
  | nil =>
      have hall : ∀ c ∈ a ++ ([] ++ b), drop c = true := fun c hc => (List.mem_append.1 hc).elim (ha c) (hb c)
      rw [trim, List.dropWhile_eq_nil_iff.2 hall]
      rfl
  | cons c t =>
      have hright : (c :: t).reverse.dropWhile drop = (c :: t).reverse :=
        dropWhile_of_head fun d hd => hlast d (List.head?_reverse ▸ hd)
      rw [trim, List.dropWhile_append_of_pos ha, List.cons_append, List.dropWhile_cons_of_neg (by simp [hhead c rfl]),
        trimRight, ← List.cons_append, List.reverse_append,
        List.dropWhile_append_of_pos fun x hx => hb x (List.mem_reverse.1 hx), hright, List.reverse_reverse]

theorem trim_of_ends (hhead : ∀ c ∈ t.head?, drop c = false) (hlast : ∀ c ∈ t.getLast?, drop c = false) :
    trim t drop = t := by
  simpa using trim_between (a := []) (b := []) (by simp) (by simp) hhead hlast

theorem mem_of_mem_trim {c : Char} (h : c ∈ trim t drop) : c ∈ t := by
  rw [trim, trimRight, List.mem_reverse] at h
  exact (List.dropWhile_sublist _).subset (List.mem_reverse.1 ((List.dropWhile_sublist _).subset h))

theorem filter_dropWhile (h : ∀ c ∈ t, drop c = true → keep c = false) :
    (t.dropWhile drop).filter keep = t.filter keep := by
  induction t with
  | nil => rfl
  | cons c t ih =>
      cases hc : drop c with
      | false => rw [List.dropWhile_cons_of_neg (by simp [hc])]
      | true =>
          rw [List.dropWhile_cons_of_pos hc, ih fun d hd => h d (List.mem_cons_of_mem c hd),
            List.filter_cons_of_neg (by simp [h c List.mem_cons_self hc])]

/-- Trimming takes away only what is dropped. -/
theorem filter_trim (h : ∀ c ∈ t, drop c = true → keep c = false) : (trim t drop).filter keep = t.filter keep := by
  have hright : ∀ c ∈ (t.dropWhile drop).reverse, drop c = true → keep c = false := fun c hc =>
    h c ((List.dropWhile_sublist _).subset (List.mem_reverse.1 hc))
  rw [trim, trimRight, List.filter_reverse, filter_dropWhile hright, List.filter_reverse, List.reverse_reverse,
    filter_dropWhile h]

end

end Redline.Text
