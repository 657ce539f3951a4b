import Mathlib.Logic.Function.Basic
import Redline.Outline.Cache

/-!
# Parsers that share a cache

Any number of parsers look into one cache, and each may be given another language at any
time.  What the cache keeps for a language and a text is the outline of that text in that
language (`Cache.Faithful`), since an entry is never changed and all of them go at once
when there are too many.  So every parse of a run gives what is built for the text in the
language that the parser then has, and the cache never grows past one entry over its limit
(`run_as_built`).
-/

namespace Redline.Outline

/-! ## What is kept -/

namespace Cache

variable {c : Cache}

/-- Every entry is the outline of its text in its language, and there are not too many. -/
structure Faithful (c : Cache) : Prop where
  outline : ∀ e ∈ c.entries, e.2 = build e.1.1 e.1.2
  size_le : c.size ≤ limit + 1

theorem faithful_empty : Faithful {} := ⟨fun _ he => absurd he List.not_mem_nil, Nat.zero_le _⟩

theorem Faithful.of_find? (h : c.Faithful) {key : String × Text} {root : Node} (hfind : c.find? key = some root) :
    root = build key.1 key.2 := by
  obtain ⟨e, he, rfl⟩ := Option.map_eq_some_iff.1 hfind
  have hkey : e.1 = key := by simpa using List.find?_some he
  rw [h.outline e (List.mem_of_find?_eq_some he), hkey]

theorem Faithful.insert (h : c.Faithful) (key : String × Text) : (c.insert key (build key.1 key.2)).Faithful := by
  unfold Cache.insert
  split
  next => exact ⟨List.forall_mem_singleton.2 rfl, Nat.succ_le_succ (Nat.zero_le limit)⟩
  next hroom => exact ⟨List.forall_mem_cons.2 ⟨rfl, h.outline⟩, Nat.succ_le_succ (Nat.not_lt.1 hroom)⟩

/-- A parse gives what is built, and what is kept afterwards is right again. -/
theorem Faithful.parse (h : c.Faithful) (p : Parser) (t : Text) :
    (c.parse p t).1 = build p.language t ∧ (c.parse p t).2.Faithful := by
  unfold Cache.parse
  dsimp only
  split
  next root hfind => exact ⟨h.of_find? hfind, h⟩
  next => exact ⟨rfl, h.insert (p.language, t)⟩

end Cache

/-- The bytes of a text are decoded to the text. -/
theorem decode?_utf8 (t : Text) : (Source.utf8 (String.ofList t).toUTF8).decode? = some t := by
  rw [Source.decode?, String.fromUTF8?, String.toUTF8_eq_toByteArray, dif_pos (String.ofList t).isValidUTF8]
  exact congrArg some String.toList_ofList

/-! ## Calls of several parsers -/

/-- A call of a parser, which is told by its name. -/
inductive Call (ι : Type) where
  | setLanguage (parser : ι) (language : Option String)
  /-- A parse may be given an earlier outline. -/
  | parse (parser : ι) (source : Source) (earlier : Option Node)

/-- Parsers with the cache that they share. -/
structure Pool (ι : Type) where
  parsers : ι → Parser
  cache : Cache := {}

variable {ι : Type} [DecidableEq ι]

/-- The outline that a call gives, if it does, and the parsers and the cache afterwards. -/
def Pool.call (s : Pool ι) : Call ι → Option Node × Pool ι
  | .setLanguage i language =>
      (none, { s with parsers := Function.update s.parsers i ((s.parsers i).setLanguage language) })
  | .parse i source earlier =>
      match s.cache.parseSource (s.parsers i) source earlier with
      | some (root, cache) => (some root, { s with cache := cache })
      | none => (none, s)

/-- What calls give, one after the other, and the parsers and the cache in the end. -/
def Pool.run (s : Pool ι) : List (Call ι) → List (Option Node) × Pool ι
  | [] => ([], s)
  | c :: cs => ((s.call c).1 :: ((s.call c).2.run cs).1, ((s.call c).2.run cs).2)

/-- The language that a call gives to a parser, if it does. -/
def Call.names (i : ι) : Call ι → Option String
  | setLanguage j language => if j = i then language else none
  | parse .. => none

/-- The language of a parser after some calls: the last one that it was given, or its first. -/
def languageAfter (first : ι → Parser) (calls : List (Call ι)) (i : ι) : String :=
  (calls.reverse.findSome? (Call.names i)).getD (first i).language

/-! ## One call -/

section

variable {s : Pool ι}

theorem Pool.call_parse (h : s.cache.Faithful) {source : Source} {t : Text} (hsource : source.decode? = some t)
    (i : ι) (earlier : Option Node) :
    (s.call (.parse i source earlier)).1 = some (build (s.parsers i).language t) := by
  simp only [call, Cache.parseSource, hsource, Option.map_some, (h.parse (s.parsers i) t).1]

theorem Pool.call_faithful (h : s.cache.Faithful) (c : Call ι) : (s.call c).2.cache.Faithful := by
  cases c with
  | setLanguage i language => exact h
  | parse i source earlier =>
      cases hsource : source.decode? with
      | none => simpa only [call, Cache.parseSource, hsource, Option.map_none] using h
      | some t =>
          simp only [call, Cache.parseSource, hsource, Option.map_some]
          exact (h.parse (s.parsers i) t).2

theorem Pool.call_language (s : Pool ι) (c : Call ι) (i : ι) :
    ((s.call c).2.parsers i).language = (c.names i).getD (s.parsers i).language := by
  cases c with
  | setLanguage j language =>
      by_cases hj : j = i
      · subst hj
        cases language <;> simp [call, Call.names, Parser.setLanguage]
      · simp [call, Call.names, hj, Function.update_of_ne (Ne.symm hj)]
  | parse j source earlier =>
      cases hsource : source.decode? <;> simp [call, Call.names, Cache.parseSource, hsource]

end

/-! ## Runs -/

theorem Pool.run_faithful {s : Pool ι} (h : s.cache.Faithful) (calls : List (Call ι)) :
    (s.run calls).2.cache.Faithful := by
  induction calls generalizing s with
  | nil => exact h
  | cons c cs ih => exact ih (call_faithful h c)

theorem Pool.run_language (s : Pool ι) (calls : List (Call ι)) (i : ι) :
    ((s.run calls).2.parsers i).language = languageAfter s.parsers calls i := by
  induction calls generalizing s with
  | nil => rfl
  | cons c cs ih =>
      show (((s.call c).2.run cs).2.parsers i).language = _
      rw [ih, languageAfter, languageAfter, List.reverse_cons, List.findSome?_append, Option.getD_or, call_language,
        List.findSome?_singleton]

/-- A call gives what it gives in the state that the calls before it lead to. -/
theorem Pool.getElem?_run (s : Pool ι) (calls : List (Call ι)) (k : Nat) :
    (s.run calls).1[k]? = calls[k]?.map fun c => ((s.run (calls.take k)).2.call c).1 := by
  induction calls generalizing s k with
  | nil => simp [run]
  | cons c cs ih =>
      cases k with
      | zero => rfl
      | succ k => exact ih (s.call c).2 k

/-- Whatever is called on parsers that share a cache, every parse gives the outline that is
built for its text in the language that the parser then has, be the text given as such or
in bytes, and whatever earlier outline comes with it.  The cache, which is empty at first,
never holds more than 513 entries. -/
theorem run_as_built (first : ι → Parser) (calls : List (Call ι)) :
    (∀ k i source earlier t, calls[k]? = some (.parse i source earlier) →
      source = .text t ∨ source = .utf8 (String.ofList t).toUTF8 →
      (Pool.run ⟨first, {}⟩ calls).1[k]? = some (some (build (languageAfter first (calls.take k) i) t))) ∧
    ∀ k, (Pool.run ⟨first, {}⟩ (calls.take k)).2.cache.size ≤ 513 := by
  constructor
  · intro k i source earlier t hcall hsource
    have hdecode : source.decode? = some t := by
      rcases hsource with rfl | rfl
      · rfl
      · exact decode?_utf8 t
    have hfaithful := Pool.run_faithful (s := ⟨first, {}⟩) Cache.faithful_empty (calls.take k)
    rw [Pool.getElem?_run, hcall, Option.map_some, Pool.call_parse hfaithful hdecode, Pool.run_language]
  · exact fun k => (Pool.run_faithful Cache.faithful_empty (calls.take k)).size_le

/-- Two parsers get different outlines of one text. -/
def twoParsers : List (Call Bool) :=
  let t := "import a".toList
  [.parse false (.text t) none, .setLanguage true (some "java"), .parse true (.utf8 (String.ofList t).toUTF8) none,
    .setLanguage true none, .parse true (.text t) (some (build "python" t))]

theorem run_as_built_twoParsers :
    (Pool.run ⟨fun _ => {}, {}⟩ twoParsers).1[0]? = some (some (build "python" "import a".toList)) ∧
      (Pool.run ⟨fun _ => {}, {}⟩ twoParsers).1[2]? = some (some (build "java" "import a".toList)) ∧
      (Pool.run ⟨fun _ => {}, {}⟩ twoParsers).1[4]? = some (some (build "java" "import a".toList)) ∧
      (build "python" "import a".toList).children.map Node.kind = ["import_statement"] ∧
      (build "java" "import a".toList).children.map Node.kind = ["import_declaration"] := by
  obtain ⟨hrun, -⟩ := run_as_built (fun _ => {}) twoParsers
  exact ⟨hrun 0 false _ _ _ rfl (.inl rfl), hrun 2 true _ _ _ rfl (.inr rfl), hrun 4 true _ _ _ rfl (.inl rfl),
    by decide, by decide⟩

end Redline.Outline
