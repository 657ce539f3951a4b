import Redline.Form.Node
import Redline.Form.Step
import Redline.Table

/-!
# Scopes

Which slot a name belongs to.  A part of a form has *symbols*: the slots of the
names that it uses for the first time, and what these slots hold at first.  A
name that is read before it is assigned is looked up in the context.  One that is
assigned first holds what it holds in a scope around, or nothing.

A name that only some branches of a condition assign is looked up, since another
branch may be taken.
-/

namespace Redline.Form

/-! ## Names in expressions -/

mutual

/-- The names that an expression reads, in order. -/
def Expr.reads : Expr → List String
  | .const _ | .slot .. | .written => []
  | .name s => [s]
  | .tuple items | .list items | .joined items _ => readsOfAll items
  | .record fields => readsOfFields fields
  | .member e _ | .opposite e | .signed _ e => e.reads
  | .item e key => e.reads ++ key.reads
  | .span start stop step => readsOfOption start ++ readsOfOption stop ++ readsOfOption step
  | .call e args | .filter e _ args | .test e _ args => e.reads ++ readsOfArgs args
  | .operation _ a b | .both a b | .either a b => a.reads ++ b.reads
  | .comparison e others => e.reads ++ readsOfOthers others
  | .choice condition yes no _ => condition.reads ++ yes.reads ++ readsOfOption no

def readsOfAll : List Expr → List String
  | [] => []
  | e :: es => e.reads ++ readsOfAll es

def readsOfFields : List (Expr × Expr) → List String
  | [] => []
  | (k, e) :: fs => k.reads ++ e.reads ++ readsOfFields fs

/-- The names that an expression reads, if there is one. -/
def readsOfOption : Option Expr → List String
  | none => []
  | some e => e.reads

def readsOfArgs : List Arg → List String
  | [] => []
  | .placed e :: as | .named _ e :: as | .spread e :: as | .spreadNamed e :: as => e.reads ++ readsOfArgs as

/-- The names that the operands of comparisons read. -/
def readsOfOthers : List (Comparator × Expr) → List String
  | [] => []
  | (_, e) :: others => e.reads ++ readsOfOthers others

end

mutual

def targetNames : Expr → List String
  | .name s => [s]
  | .tuple items => targetNamesOfAll items
  | _ => []

def targetNamesOfAll : List Expr → List String
  | [] => []
  | e :: es => targetNames e ++ targetNamesOfAll es

end

def targetOwner? : Expr → Option String
  | .member (.name s) _ => some s
  | _ => none

/-! ## Names in parts -/

/-- How a name is used. -/
inductive Use where
  | read
  | stored
  | param
deriving DecidableEq, Repr

def usedAs (use : Use) (names : List String) : List (String × Use) := names.map fun s => (s, use)

def Expr.uses (e : Expr) : List (String × Use) := usedAs .read e.reads

def usesOfTarget (use : Use) (e : Expr) : List (String × Use) := usedAs use (targetNames e)

mutual

/-- The names that a part uses, in order, with those inside it.  `intoBlocks` says
whether the names inside blocks count. -/
def Node.uses (intoBlocks : Bool) : Node → List (String × Use)
  | .output pieces => pieces.flatMap fun p => match p with
      | .data _ => []
      | .value e => e.uses
  | .branch branches otherwise => usesOfBranches intoBlocks branches ++ usesOfAll intoBlocks otherwise
  | .loop target e test _ body otherwise =>
      usesOfTarget .stored target ++ e.uses ++ usesOfAll intoBlocks body ++ usesOfAll intoBlocks otherwise
        ++ usedAs .read (readsOfOption test)
  | .assign target e => usesOfTarget .stored target ++ e.uses
  | .assignPart target filters body =>
      usesOfTarget .stored target ++ usedAs .read (readsOfOption filters) ++ usesOfAll intoBlocks body
  | .naming targets body =>
      targets.flatMap (fun t => usesOfTarget .param t.1) ++ targets.flatMap (fun t => t.2.uses)
        ++ usesOfAll intoBlocks body
  | .filtered filters body => usesOfAll intoBlocks body ++ filters.uses
  | .routine _ params defaults body =>
      usedAs .param params ++ usedAs .read (readsOfAll defaults) ++ usesOfAll intoBlocks body
  | .calling params defaults call body =>
      call.uses ++ usedAs .param params ++ usedAs .read (readsOfAll defaults) ++ usesOfAll intoBlocks body
  | .escaping e body => e.uses ++ usesOfAll intoBlocks body
  | .block _ _ _ body => if intoBlocks then usesOfAll intoBlocks body else []
  | .parent e | .insertion e _ | .borrow e _ | .borrowNames e _ => e.uses

def usesOfAll (intoBlocks : Bool) : List Node → List (String × Use)
  | [] => []
  | n :: ns => n.uses intoBlocks ++ usesOfAll intoBlocks ns

def usesOfBranches (intoBlocks : Bool) : List (Expr × List Node) → List (String × Use)
  | [] => []
  | (e, body) :: rest => e.uses ++ usesOfAll intoBlocks body ++ usesOfBranches intoBlocks rest

end

/-- Those of some names that parts read before they give them values.  What stands
in blocks does not count. -/
def undeclared (names : List String) (body : List Node) : List String :=
  let step := fun (found, open_) ((s, use) : String × Use) =>
    if use = .read && open_.contains s then (if found.contains s then found else found ++ [s], open_)
    else (found, open_.filter (· ≠ s))
  ((usesOfAll false body).foldl step (([], names) : List String × List String)).1

mutual

/-- The blocks in a part, in order: their names, whether they see the names around
them, and their parts. -/
def Node.blocks : Node → List (String × Bool × List Node)
  | .branch branches otherwise => blocksOfBranches branches ++ blocksOfAll otherwise
  | .loop _ _ _ _ body otherwise => blocksOfAll body ++ blocksOfAll otherwise
  | .assignPart _ _ body | .naming _ body | .filtered _ body | .routine _ _ _ body | .calling _ _ _ body
  | .escaping _ body => blocksOfAll body
  | .block name inScope _ body => (name, inScope, body) :: blocksOfAll body
  | _ => []

def blocksOfAll : List Node → List (String × Bool × List Node)
  | [] => []
  | n :: ns => n.blocks ++ blocksOfAll ns

def blocksOfBranches : List (Expr × List Node) → List (String × Bool × List Node)
  | [] => []
  | (_, body) :: rest => blocksOfAll body ++ blocksOfBranches rest

end

mutual

/-- Whether a part stands in the place of another form. -/
def Node.hasParent : Node → Bool
  | .parent _ => true
  | .branch branches otherwise => haveParentBranches branches || haveParent otherwise
  | .loop _ _ _ _ body otherwise => haveParent body || haveParent otherwise
  | .assignPart _ _ body | .naming _ body | .filtered _ body | .routine _ _ _ body | .calling _ _ _ body
  | .escaping _ body | .block _ _ _ body => haveParent body
  | _ => false

/-- Whether one of some parts stands in the place of another form. -/
def haveParent : List Node → Bool
  | [] => false
  | n :: ns => n.hasParent || haveParent ns

/-- Whether a part of a branch stands in the place of another form. -/
def haveParentBranches : List (Expr × List Node) → Bool
  | [] => false
  | (_, body) :: rest => haveParent body || haveParentBranches rest

end

/-! ## Symbols -/

/-- The names of one scope. -/
structure Symbols where
  level : Nat
  slots : List (String × Slot) := []
  loads : Entry := []
  stores : List String := []
deriving Inhabited

/-- A scope: its symbols, and those of the scopes around it, the innermost first. -/
abbrev Scope := List Symbols

def Scope.slot? (scope : Scope) (name : String) : Option Slot := scope.findSome? (·.slots.lookup name)

/-- The level of a scope inside another one. -/
def Scope.nextLevel : Scope → Nat
  | [] => 0
  | s :: _ => s.level + 1

/-- The names that a scope gives values, with their slots. -/
def Scope.visible (scope : Scope) : List Slot :=
  ((scope.flatMap (·.stores)).eraseDups).filterMap scope.slot?

namespace Symbols

def define (s : Symbols) (name : String) (load : Load) : Symbols :=
  let slot : Slot := ⟨s.level, name⟩
  { s with slots := Table.set name slot s.slots, loads := Table.set slot load s.loads }

def addStore (s : Symbols) (name : String) : Symbols :=
  if s.stores.contains name then s else { s with stores := s.stores ++ [name] }

/-- Symbols after a name gets a value, inside other scopes. -/
def store (outer : Scope) (s : Symbols) (name : String) : Symbols :=
  let s := s.addStore name
  if (s.slots.lookup name).isSome then s
  else match outer.slot? name with
    | some slot => s.define name (.copied slot)
    | none => s.define name .empty

def declare (s : Symbols) (name : String) : Symbols := (s.addStore name).define name .given

/-- Symbols after a name is read, inside other scopes. -/
def load (outer : Scope) (s : Symbols) (name : String) : Symbols :=
  if (Scope.slot? (s :: outer) name).isSome then s else s.define name (.resolved name)

def read (outer : Scope) (s : Symbols) (e : Expr) : Symbols := e.reads.foldl (load outer) s

def assigned (outer : Scope) (s : Symbols) (target : Expr) : Symbols :=
  match targetOwner? target with
  | some name => s.load outer name
  | none => (targetNames target).foldl (store outer) s

/-- Symbols with what others have more. -/
def merge (s other : Symbols) : Symbols :=
  { s with
    slots := other.slots.foldl (fun slots (k, v) => Table.set k v slots) s.slots
    loads := other.loads.foldl (fun loads (k, v) => Table.set k v loads) s.loads
    stores := (other.stores.foldl addStore s).stores }

/-- Symbols after a condition with branches.  A name that not all branches give a
value holds what it holds around, or is looked up. -/
def afterBranches (outer : Scope) (s : Symbols) (branches : List Symbols) : Symbols :=
  let names := ((branches.flatMap (·.stores)).eraseDups).filter fun name => !s.stores.contains name
  let unsure := names.filter fun name => !branches.all (·.stores.contains name)
  unsure.foldl (fun s name =>
    match Scope.slot? (s :: outer) name with
    | none => s
    | some slot =>
        let load := match outer.slot? name with
          | some around => .copied around
          | none => .resolved name
        { s with loads := Table.set slot load s.loads })
    (branches.foldl merge s)

end Symbols

mutual

/-- Symbols after a part.  What has a scope of its own does not count. -/
def Symbols.visit (outer : Scope) (s : Symbols) : Node → Symbols
  | .output pieces => pieces.foldl (fun s p => match p with
      | .data _ => s
      | .value e => s.read outer e) s
  | .branch [] otherwise => s.visitAll outer otherwise
  | .branch ((e, body) :: rest) otherwise =>
      let s := s.read outer e
      s.afterBranches outer [s.visitAll outer body, s.visitBranches outer rest, s.visitAll outer otherwise]
  | .loop _ e _ _ _ _ => s.read outer e
  | .assign target e => (s.read outer e).assigned outer target
  | .assignPart target _ _ => s.assigned outer target
  | .naming targets _ => targets.foldl (fun s t => s.read outer t.2) s
  | .filtered filters _ => s.read outer filters
  | .routine name _ _ _ => s.store outer name
  | .calling _ _ call _ => s.read outer call
  | .escaping .. | .block .. => s
  | .parent e | .insertion e _ => s.read outer e
  | .borrow e target => (s.read outer e).store outer target
  | .borrowNames e targets => targets.foldl (Symbols.store outer) (s.read outer e)

def Symbols.visitAll (outer : Scope) (s : Symbols) : List Node → Symbols
  | [] => s
  | n :: ns => (s.visit outer n).visitAll outer ns

/-- Symbols after branches that are looked at one by one, each as a condition of its
own. -/
def Symbols.visitBranches (outer : Scope) (s : Symbols) : List (Expr × List Node) → Symbols
  | [] => s
  | (e, body) :: rest =>
      let s := s.read outer e
      (s.afterBranches outer [s.visitAll outer body, s, s]).visitBranches outer rest

end

/-! ## Scopes of parts -/

/-- The scope inside another one of parts, behind some parameters and expressions. -/
def Scope.inside (outer : Scope) (params : List String) (reads : List Expr) (body : List Node) : Scope :=
  let s : Symbols := { level := outer.nextLevel }
  let s := params.foldl Symbols.declare s
  let s := reads.foldl (Symbols.read outer) s
  s.visitAll outer body :: outer

def Scope.entry (scope : Scope) : Entry := (scope.head?.map (·.loads)).getD []

end Redline.Form
