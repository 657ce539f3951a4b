import Redline.Form.Expr

/-!
# Steps

A form that has been read is planned before it is written.  In a plan every name
has a *slot*: the level of the frame that it belongs to, and the name.  A frame
is entered with a list of *loads*, which say what its slots hold at first.

What a form writes is a row of chunks.  Texts between two chunks that are known
beforehand are one chunk.
-/

namespace Redline.Form

/-- A slot for a value: the level of a frame, and a name. -/
structure Slot where
  level : Nat
  name : String
deriving DecidableEq, Repr, Inhabited

/-- What a slot holds when its frame is entered. -/
inductive Load where
  | given
  | resolved (name : String)
  /-- What another slot holds. -/
  | copied (slot : Slot)
  | empty
deriving DecidableEq, Repr, Inhabited

/-- The loads of a frame, in order. -/
abbrev Entry := List (Slot × Load)

/-- Whether a value is escaped when it is written. -/
inductive Escape where
  /-- Never. -/
  | never
  | always
  | asSet
deriving DecidableEq, Repr, Inhabited

/-- A chunk of what a form writes. -/
inductive Chunk where
  | text (t : Text)
  | value (e : Expr) (escape : Escape)
deriving Inhabited

/-- What a value is assigned to. -/
inductive Target where
  | slot (s : Slot)
  | row (items : List Target)
  | member (s : Slot) (name : String)
deriving Inhabited

/-- A parameter of a routine. -/
structure Param where
  name : String
  slot : Slot
  /-- The expression for its value if none is given. -/
  default : Option Expr := none

/-- A part that is written whenever it is called. -/
structure Routine (step : Type) where
  name : Option String
  params : List Param
  /-- The slot of the part that a call gives it, if it asks for one. -/
  caller : Option Slot
  /-- The slot of further values by name, if it asks for them. -/
  named : Option Slot
  /-- The slot of further values by place, if it asks for them. -/
  rest : Option Slot
  entry : Entry
  body : List step

/-- A part that is written for every value in another. -/
structure Loop (step : Type) where
  target : Target
  values : Expr
  /-- The test that a value has to pass, with its loads. -/
  test : Option (Entry × Expr)
  recursive : Bool
  /-- The slot for where the loop is, if that is asked for. -/
  state : Option Slot
  entry : Entry
  body : List step
  /-- The loads and steps if there is no round. -/
  otherwise : Option (Entry × List step)
  /-- Whether what it writes counts as escaped when it is called. -/
  escape : Escape

/-- A step of a plan. -/
inductive Step where
  | output (chunks : List Chunk)
  /-- Takes the first branch whose condition holds, or else the last one. -/
  | branch (branches : List (Expr × List Step)) (otherwise : List Step)
  | loop (l : Loop Step)
  /-- Assigns a value.  The names are known outside then. -/
  | assign (target : Target) (e : Expr) (known : List Slot)
  | assignPart (target : Target) (filters : Option Expr) (known : List Slot) (escape : Escape)
      (entry : Entry) (body : List Step)
  | naming (targets : List (Target × Expr)) (entry : Entry) (body : List Step)
  | filtered (filters : Expr) (escape : Escape) (entry : Entry) (body : List Step)
  /-- Assigns a routine.  Its name may be known outside then. -/
  | routine (slot : Slot) (isKnown : Bool) (r : Routine Step)
  | calling (call : Expr) (r : Routine Step)
  | escaping (e : Expr) (body : List Step)
  | block (name : String) (seen : Option (List Slot)) (required : Bool)
  /-- Looks for another form. -/
  | lookup (e : Expr)
  /-- Writes another form, or one of several. -/
  | insertion (e : Expr) (several : Option Bool) (optional : Bool)
  | failure (fault : Fault)

instance : Inhabited Step := ⟨.output []⟩

/-- A block of a plan. -/
structure Block where
  name : String
  /-- The slot for the form itself, if it asks for it. -/
  whole : Option Slot
  /-- The slot for the block that this one stands for, if it asks for it. -/
  base : Option Slot
  entry : Entry
  body : List Step
deriving Inhabited

end Redline.Form
