import Redline.Form.Item

/-!
# Frames

A frame holds what slots hold while a routine, a block or the form itself is
carried out.  It lies in the store, since a routine sees what the slots around it
hold when it is called.  A slot that is not in a frame is in one around it.
-/

namespace Redline.Form

/-- A new frame inside another one. -/
def newFrame (outer : Option Nat) : Run Nat := Run.new (.frame [] outer)

/-- What a slot holds, in a frame or around it.  `fuel` bounds the number of
frames. -/
def slotIn : (fuel : Nat) → (frame : Nat) → Slot → Run (Option Value)
  | 0, _, _ => return none
  | fuel + 1, frame, s => do
      match ← Run.cellAt frame with
      | .frame slots outer =>
          match slots.lookup s, outer with
          | some v, _ => return v
          | none, some outer => slotIn fuel outer s
          | none, none => return none
      | _ => return none

def slotAt (frame : Nat) (s : Slot) : Run (Option Value) := slotIn maxDepth frame s

/-- Puts a value into a slot, or takes it out. -/
def setSlot (frame : Nat) (s : Slot) (v : Option Value) : Run Unit := do
  match ← Run.cellAt frame with
  | .frame slots outer => Run.setCell frame (.frame (Table.set s v slots) outer)
  | _ => return ()

def resolve (context : Context) (name : String) : Run (Option Value) := do
  match context with
  | .form =>
      let s ← get
      return (s.known.lookup name).orElse fun _ => s.given.lookup name
  | .names values => return values.lookup name

def enter (site : Site) (entry : Entry) : Run Unit :=
  entry.forM fun (s, load) => do
    match load with
    | .given => pure ()
    | .resolved name => setSlot site.frame s (← resolve site.context name)
    | .copied other => setSlot site.frame s (← slotAt site.frame other)
    | .empty => setSlot site.frame s none

def leave (site : Site) (entry : Entry) : Run Unit :=
  entry.forM fun (s, _) => setSlot site.frame s none

def makeKnown (name : String) (v : Value) : Run Unit :=
  modify fun s => { s with known := Table.set name v s.known }

/-- All names of a context with their values, each once. -/
def Context.all (context : Context) : Run (List (String × Value)) := do
  match context with
  | .form =>
      let s ← get
      return s.known.foldl (fun names (k, v) => Table.set k v names) s.given
  | .names values => return values

end Redline.Form
