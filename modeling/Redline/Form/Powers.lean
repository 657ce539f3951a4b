import Redline.Form.Value

/-!
# Powers

To go through values, to show them and to filter them may take the whole
language: a filter can be named by a value, and a walk can lead through the test
of a loop.  So what works on values gets *powers*, the language one level of
depth below.  The module with the meaning of forms ties the knot.
-/

namespace Redline.Form

/-- The language one level of depth below. -/
structure Powers where
  call : Value → Args → Run Value
  filter : (name : Value) → Value → Args → Run Value
  test : (name : Value) → Value → Args → Run Value
  next : (place : Nat) → Run (Option Value)
  value : Site → Expr → Run Value
  steps : Site → List Step → Run Unit

/-- Fails because the language goes too deep. -/
def Run.tooDeep {α : Type} : Run α := Run.fail .depth "maximum recursion depth exceeded"

/-- How deep calls may lie in one another. -/
def maxCallDepth : Nat := 980

/-- Carries out what lies a number of calls deeper. -/
def Run.deeper {α : Type} (calls : Nat) (x : Run α) : Run α := do
  let depth := (← get).depth
  if maxCallDepth < depth + calls then Run.tooDeep
  modify fun s => { s with depth := depth + calls }
  let a ← x
  modify fun s => { s with depth := depth }
  return a

/-- The largest number of things that there is room for. -/
def maxRoom : Nat := Nat.pow 2 26

/-- Fails if there is no room for a number of things. -/
def Run.needRoom (n : Nat) : Run Unit := if maxRoom < n then Run.fail .room "" else return ()

/-- The powers at the bottom, where nothing can be done. -/
def Powers.none : Powers where
  call _ _ := Run.tooDeep
  filter _ _ _ := Run.tooDeep
  test _ _ _ := Run.tooDeep
  next _ := Run.tooDeep
  value _ _ := Run.tooDeep
  steps _ _ := Run.tooDeep

instance : Inhabited Powers := ⟨.none⟩

/-- Repeats an action until it says that it is done.  `rounds` bounds how often. -/
def Run.untilDone : (rounds : Nat) → Run Bool → Run Unit
  | 0, _ => Run.tooDeep
  | rounds + 1, x => do
      if ← x then return ()
      untilDone rounds x

/-- How often an action is repeated at most. -/
def Run.maxRounds : Nat := 1000000000

/-- Repeats an action on a state until it gives no other state. -/
def Run.iterate {σ : Type} : (rounds : Nat) → σ → (σ → Run (σ × Bool)) → Run σ
  | 0, _, _ => Run.tooDeep
  | rounds + 1, a, step => do
      let (b, more) ← step a
      if more then iterate rounds b step else return b

end Redline.Form
