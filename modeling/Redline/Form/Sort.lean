import Redline.Form.Compare

/-!
# Sorting

Values are sorted by keys.  Values whose keys are alike stay in their order.

A short list is sorted by taking the run that it starts with, turned round if it
falls, and putting one value after the other to its place by halving.  A long list
is cut in two, and both parts are sorted and merged.  The way matters, since two
keys that cannot be compared are a fault, and the fault names them.
-/

namespace Redline.Form

/-- A value with the key that it is sorted by. -/
structure Keyed where
  key : Value
  value : Value
deriving Inhabited

/-- Whether one value comes before another. -/
def Keyed.precedes (x y : Keyed) : Run Bool := x.key.precedes y.key

/-- The values of a run that go on from the last one, and the rest. -/
def runFrom (falling : Bool) (last : Keyed) : List Keyed → Run (List Keyed × List Keyed)
  | [] => return ([], [])
  | x :: xs => do
      if (← x.precedes last) = falling then
        let (run, rest) ← runFrom falling x xs
        return (x :: run, rest)
      return ([], x :: xs)

/-- The run that values start with, in order, and the rest. -/
def firstRun : List Keyed → Run (List Keyed × List Keyed)
  | x :: y :: xs => do
      let falling ← y.precedes x
      let (run, rest) ← runFrom falling y xs
      let run := x :: y :: run
      return (if falling then run.reverse else run, rest)
  | xs => return (xs, [])

/-- The place of a value among others in order, behind those that are alike, between
two positions.  `fuel` bounds the number of halvings. -/
def placeIn (sorted : Array Keyed) (x : Keyed) : (fuel low high : Nat) → Run Nat
  | 0, low, _ => return low
  | fuel + 1, low, high => do
      if high ≤ low then return low
      let middle := low + (high - low) / 2
      match sorted[middle]? with
      | none => return low
      | some y =>
          if ← x.precedes y then placeIn sorted x fuel low middle
          else placeIn sorted x fuel (middle + 1) high

/-- Values with others put to their places. -/
def putAll : Array Keyed → List Keyed → Run (Array Keyed)
  | sorted, [] => return sorted
  | sorted, x :: xs => do
      let i ← placeIn sorted x (sorted.size + 1) 0 sorted.size
      putAll ((sorted.toList.take i ++ x :: sorted.toList.drop i).toArray) xs

/-- Two lists in order as one.  `fuel` bounds the number of values. -/
def mergeKeyed : (fuel : Nat) → List Keyed → List Keyed → Run (List Keyed)
  | 0, xs, ys => return xs ++ ys
  | _, [], ys => return ys
  | _, xs, [] => return xs
  | fuel + 1, x :: xs, y :: ys => do
      if ← y.precedes x then return y :: (← mergeKeyed fuel (x :: xs) ys)
      return x :: (← mergeKeyed fuel xs (y :: ys))

/-- The number of values from which on a list is long. -/
def longList : Nat := 64

/-- Values in order.  `fuel` bounds how often they are cut in two. -/
def sortKeyed : (fuel : Nat) → List Keyed → Run (List Keyed)
  | 0, xs => return xs
  | fuel + 1, xs => do
      if xs.length < longList then
        let (run, rest) ← firstRun xs
        return (← putAll run.toArray rest).toList
      let half := xs.length / 2
      let first ← sortKeyed fuel (xs.take half)
      let second ← sortKeyed fuel (xs.drop half)
      mergeKeyed xs.length first second

/-- Values in the order of their keys, or against it. -/
def sortBy (against : Bool) (xs : List Keyed) : Run (List Value) := do
  let order := fun (xs : List Keyed) => if against then xs.reverse else xs
  return (order (← sortKeyed 64 (order xs))).map (·.value)

end Redline.Form
