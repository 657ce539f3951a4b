import Redline.Forge.Pull
import Redline.Comment

/-!
# Comments that are settled

A comment is settled if a reader rejected it, if its line is gone, or if a
reply says that it was carried out.  `unresolved` gives the comments that are
not.  `resolve` marks comments as carried out, in the first way that works.
-/

namespace Redline.Pull

open Session

/-! ## Which are settled -/

def rejection : Json := .str "-1"

def settlingReply : Text := "✅ This suggestion has been implemented".toList

/-- Whether one of some comments settles the comment of a number.  A reply
that is no text ends the search. -/
def settledBy (id : Json) : List Forge.Remark → Bool
  | [] => false
  | r :: rs =>
      if r.replyTo == id then
        match r.body with
        | .str body => if Text.strip body.toList == settlingReply then true else settledBy id rs
        | _ => false
      else settledBy id rs

def reactionsTo (r : Forge.Remark) : Session (List Json) := do
  send (.reactions r.id)
  match r.reactions with
  | some rs => return rs
  | none => throw (.outage "no reactions")

/-- All comments on lines of a pull request that is open. -/
def remarks : Session (List Forge.Remark) := do
  send .remarks
  return (← forge).remarks

/-- Whether a comment is settled.  It is not if that cannot be found out. -/
def isSettled (r : Forge.Remark) : Session Bool :=
  recover false do
    let reactions ← reactionsTo r
    if reactions.contains rejection || r.outdated then return true
    else return settledBy r.id (← remarks)

/-! ## How they are read -/

/-- The kind of remark that a text without a heading is. -/
def defaultCategory : String := "General"

/-- Whether a character is dropped around a heading. -/
def isHeadingMark (c : Char) : Bool := c = '#' || c = ' '

/-- The kind of remark that a heading names: the part before the first dash. -/
def headingCategory (line : Text) : Text :=
  (Text.splitOn (Text.trim line isHeadingMark) " - ".toList).headD []

def categoryOf : Text → String
  | '#' :: t => String.ofList (headingCategory ((Text.lines ('#' :: t)).headD []))
  | _ => defaultCategory

/-- The kind of remark that a body is.  One that says something has to be a
text. -/
def categoryIn (body : Json) : Except Fault String :=
  if body.truthy then do return categoryOf (← body.textWith "startswith").toList else .ok defaultCategory

def toComment (r : Forge.Remark) : Except Fault Comment := do
  return { id := r.id, path := r.path, line := r.line, body := r.body, category := ← categoryIn r.body }

/-- Those of some comments that are not settled. -/
def unsettled : List Forge.Remark → Session (List Comment)
  | [] => pure []
  | r :: rs => do
      if ← isSettled r then unsettled rs
      else
        let c ← lift (toComment r)
        return c :: (← unsettled rs)

/-- The comments of a pull request that are not settled. -/
def unresolved (c : PullContext) : Session (List Comment) := do
  Pull.open c
  unsettled (← remarks)

/-! ## Marking -/

/-- The text of the reply that marks a comment. -/
def markingReply : String := "✅ This suggestion has been implemented."

/-- The ways of marking, in the order in which they are tried. -/
def ways : List Forge.Mark := [.resolve, .thread, .reply, .createReply]

/-- Whether a way of marking a comment is offered, and whether it works. -/
def offers (f : Forge) (r : Forge.Remark) : Forge.Mark → Option Bool
  | .thread => f.threadReply
  | way => r.marks.lookup way

/-- Marks a comment in a way that may be missing, and tells whether it is
marked. -/
def markBy (r : Forge.Remark) (way : Forge.Mark) : Session Bool := do
  match offers (← forge) r way with
  | none => return false
  | some works => recover false do
      send (.mark way r.id markingReply)
      if works then return true else throw (.outage "failed")

/-- Marks a comment in the first of some ways that works. -/
def markFirst (r : Forge.Remark) : List Forge.Mark → Session Unit
  | [] => pure ()
  | way :: rest => do
      if ← markBy r way then return else markFirst r rest

def remark (id : Int) : Session Forge.Remark := do
  send (.remark id)
  match (← forge).remarks.find? fun r => r.id == .int id with
  | some r => return r
  | none => throw (.outage s!"404 {id}")

/-- Marks the comment of a number, given as a value. -/
def resolveOne (id : Json) : Session Unit :=
  recover () do
    let n ← lift id.toInteger
    markFirst (← remark n) ways

def resolveAll : List Json → Session Unit
  | [] => pure ()
  | id :: ids => do
      resolveOne id
      resolveAll ids

/-- Marks the comments of some numbers as carried out. -/
def resolve (c : PullContext) (ids : List Json) : Session Unit := do
  Pull.open c
  resolveAll ids

/-- The number in a suggestion that is given as a row of a number and a path. -/
def suggestionId (v : Json) : Except Fault Json := do return (← v.unpack 2).headD .null

/-- Marks the comments of some suggestions, up to the first that is malformed. -/
def resolveEach : List Json → Session Unit
  | [] => pure ()
  | s :: rest => do
      resolveOne (← lift (suggestionId s))
      resolveEach rest

/-- Marks the comments of the suggestions in a value. -/
def resolveGiven (c : PullContext) (suggestions : Json) : Session Unit := do
  Pull.open c
  resolveEach (← lift suggestions.parts)

end Redline.Pull
