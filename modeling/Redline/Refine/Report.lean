import Redline.Comment
import Redline.Number.Decimal
import Redline.Number.Binary64
import Redline.Refine.Answer

/-!
# The report of a run

A run over the files of a pull request ends with a report: which files were
processed, which failed and why, which suggestions were passed over, and what
share of the files succeeded.
-/

namespace Redline.Refine

/-- A suggestion that was passed over, with its file. -/
structure SkippedIn where
  path : Json
  id : Json
  reason : Json

/-- A file that failed, and why. -/
structure Failure where
  path : Json
  reason : Json

/-- The lines about files that were processed. -/
def processedLines (processed : List Json) : List String :=
  if processed.isEmpty then []
  else "### ✅ Successfully Processed\n" :: processed.map (fun p => "- `" ++ p.displayed ++ "`") ++ [""]

def failureLines (failed : List Failure) : List String :=
  if failed.isEmpty then []
  else
    "### ⚠️ Processing Failures\n" :: failed.map (fun f => "- `" ++ f.path.displayed ++ "`: " ++ f.reason.displayed) ++ [""]

/-- The lines about the suggestions of one file that were passed over. -/
def skippedIn (path : Json) (group : List SkippedIn) : List String :=
  ("**In `" ++ path.displayed ++ "`:**")
    :: group.map (fun s => "- Comment ID " ++ s.id.displayed ++ ": " ++ s.reason.displayed) ++ [""]

/-- The lines about suggestions that were passed over, file by file. -/
def skippedLines (skipped : List SkippedIn) : List String :=
  if skipped.isEmpty then []
  else "### ⏩ Skipped Suggestions\n" :: (groupBy (·.path) skipped).flatMap fun g => skippedIn g.1 g.2

/-- The share of a number in a total, in percent with one place. -/
def percent (part total : Nat) : Text :=
  if total = 0 then "0.0".toList
  else ((Number.Magnitude.ofRatio part total).scaleBy 100).fixed 1

def summaryLines (processed total skipped : Nat) : List String :=
  ["### 📊 Summary\n",
   s!"- Processed {processed} out of {total} files (" ++ String.ofList (percent processed total)
     ++ "% success rate)"]
    ++ (if skipped = 0 then [] else [s!"- Skipped {skipped} suggestions"])

def report (processed : List Json) (failed : List Failure) (skipped : List SkippedIn) : String :=
  String.intercalate "\n"
    ("## 🤖 Refinement Agent Processing Report\n"
      :: processedLines processed ++ failureLines failed ++ skippedLines skipped
      ++ summaryLines processed.length (processed.length + failed.length) skipped.length)

/-! ## Reports of values -/

/-- The values in a value that is gone through only if it says something, but
counted in any case. -/
def partsIfAny (v : Json) : Except Fault (List Json) := if v.truthy then v.parts else .ok []

/-- A file that failed, given as a row of its path and the reason. -/
def Failure.ofJson (v : Json) : Except Fault Failure := do
  let vs ← v.unpack 2
  return ⟨vs.getD 0 .null, vs.getD 1 .null⟩

/-- A suggestion that was passed over, given as a row of its id, its path and the
reason. -/
def SkippedIn.ofJson (v : Json) : Except Fault SkippedIn := do
  let vs ← v.unpack 3
  return ⟨← (vs.getD 1 .null).key, vs.getD 0 .null, vs.getD 2 .null⟩

/-- The report of a run that is given by values. -/
def reportOf (processed failed skipped : Json) : Except Fault String := do
  let processedFiles ← partsIfAny processed
  let failures ← (← partsIfAny failed).mapM Failure.ofJson
  let passedOver ← (← partsIfAny skipped).mapM SkippedIn.ofJson
  discard processed.parts
  discard failed.parts
  return report processedFiles failures passedOver

end Redline.Refine
