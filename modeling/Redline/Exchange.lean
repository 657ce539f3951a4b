import Redline.Forge.Pull
import Redline.Refine.Answer
import Redline.Comment

/-!
# Values as JSON

The forms in which values of the library go in and out as JSON.  A reader takes
the default of a field that is missing, and a writer writes every field.
-/

namespace Redline

/-! ## Fields -/

namespace Json

/-- The value in a field, or a default. -/
def getOr (v : Json) (name : String) (default : Json) : Json := (v.get? name).getD default

/-- The text in a field, or a default. -/
def text (v : Json) (name : String) (default : String := "") : String := ((v.getD name).str?).getD default

def chars (v : Json) (name : String) : Text := (v.text name).toList

/-- The text in a field, if there is one. -/
def optText (v : Json) (name : String) : Option String := (v.getD name).str?

/-- The value in a field as a text, if it is not null. -/
def optShown (v : Json) (name : String) : Option String :=
  match v.getD name with
  | .null => none
  | x => some x.displayed

/-- The characters in a field, if there are some. -/
def optChars (v : Json) (name : String) : Option Text := (v.optText name).map String.toList

/-- The integer in a field, or a default. -/
def num (v : Json) (name : String) (default : Int := 0) : Int := ((v.getD name).count?).getD default

/-- The integer in a field, if there is one. -/
def optNum (v : Json) (name : String) : Option Int := (v.getD name).count?

def flag (v : Json) (name : String) : Bool := (v.getD name).truthy

def list (v : Json) (name : String) : List Json := (v.getD name).items

def has (v : Json) (name : String) : Bool := (v.get? name).isSome

def strings (v : Json) (name : String) : List String := (v.list name).filterMap str?

end Json

open Json (ofOption ofText ofNat ofStrings)

/-! ## Outlines and contexts -/

namespace Outline

def Point.toJson (p : Point) : Json := .arr [ofNat p.row, ofNat p.column]

/-- The fields of a node without its children. -/
def Node.fields (n : Node) : List (String × Json) :=
  [("type", .str n.kind), ("bytes", .arr [ofNat n.start, ofNat n.stop]),
   ("start", n.first.toJson), ("end", n.last.toJson)]

/-- A node without its children. -/
def Node.toJson (n : Node) : Json := .obj n.fields

/-- The parsers that a record of faults describes. -/
def Parsers.ofJson (v : Json) : Parsers :=
  ({ failing := (v.getD "fail").holds, absent := (v.getD "none").holds,
     failAfter := if v.flag "parse_fail" then some 0 else (v.optNum "parse_fail_after").map Int.toNat,
     nothing := v.flag "parse_none", broken := v.flag "broken_tree",
     marker := (v.optChars "error_marker").filter (!·.isEmpty) } : ParserFaults).parsers

end Outline

def siteJson (path : Json) (startLine endLine : Json) (kind : Option String) : Json :=
  .obj [("file_path", path), ("start_line", startLine), ("end_line", endLine), ("node_type", ofOption .str kind)]

def Site.toJson (s : Site) : Json := siteJson (.str s.path) s.startLine s.endLine s.kind

/-- The place that a record describes, if it is one. -/
def Site.ofJson (v : Json) : Option Site :=
  if v.isNull then none else some ⟨"", v.getD "start", v.getD "end", v.optText "type"⟩

def Excerpt.toJson (path : Json) (e : Excerpt) : Json :=
  .obj [("code", ofText e.code),
    ("context", siteJson path (.int e.context.startLine) (.int e.context.endLine) e.context.kind)]

/-! ## Changes -/

namespace ChangedUnit

def toJson (u : ChangedUnit) : Json :=
  .obj [("file_path", .str u.path), ("before_code", u.beforeCode), ("after_code", u.afterCode),
    ("before", ofOption Site.toJson u.before), ("after", ofOption Site.toJson u.after), ("diffs", .arr u.diffs)]

/-- The changed unit that a record describes. -/
def ofJson (v : Json) : ChangedUnit :=
  { path := "", beforeCode := v.getD "before_code", afterCode := v.getD "after_code",
    before := Site.ofJson (v.getD "before"), after := Site.ofJson (v.getD "after"),
    diffs := ((v.getD "diffs").parts).toOption.getD [] }

def Key.toJson (k : Key) : Json :=
  .arr [.str (if k.side = .before then "before" else "after"), k.startLine, k.endLine]

end ChangedUnit

namespace ChangedFile

def toJson (f : ChangedFile) : Json :=
  .obj [("filename", f.name), ("patch", f.patch), ("status", f.status), ("additions", f.additions),
    ("deletions", f.deletions), ("changes", f.changes), ("previous_filename", f.previousName)]

/-- The changed file that a record describes. -/
def ofJson (v : Json) : ChangedFile :=
  { name := v.getD "filename", patch := v.getD "patch", status := v.getOr "status" (.str "modified"),
    additions := v.getOr "additions" (.int 0), deletions := v.getOr "deletions" (.int 0),
    changes := v.getOr "changes" (.int 0), previousName := v.getD "previous_filename" }

end ChangedFile

def FormatterSetup.ofJson (v : Json) : FormatterSetup :=
  if v.isNull then {}
  else
    { program := some { output := v.optChars "output",
                        exitCode := v.getOr "returncode" (.int 0), canStore := !v.flag "no_temp" }
      registered := (v.getD "registered").fields.map fun (language, r) =>
        (language, match r with
          | .str t => .gives t.toList
          | .null => .givesNothing
          | r => .fails (r.getD "raise").displayed) }

def Formatter.ofJson (v : Json) : Formatter := (FormatterSetup.ofJson v).formatter

/-! ## Comments -/

namespace Comment

def toJson (c : Comment) : Json :=
  .obj [("id", c.id), ("path", c.path), ("line", c.line), ("column", .int c.column), ("body", c.body),
    ("category", .str c.category)]

def ofJson (v : Json) : Comment :=
  { id := v.getD "id", path := v.getOr "path" (.str "f.py"), line := v.getD "line", body := v.getOr "body" (.str "") }

end Comment

/-! ## The hosting site -/

namespace Forge

def Entry.ofJson? : Json → Option Entry
  | .null => none
  | .str t => some (.text t.toList)
  | v =>
      some (if v.has "bytes" then .bytes ((v.list "bytes").map fun b => UInt8.ofNat (b.int?.getD 0).toNat)
        else .folder)

/-- The comment on a line that a record describes. -/
def Remark.ofJson (v : Json) : Remark :=
  let mark := fun (name, way) => (v.get? name).map fun r => ((way : Mark), r.str? == some "ok")
  { id := v.getD "id", body := v.getOr "body" (.str ""), path := v.getOr "path" (.str "f.py"),
    line := v.getOr "line" (.int 1), outdated := v.has "position" && (v.getD "position").isNull,
    replyTo := v.getD "in_reply_to_id",
    reactions := if v.has "reactions" && (v.getD "reactions").isNull then none else some (v.list "reactions"),
    marks := [("resolve", .resolve), ("reply", .reply), ("create_reply", .createReply)].filterMap mark }

end Forge

def PullContext.ofJson (v : Json) : PullContext := ⟨v.getD "repo", v.getD "pr_number", v.getD "installation_id"⟩

end Redline
