import Redline.Outline.Cache
import Redline.Diff.ChangedUnit
import Redline.Patch.Apply
import Redline.Patch.Validate
import Redline.Template

/-!
# Files that are told from outside

A path, a text or the name of a language comes from outside and may be any value.
It should be a text.  Here stands what each operation makes of a value that is
none: some refuse it, and some count it as absent.
-/

namespace Redline.Given

open Outline

/-! ## Languages and outlines -/

def languageOf? (path : Json) : Except Fault (Option String) :=
  (path.textWith "lower").map Outline.languageOf?

/-- The name of a language.  One that is no text goes by how it is written, and
names no language that is known. -/
def languageName (language : Json) : Except Fault String :=
  language.key.map fun language => String.ofList language.display

/-- The tree of a text.  What is no text cannot be parsed. -/
def parse? (language text : Json) : Reading (Option Tree) := do
  let language ← lift (languageName language)
  match text with
  | .str t => Outline.parse? language t.toList
  | _ => return none

/-- Parsers whose every parse fails, since what they are given is no text. -/
def withoutText (p : Parsers) : Parsers :=
  { p with outcome := fun _ _ _ => .failed "encoding without a string argument" }

/-- The parser of a list of at most one language. -/
def parserOf (languages : Json) : Except Fault Json := do
  match ← languages.parts with
  | [] => return .str ({} : Parser).language
  | [language] => return language
  | _ => throw .wrongSort

/-! ## Contexts -/

def extract (path content line : Json) : Reading (Option Excerpt) := do
  let path ← lift (path.textWith "lower")
  let content ← lift (content.textWith "splitlines")
  Context.extract path content.toList line

/-- What is known about a file.  Its content is looked at only if its language has
imports. -/
def fileContext (path content : Json) : Except Fault Context.FileContext :=
  match path with
  | .str path =>
      if ((Outline.languageOf? path).map Context.importWords).getD [] = [] then
        .ok (Context.ofFile path [])
      else (content.textWith "splitlines").map fun t => Context.ofFile path t.toList
  | _ => .error .wrongSort

/-! ## Diffs -/

def text (v : Json) : Except Fault Text :=
  match v with
  | .str s => .ok s.toList
  | _ => .error .wrongSort

/-- The text that a value is, and nothing if it is none. -/
def text? (v : Json) : Option Text := v.str?.map String.toList

def lineNumbers (header : Json) : Except Fault (Option (Nat × Nat)) := do
  Diff.lineNumbers (← text header)

def change (patch header : Json) : Except Fault Diff.Change := do
  let patch ← patch.textWith "find"
  Diff.change patch.toList (← text header)

def unitOfHeader (header path before after : Json) : Reading (Option ChangedUnit) :=
  match header, path with
  | .str header, .str path => Diff.unitOfHeader header.toList path (text? before) (text? after)
  | _, _ => pure none

def collect (patch path before after : Json) : Reading (List ChangedUnit) :=
  match patch, path with
  | .str patch, .str path => Diff.collect patch.toList path (text? before) (text? after)
  | _, _ => pure []

/-! ## Templates -/

/-- The name of a value for a template.  It has to be a text. -/
def valueName : Json → Except Fault String
  | .str name => .ok name
  | _ => .error .wrongSort

/-- A template with the values put in.  One that is no text stays as it is if it holds
none of their names. -/
def fill (template : Json) (values : List (String × Text)) : Except Fault Json :=
  match template with
  | .str t => (Template.format ⟨[], t.toList⟩ values).map Json.ofText
  | v =>
      if values.isEmpty then .ok v
      else if (values.lookup "self").isSome || v.parts.toOption.isNone then .error .wrongSort
      else if values.any fun value => v.holds (String.ofList (Template.token value.1)) then
        .error (.noMember v.sortName "replace")
      else .ok v

/-- The names of a template, none if they say nothing. -/
def names (v : Json) : Except Fault (List Json) := if v.truthy then v.parts else .ok []

/-! ## Patchers -/

/-- The text that a formatter gives.  A program cannot format what is no text, and
registered formatters do not look at it. -/
def format (setup : FormatterSetup) (language code : Json) : Except Fault (Option Text) := do
  match ← language.key, code with
  | .str language, .str code => setup.formatter language code.toList
  | .str language, _ => if setup.registered.isEmpty then return none else setup.formatter language []
  | _, _ => return none

/-- The first node whose text is the given one, if there is a tree to look in. -/
def findByText (p : Patcher) (t : Json) : Except Fault (Option Node) :=
  if p.tree.isNone then .ok none
  else do p.findByText (← t.textWith "strip").toList

/-- A file being changed whose content may be any value. -/
structure File where
  /-- The patcher.  Its text is empty if the content is none. -/
  patcher : Patcher
  /-- The content, if it is no text. -/
  raw : Option Json := none

def File.open (path content : Json) : Reading File := do
  let path ← lift (path.textWith "lower")
  match content with
  | .str t => return { patcher := ← Patcher.open path t.toList }
  | v => return { patcher := ⟨path, Outline.languageOf? path, [], none, []⟩, raw := some v }

def File.content (f : File) : Json := f.raw.getD (.ofText f.patcher.content)

/-- The parsers as the content of a file lets them be. -/
def File.parsers (f : File) (p : Parsers) : Parsers := if f.raw.isSome then withoutText p else p

def File.pointOf (f : File) (position : Json) : Except Fault Point :=
  match f.raw with
  | none => f.patcher.pointOf position
  | some (.arr _) => do
      if !position.isNull then discard position.count
      throw (.noMember "list" "split")
  | some _ => .error .wrongSort

/-- Applies all registered modifications and formats the file. -/
def File.applyAll (f : File) (formatter : Formatter) : Reading (PatchResult × Patcher) :=
  match f.raw, f.patcher.modifications with
  | some v, [] => do
      let result ← lift (PatchResult.model.ofJson (.obj [("success", .bool true), ("modified_content", v)]))
      return (result, f.patcher)
  | _, _ => f.patcher.applyAll formatter

/-- Moves the spans of all modifications after an edit.  The ends of the edit have to
be numbers; its start is looked at only by a modification that does not begin behind
the edit. -/
def shift (p : Patcher) (start oldStop newStop : Json) : Except Fault Unit × Patcher :=
  match start.count?, oldStop.count?, newStop.count? with
  | some start, some oldStop, some newStop =>
      (.ok (), { p with modifications := p.modifications.map (Modification.afterEdit start oldStop newStop) })
  | none, some oldStop, some newStop =>
      let moved := p.modifications.takeWhile fun m => decide (oldStop < m.start)
      let rest := p.modifications.drop moved.length
      (if rest.isEmpty then .ok () else .error .wrongSort,
        { p with modifications := moved.map (Modification.afterEdit oldStop oldStop newStop) ++ rest })
  | _, _, _ => (.error .wrongSort, p)

end Redline.Given
