import Redline.Text.Lines
import Redline.Fault

/-!
# Templates

A template is a text with names between braces.  Filling it replaces one name
after the other, in the order of the given values, everywhere it stands.  A
value that holds a name of a later value is therefore changed by it.
-/

namespace Redline

def textOfLines (ls : List String) : Text := Text.unlines (ls.map String.toList)

/-- A text with names between braces. -/
structure Template where
  names : List String := []
  text : Text

namespace Template

def token (name : String) : Text := '\x7b' :: name.toList ++ ['\x7d']

def fillOne (t : Text) (value : String × Text) : Text := t.replaceAll (token value.1) value.2

/-- The text of a template with the values put in, one after the other. -/
def fill (t : Template) (values : List (String × Text)) : Text := values.foldl fillOne t.text

/-- The text of a template with the values put in.  The name of the template
itself cannot be given. -/
def format (t : Template) (values : List (String × Text)) : Except Fault Text :=
  if (values.lookup "self").isSome then .error .wrongSort else .ok (t.fill values)

end Template

end Redline
