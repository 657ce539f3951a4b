import Redline.Text.Case

/-!
# The language of a file

A file's language is told by the extension of its name, without regard to case.
The extension starts at the last dot of the file name.  Dots at the start of
the name do not count.
-/

namespace Redline.Outline

def fileName (path : Text) : Text := (path.reverse.takeWhile (· ≠ '/')).reverse

/-- The extension of a path with its dot, or nothing. -/
def extension (path : Text) : Text :=
  let name := (fileName path).dropWhile (· = '.')
  if name.any (· = '.') then '.' :: (name.reverse.takeWhile (· ≠ '.')).reverse else []

def languages : List (String × String) :=
  [(".py", "python"), (".js", "javascript"), (".jsx", "javascript"), (".ts", "typescript"),
   (".tsx", "typescript"), (".java", "java"), (".c", "c"), (".cpp", "cpp"), (".h", "c"),
   (".hpp", "cpp"), (".go", "go"), (".rb", "ruby"), (".rs", "rust"), (".php", "php"),
   (".cs", "c_sharp"), (".swift", "swift"), (".kt", "kotlin"), (".scala", "scala"),
   (".html", "html"), (".json", "json"), (".md", "markdown")]

def languageOf? (path : String) : Option String :=
  languages.lookup (String.ofList (extension (Text.lower path.toList)))

end Redline.Outline
