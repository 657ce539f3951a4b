import Redline.Outline.Build

/-!
# Remembered outlines

Building an outline twice is avoided by a cache that all parsers share.  Its
key is the language and the text.  When it has grown past its limit it is
emptied before the next entry, so it never holds more than one entry over the
limit.
-/

namespace Redline.Outline

/-- A text to parse, as characters or as UTF-8 bytes. -/
inductive Source where
  | text (t : Text)
  /-- Bytes in UTF-8. -/
  | utf8 (bytes : ByteArray)

/-- The characters of a source, if its bytes are UTF-8. -/
def Source.decode? : Source → Option Text
  | .text t => some t
  | .utf8 bytes => (String.fromUTF8? bytes).map String.toList

/-- A parser: the language it reads. -/
structure Parser where
  language : String := "python"
deriving DecidableEq, Repr

instance : Inhabited Parser := ⟨{}⟩

/-- The parser with another language.  Without one it stays as it is. -/
def Parser.setLanguage (p : Parser) : Option String → Parser
  | some language => ⟨language⟩
  | none => p

/-- The outlines built so far, by language and text. -/
structure Cache where
  entries : List ((String × Text) × Node) := []
deriving Inhabited

namespace Cache

/-- The number of entries that do not yet lead to an emptying. -/
def limit : Nat := 512

/-- The outline remembered for a language and a text. -/
def find? (c : Cache) (key : String × Text) : Option Node :=
  (c.entries.find? fun e => e.1 == key).map (·.2)

def size (c : Cache) : Nat := c.entries.length

/-- The cache with one more entry, emptied before if it has grown too large. -/
def insert (c : Cache) (key : String × Text) (root : Node) : Cache :=
  if limit < c.size then ⟨[(key, root)]⟩ else ⟨(key, root) :: c.entries⟩

/-- The outline of a text, remembered or built, and the cache afterwards. -/
def parse (c : Cache) (p : Parser) (t : Text) : Node × Cache :=
  let key := (p.language, t)
  match c.find? key with
  | some root => (root, c)
  | none =>
      let root := build p.language t
      (root, c.insert key root)

/-- The outline of a source, if it can be decoded.  An earlier outline of the text may be
given, and makes no difference. -/
def parseSource (c : Cache) (p : Parser) (s : Source) (_earlier : Option Node := none) : Option (Node × Cache) :=
  s.decode?.map (c.parse p)

end Cache

end Redline.Outline
