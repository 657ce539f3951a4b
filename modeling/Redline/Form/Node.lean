import Redline.Form.Expr

/-!
# Parts of a form

A form is a list of parts.  Texts and slots that follow one another are one
part, and every tag is one.  A tag either stands for itself or opens a part that
goes on to its closing tag.  A reader of parts knows which tags are open, and a
tag that does not fit is reported with what was looked for.
-/

namespace Redline.Form

/-- A text or a slot. -/
inductive Piece where
  | data (t : Text)
  | value (e : Expr)

/-- A part of a form. -/
inductive Node where
  | output (pieces : List Piece)
  /-- The first branch whose condition holds, or else the last one. -/
  | branch (branches : List (Expr × List Node)) (otherwise : List Node)
  /-- A part for every value in another that passes a test, or another part if
  there is none. -/
  | loop (target e : Expr) (test : Option Expr) (recursive : Bool) (body otherwise : List Node)
  | assign (target e : Expr)
  | assignPart (target : Expr) (filters : Option Expr) (body : List Node)
  | naming (targets : List (Expr × Expr)) (body : List Node)
  | filtered (filters : Expr) (body : List Node)
  /-- A part that is written whenever its name is called. -/
  | routine (name : String) (params : List String) (defaults : List Expr) (body : List Node)
  | calling (params : List String) (defaults : List Expr) (call : Expr) (body : List Node)
  /-- A part in which values are escaped or not. -/
  | escaping (e : Expr) (body : List Node)
  | block (name : String) (inScope required : Bool) (body : List Node)
  /-- Another form in whose place this one stands. -/
  | parent (e : Expr)
  /-- Another form that is written here. -/
  | insertion (e : Expr) (optional : Bool)
  /-- A name for another form. -/
  | borrow (e : Expr) (target : String)
  /-- Names for parts of another form. -/
  | borrowNames (e : Expr) (targets : List String)
deriving Inhabited

/-- The tags that are open around a part. -/
structure Open where
  tags : List String
  /-- The tags that are looked for, the innermost first. -/
  endings : List (List String)

/-- Names between quotes, any of which will do. -/
def anyOf (names : List String) : String := String.intercalate " or " (names.map inMarks)

/-- Fails because a tag, or the end, does not fit. -/
def misplaced {α : Type} (tag : Option String) (around : Open) : Reader α :=
  let first := match tag with
    | none => "Unexpected end of template."
    | some s => s!"Encountered unknown tag {inMarks s}."
  let second := match tag, around.endings with
    | _, [] => []
    | tag, wanted :: _ =>
        if tag.any fun s => around.endings.any fun names => names.contains s then
          ["You probably made a nesting mistake. Jinja is expecting this tag, but currently looking for "
            ++ anyOf wanted ++ "."]
        else [s!"Jinja was looking for the following tags: {anyOf wanted}."]
  let third := around.tags.head?.toList.map fun s =>
    s!"The innermost block that needs to be closed is {inMarks s}."
  fail (String.intercalate " " (first :: second ++ third))

/-! ## What a value is assigned to -/

/-- The kind of an expression, for one that nothing can be assigned to. -/
def kindName : Expr → String
  | .const _ => "const"
  | .name _ | .slot .. => "name"
  | .tuple _ => "tuple"
  | .list _ => "list"
  | .record _ => "dict"
  | .member .. => "getattr"
  | .item .. => "getitem"
  | .span .. => "slice"
  | .call .. => "call"
  | .filter .. | .written => "filter"
  | .test .. => "test"
  | .opposite _ => "not"
  | .signed minus _ => if minus then "neg" else "pos"
  | .operation .add .. => "add"
  | .operation .sub .. => "sub"
  | .operation .mul .. => "mul"
  | .operation .div .. => "div"
  | .operation .floorDiv .. => "floordiv"
  | .operation .mod .. => "mod"
  | .operation .pow .. => "pow"
  | .joined .. => "concat"
  | .comparison .. => "compare"
  | .both .. => "and"
  | .either .. => "or"
  | .choice .. => "condexpr"

mutual

/-- Whether something can be assigned to an expression. -/
def isTarget : Expr → Bool
  | .name _ => true
  | .tuple items => areTargets items
  | _ => false

/-- Whether something can be assigned to each of some expressions. -/
def areTargets : List Expr → Bool
  | [] => true
  | e :: es => isTarget e && areTargets es

end

def readTarget (fuel : Nat) (words : List String) : Reader Expr := do
  let e ← readRow fuel false words (readPrimary fuel)
  if isTarget e then return e
  fail s!"can't assign to {inMarks (kindName e)}"

/-- Reads what a value is assigned to, which may be the member of a name. -/
def readTargetOrMember (fuel : Nat) : Reader Expr := do
  if (← following) = some (.sign ".") then
    let s ← expectName
    advance
    return .member (.name s) (← expectName)
  readTarget fuel []

/-- Reads a name that a value is assigned to. -/
def readNewName : Reader String := do
  let s ← expectName
  if (wordValues.lookup s).isSome then fail ("can't assign to " ++ inMarks "name")
  return s

/-! ## Parts of tags -/

/-- Reads a row without conditions. -/
def readPlainRow (fuel : Nat) (words : List String) : Reader Expr :=
  readRow fuel false words (readLevel fuel .either)

/-- Reads filters that are used on a text to come. -/
def readFilterChain : (fuel : Nat) → Expr → Reader Expr
  | 0, _ => exhausted
  | fuel + 1, e => do
      unless ← skip (.sign "|") do return e
      readFilterChain fuel (← readFilter fuel e)

def readPrinted : (fuel : Nat) → (first : Bool) → Reader (List Piece)
  | 0, _ => exhausted
  | fuel + 1, first => do
      if (← current) = some .tagEnd then return []
      unless first do
        expect (.sign ",")
      let e ← readExpr fuel
      return .value e :: (← readPrinted fuel false)

/-- Reads the names of a part with their values. -/
def readNaming : (fuel : Nat) → (first : Bool) → Reader (List (Expr × Expr))
  | 0, _ => exhausted
  | fuel + 1, first => do
      if (← current) = some .tagEnd then return []
      unless first do
        expect (.sign ",")
      let target ← readTarget fuel []
      expect (.sign "=")
      let e ← readExpr fuel
      return (target, e) :: (← readNaming fuel false)

/-- Reads parameters until the bracket closes, behind others: their names, and the
values of the last of them. -/
def readParams : (fuel : Nat) → (names : List String) → (defaults : List Expr) →
    Reader (List String × List Expr)
  | 0, _, _ => exhausted
  | fuel + 1, names, defaults => do
      if ← skip (.sign ")") then return (names, defaults)
      unless names.isEmpty do
        expect (.sign ",")
      let s ← readNewName
      if ← skip (.sign "=") then
        let e ← readExpr fuel
        readParams fuel (names ++ [s]) (defaults ++ [e])
      else
        unless defaults.isEmpty do
          fail "non-default argument follows default argument"
        readParams fuel (names ++ [s]) defaults

/-- Takes a word and another one behind it if both are next, and says whether they
were. -/
def skipWords (first second : String) : Reader Bool := do
  if (← current) = some (.name first) then
    if (← following) = some (.name second) then
      advance
      advance
      return true
  return false

/-- Takes the words that say whether another form sees the names of this one. -/
def skipContext : Reader Bool := do
  if ← skipWords "with" "context" then return true
  skipWords "without" "context"

/-- Reads the names that are taken from another form, and gives those that they
get here. -/
def readBorrowed : (fuel : Nat) → (first : Bool) → Reader (List String)
  | 0, _ => exhausted
  | fuel + 1, first => do
      unless first do
        expect (.sign ",")
      match ← current with
      | some (.name _) =>
          if ← skipContext then return []
          let s ← readNewName
          if s.startsWith "_" then
            throw (.inForm .rule "names starting with an underline can not be imported")
          let target ← if ← skip (.name "as") then readNewName else pure s
          if ← skipContext then return [target]
          unless (← current) = some (.sign ",") do return [target]
          return target :: (← readBorrowed fuel false)
      | _ => unexpected "name"

/-- Takes the next token, which is the name of a tag. -/
def takeTag : Reader String := do
  match ← current with
  | some (.name s) =>
      advance
      return s
  | _ => fail "tag name expected"

/-- Whether a part holds white space only. -/
def Node.isBlank : Node → Bool
  | .output pieces => pieces.all fun p => match p with
      | .data t => Text.allBlank t
      | .value _ => false
  | _ => false

/-- Texts and slots as one part, if there are any. -/
def outputOf (pieces : List Piece) : List Node := if pieces.isEmpty then [] else [.output pieces]

mutual

/-- Reads parts up to one of the tags that are looked for, or to the end, behind
texts and slots. -/
def readNodes : (fuel : Nat) → Open → (pieces : List Piece) → Reader (List Node)
  | 0, _, _ => exhausted
  | fuel + 1, around, pieces => do
      match ← current with
      | none => return outputOf pieces
      | some (.data t) =>
          advance
          readNodes fuel around (pieces ++ [.data t])
      | some .slotBegin =>
          advance
          let e ← readRow fuel false [] (readExpr fuel)
          expect .slotEnd
          readNodes fuel around (pieces ++ [.value e])
      | _ =>
          advance
          match ← current, around.endings with
          | some (.name s), wanted :: _ =>
              if wanted.contains s then return outputOf pieces
              return outputOf pieces ++ (← readTagged fuel around)
          | _, _ => return outputOf pieces ++ (← readTagged fuel around)

def readTagged : (fuel : Nat) → Open → Reader (List Node)
  | 0, _ => exhausted
  | fuel + 1, around => do
      let node ← readTag fuel around
      expect .tagEnd
      return node :: (← readNodes fuel around [])

/-- Reads the parts inside a tag, up to one of the tags that end them. -/
def readBody : (fuel : Nat) → Open → (wanted : List String) → Reader (List Node)
  | 0, _, _ => exhausted
  | fuel + 1, around, wanted => do
      let _ ← skip (.sign ":")
      expect .tagEnd
      let nodes ← readNodes fuel ⟨around.tags, wanted :: around.endings⟩ []
      if (← current).isNone then misplaced none ⟨around.tags, wanted :: around.endings⟩
      return nodes

/-- Reads the parts inside a tag and the tag that ends them. -/
def readWholeBody : (fuel : Nat) → Open → (ending : String) → Reader (List Node)
  | 0, _, _ => exhausted
  | fuel + 1, around, ending => do
      let nodes ← readBody fuel around [ending]
      advance
      return nodes

def readTag : (fuel : Nat) → Open → Reader Node
  | 0, _ => exhausted
  | fuel + 1, around => do
      let tag ← match ← current with
        | some (.name s) => pure s
        | _ => fail "tag name expected"
      let inside : Open := ⟨tag :: around.tags, around.endings⟩
      match tag with
      | "if" =>
          advance
          let (branches, otherwise) ← readBranches fuel inside
          return .branch branches otherwise
      | "for" =>
          advance
          let target ← readTarget fuel ["in"]
          expect (.name "in")
          let e ← readPlainRow fuel ["recursive"]
          let test ← if ← skip (.name "if") then some <$> readExpr fuel else pure none
          let recursive ← skip (.name "recursive")
          let body ← readBody fuel inside ["endfor", "else"]
          if (← takeTag) = "endfor" then return .loop target e test recursive body []
          return .loop target e test recursive body (← readWholeBody fuel inside "endfor")
      | "set" =>
          advance
          let target ← readTargetOrMember fuel
          if ← skip (.sign "=") then return .assign target (← readRow fuel false [] (readExpr fuel))
          let filters ←
            if (← current) = some (.sign "|") then some <$> readFilterChain fuel .written else pure none
          return .assignPart target filters (← readWholeBody fuel inside "endset")
      | "print" =>
          advance
          return .output (← readPrinted fuel true)
      | "with" =>
          advance
          let targets ← readNaming fuel true
          return .naming targets (← readWholeBody fuel inside "endwith")
      | "filter" =>
          advance
          let filters ← readFilterChain fuel (← readFilter fuel .written)
          return .filtered filters (← readWholeBody fuel inside "endfilter")
      | "autoescape" =>
          advance
          let e ← readExpr fuel
          return .escaping e (← readWholeBody fuel inside "endautoescape")
      | "macro" =>
          advance
          let name ← readNewName
          expect (.sign "(")
          let (params, defaults) ← readParams fuel [] []
          return .routine name params defaults (← readWholeBody fuel inside "endmacro")
      | "call" =>
          advance
          let (params, defaults) ←
            if ← skip (.sign "(") then readParams fuel [] [] else pure ([], [])
          match ← readExpr fuel with
          | .call e args =>
              return .calling params defaults (.call e args) (← readWholeBody fuel inside "endcall")
          | _ => fail "expected call"
      | "block" =>
          advance
          let name ← expectName
          let inScope ← skip (.name "scoped")
          let required ← skip (.name "required")
          if (← current) = some (.sign "-") then
            fail ("Block names in Jinja have to be valid Python identifiers and may not contain hyphens, "
              ++ "use an underscore instead.")
          let body ← readWholeBody fuel inside "endblock"
          if required && !body.all Node.isBlank then
            fail "Required blocks can only contain comments or whitespace"
          let _ ← skip (.name name)
          return .block name inScope required body
      | "extends" =>
          advance
          return .parent (← readExpr fuel)
      | "include" =>
          advance
          let e ← readExpr fuel
          let optional ← skipWords "ignore" "missing"
          let _ ← skipContext
          return .insertion e optional
      | "import" =>
          advance
          let e ← readExpr fuel
          expect (.name "as")
          let target ← readNewName
          let _ ← skipContext
          return .borrow e target
      | "from" =>
          advance
          let e ← readExpr fuel
          expect (.name "import")
          return .borrowNames e (← readBorrowed fuel true)
      | tag => misplaced (some tag) around

def readBranches : (fuel : Nat) → Open → Reader (List (Expr × List Node) × List Node)
  | 0, _ => exhausted
  | fuel + 1, inside => do
      let condition ← readPlainRow fuel []
      let body ← readBody fuel inside ["elif", "else", "endif"]
      match ← takeTag with
      | "elif" =>
          let (branches, otherwise) ← readBranches fuel inside
          return ((condition, body) :: branches, otherwise)
      | "else" => return ([(condition, body)], ← readWholeBody fuel inside "endif")
      | _ => return ([(condition, body)], [])

end

/-! ## Forms -/

/-- The number of steps of reading that one token can take. -/
def stepsPerToken : Nat := 20

def nodesOf (form : Text) : Except Fault (List Node) := do
  let source := Token.sourceOf form
  let tokens ← readable (Token.ofSource source)
  let fuel := stepsPerToken * (tokens.length + 2)
  return (← (readNodes fuel ⟨[], []⟩ []).run ⟨tokens, source.count '\n'⟩).1

end Redline.Form
