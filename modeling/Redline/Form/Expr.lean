import Redline.Form.Token

/-!
# Expressions of a form

An expression is read from tokens, one level of binding at a time.  The levels
stand in `Level`, the loosest first.  A choice (`a if b else c`) is looser than
all of them, and a filter (`a | f`) belongs to the operand before it.

A reader takes one token after the other and fails at the first that does not
fit.  Reading ends because every level passes on less fuel than it got, and a
form of `n` tokens needs no more than a fixed multiple of `n`.
-/

namespace Redline.Form

open Number (Binary64)

/-! ## Expressions -/

/-- A value that is written in a form, or computed when it is planned. -/
inductive Literal where
  | null
  | bool (b : Bool)
  | int (n : Int)
  | float (x : Binary64)
  | text (t : Text)
  | markup (t : Text)
  | tuple (items : List Literal)
  | list (items : List Literal)
  | record (fields : List (Literal × Literal))
deriving Inhabited

/-- What is done with two operands. -/
inductive Operator where
  | add
  | sub
  | mul
  | div
  | floorDiv
  | mod
  | pow
deriving DecidableEq, Repr

/-- How two operands are compared. -/
inductive Comparator where
  | eq
  | ne
  | lt
  | le
  | gt
  | ge
  | isIn
  | notIn
deriving DecidableEq, Repr

mutual

/-- An expression. -/
inductive Expr where
  | const (v : Literal)
  | name (s : String)
  /-- A name, at the level of the frame that it belongs to. -/
  | slot (level : Nat) (s : String)
  | tuple (items : List Expr)
  | list (items : List Expr)
  | record (fields : List (Expr × Expr))
  | member (e : Expr) (name : String)
  | item (e key : Expr)
  /-- The bounds of a part of a value, in the place of a key. -/
  | span (start stop step : Option Expr)
  | call (e : Expr) (args : List Arg)
  | filter (e : Expr) (name : String) (args : List Arg)
  | test (e : Expr) (name : String) (args : List Arg)
  /-- What has been written so far, which a filter is used on. -/
  | written
  | opposite (e : Expr)
  /-- A plus or a minus before a number. -/
  | signed (minus : Bool) (e : Expr)
  | operation (op : Operator) (a b : Expr)
  /-- Operands whose texts are put together, escaped if one of them is. -/
  | joined (items : List Expr) (escaping : Bool)
  /-- An operand compared with others. -/
  | comparison (e : Expr) (others : List (Comparator × Expr))
  /-- The first operand if it says nothing, and else the second. -/
  | both (a b : Expr)
  /-- The first operand if it says something, and else the second. -/
  | either (a b : Expr)
  /-- The first operand if the condition holds, and else the second, on a line. -/
  | choice (condition yes : Expr) (no : Option Expr) (line : Nat)

/-- An argument of a call. -/
inductive Arg where
  | placed (e : Expr)
  | named (name : String) (e : Expr)
  | spread (e : Expr)
  | spreadNamed (e : Expr)

end

instance : Inhabited Expr := ⟨.const .null⟩

instance : Inhabited Arg := ⟨.placed default⟩

def Arg.expr : Arg → Expr
  | placed e | named _ e | spread e | spreadNamed e => e

/-- An argument with another expression. -/
def Arg.withExpr (e : Expr) : Arg → Arg
  | placed _ => placed e
  | named s _ => named s e
  | spread _ => spread e
  | spreadNamed _ => spreadNamed e

/-! ## Reading tokens -/

/-- The tokens that are left, and the number of line ends in the whole form. -/
structure Tokens where
  left : List Lexeme
  ends : Nat

/-- A reader of tokens. -/
abbrev Reader := StateT Tokens (Except Fault)

def inMarks (s : String) : String := String.ofList (Text.quoted s.toList)

def fail {α : Type} (reason : String) : Reader α := throw (malformed reason)

/-- The tokens that are left, if the first of them can be read. -/
def readable : List Lexeme → Except Fault (List Lexeme)
  | ⟨.broken fault, _⟩ :: _ => .error fault
  | ts => .ok ts

/-- The token that is next, and nothing at the end. -/
def current : Reader (Option Token) := do return (← get).left.head?.map (·.token)

def textHere : Reader Text := do return ((← get).left.head?.map (·.rest)).getD []

def lineOf (t : Text) : Reader Nat := do return (← get).ends - t.count '\n' + 1

def following : Reader (Option Token) := do
  return (← readable ((← get).left.drop 1)).head?.map (·.token)

def advance : Reader Unit := do
  let s ← get
  set { s with left := ← readable (s.left.drop 1) }

/-- Takes a token if it is the next one, and says whether it was. -/
def skip (t : Token) : Reader Bool := do
  if (← current) = some t then
    advance
    return true
  else return false

/-- Fails because something else was expected. -/
def unexpected {α : Type} (wanted : String) : Reader α := do
  match ← current with
  | none => fail s!"unexpected end of template, expected {inMarks wanted}."
  | t => fail s!"expected token {inMarks wanted}, got {inMarks (Token.describe t)}"

/-- Takes a token that has to be the next one. -/
def expect (t : Token) : Reader Unit := do
  unless ← skip t do unexpected (Token.describe (some t))

def expectName : Reader String := do
  match ← current with
  | some (.name s) =>
      advance
      return s
  | _ => unexpected "name"

/-- Fails because reading took more steps than there are. -/
def exhausted {α : Type} : Reader α := fail "the form nests too deep"

/-! ## Levels -/

/-- How loosely the signs of an expression bind, the loosest first. -/
inductive Level where
  | either
  | both
  | opposite
  | comparison
  | sum
  | joined
  | product
  | power
  | operand
deriving DecidableEq, Repr

def Level.inner : Level → Level
  | either => both
  | both => opposite
  | opposite => comparison
  | comparison => sum
  | sum => joined
  | joined => product
  | product => power
  | power => operand
  | operand => operand

/-- The signs of a level whose operands are put together from the left. -/
def Level.operators : Level → List (String × Operator)
  | sum => [("+", .add), ("-", .sub)]
  | product => [("*", .mul), ("/", .div), ("//", .floorDiv), ("%", .mod)]
  | power => [("**", .pow)]
  | _ => []

def comparators : List (String × Comparator) :=
  [("==", .eq), ("!=", .ne), ("<", .lt), ("<=", .le), (">", .gt), (">=", .ge)]

def wordValues : List (String × Literal) :=
  [("true", .bool true), ("True", .bool true), ("false", .bool false), ("False", .bool false),
   ("none", .null), ("None", .null)]

/-- The texts that follow one another. -/
def moreTexts : (fuel : Nat) → Reader Text
  | 0 => exhausted
  | fuel + 1 => do
      match ← current with
      | some (.string t) =>
          advance
          return t ++ (← moreTexts fuel)
      | _ => return []

def dottedName : (fuel : Nat) → Reader String
  | 0 => exhausted
  | fuel + 1 => do
      let s ← expectName
      if ← skip (.sign ".") then return s ++ "." ++ (← dottedName fuel)
      return s

def endsRow (words : List String) : Option Token → Bool
  | some .slotEnd => true
  | some .tagEnd => true
  | some (.sign s) => s = ")"
  | some (.name s) => words.contains s
  | _ => false

/-- Whether a token can start the argument of a test. -/
def startsArgument : Option Token → Bool
  | some (.name s) => !(["else", "or", "and"].contains s)
  | some (.string _) => true
  | some (.integer _) => true
  | some (.float _) => true
  | some (.sign s) => ["(", "[", "\x7b"].contains s
  | _ => false

/-- Whether an argument may follow others: values in a value come once, values
in a record come once and last, and a value by place comes before all of another
kind. -/
def mayFollow (before : List Arg) : Arg → Bool
  | .placed _ => before.all fun a => match a with
      | .placed _ => true
      | _ => false
  | .named .. | .spreadNamed _ => before.all fun a => match a with
      | .spreadNamed _ => false
      | _ => true
  | .spread _ => before.all fun a => match a with
      | .spread _ | .spreadNamed _ => false
      | _ => true

mutual

def readExpr : (fuel : Nat) → Reader Expr
  | 0 => exhausted
  | fuel + 1 => do
      let start ← textHere
      readChoices fuel start (← readLevel fuel .either)

/-- Reads the conditions behind an expression, which starts a text. -/
def readChoices : (fuel : Nat) → (start : Text) → Expr → Reader Expr
  | 0, _, _ => exhausted
  | fuel + 1, start, e => do
      unless ← skip (.name "if") do return e
      let condition ← readLevel fuel .either
      let no ← if ← skip (.name "else") then some <$> readExpr fuel else pure none
      let line ← lineOf start
      readChoices fuel (← textHere) (.choice condition e no line)

def readLevel : (fuel : Nat) → Level → Reader Expr
  | 0, _ => exhausted
  | fuel + 1, .opposite => do
      if ← skip (.name "not") then return .opposite (← readLevel fuel .opposite)
      readLevel fuel .comparison
  | fuel + 1, .comparison => do
      let e ← readLevel fuel .sum
      let others ← readComparisons fuel
      return if others.isEmpty then e else .comparison e others
  | fuel + 1, .joined => do
      let e ← readLevel fuel .product
      let others ← readJoined fuel
      return if others.isEmpty then e else .joined (e :: others) false
  | fuel + 1, .operand => readOperand fuel true
  | fuel + 1, level => do readMore fuel level (← readLevel fuel level.inner)

/-- Reads the operands of a level behind the first one. -/
def readMore : (fuel : Nat) → Level → Expr → Reader Expr
  | 0, _, _ => exhausted
  | fuel + 1, level, left => do
      match level, ← current with
      | .either, some (.name "or") =>
          advance
          readMore fuel level (.either left (← readLevel fuel level.inner))
      | .both, some (.name "and") =>
          advance
          readMore fuel level (.both left (← readLevel fuel level.inner))
      | level, some (.sign s) =>
          match level.operators.lookup s with
          | some op =>
              advance
              readMore fuel level (.operation op left (← readLevel fuel level.inner))
          | none => return left
      | _, _ => return left

def readComparisons : (fuel : Nat) → Reader (List (Comparator × Expr))
  | 0 => exhausted
  | fuel + 1 => do
      match ← current with
      | some (.sign s) =>
          match comparators.lookup s with
          | some c =>
              advance
              let e ← readLevel fuel .sum
              return (c, e) :: (← readComparisons fuel)
          | none => return []
      | some (.name "in") =>
          advance
          let e ← readLevel fuel .sum
          return (.isIn, e) :: (← readComparisons fuel)
      | some (.name "not") =>
          if (← following) = some (.name "in") then
            advance
            advance
            let e ← readLevel fuel .sum
            return (.notIn, e) :: (← readComparisons fuel)
          else return []
      | _ => return []

/-- Reads the operands whose texts are put together behind the first one. -/
def readJoined : (fuel : Nat) → Reader (List Expr)
  | 0 => exhausted
  | fuel + 1 => do
      unless ← skip (.sign "~") do return []
      let e ← readLevel fuel .product
      return e :: (← readJoined fuel)

/-- Reads an operand, with its filters or without. -/
def readOperand : (fuel : Nat) → (filters : Bool) → Reader Expr
  | 0, _ => exhausted
  | fuel + 1, filters => do
      let e ←
        if ← skip (.sign "-") then Expr.signed true <$> readOperand fuel false
        else if ← skip (.sign "+") then Expr.signed false <$> readOperand fuel false
        else readPrimary fuel
      let e ← readMembers fuel e
      if filters then readFilters fuel e else return e

def readPrimary : (fuel : Nat) → Reader Expr
  | 0 => exhausted
  | fuel + 1 => do
      match ← current with
      | some (.name s) =>
          advance
          return match wordValues.lookup s with
            | some v => .const v
            | none => .name s
      | some (.string t) =>
          advance
          return .const (.text (t ++ (← moreTexts fuel)))
      | some (.integer n) =>
          advance
          return .const (.int n)
      | some (.float x) =>
          advance
          return .const (.float x)
      | some (.sign "(") =>
          advance
          let e ← readRow fuel true [] (readExpr fuel)
          expect (.sign ")")
          return e
      | some (.sign "[") =>
          advance
          let items ← readItems fuel true
          expect (.sign "]")
          return .list items
      | some (.sign "\x7b") =>
          advance
          let fields ← readFields fuel true
          expect (.sign "\x7d")
          return .record fields
      | t => fail s!"unexpected {inMarks (Token.describe t)}"

/-- Reads a row, or the one expression that stands for itself.  In brackets it
may be empty. -/
def readRow : (fuel : Nat) → (inBrackets : Bool) → (words : List String) → Reader Expr → Reader Expr
  | 0, _, _, _ => exhausted
  | fuel + 1, inBrackets, words, part => do
      if endsRow words (← current) then
        if inBrackets then return .tuple []
        fail s!"Expected an expression, got {inMarks (Token.describe (← current))}"
      let e ← part
      if (← current) = some (.sign ",") then return .tuple (e :: (← readRowItems fuel words part))
      return e

/-- Reads the items of a row behind the first one. -/
def readRowItems : (fuel : Nat) → (words : List String) → Reader Expr → Reader (List Expr)
  | 0, _, _ => exhausted
  | fuel + 1, words, part => do
      unless ← skip (.sign ",") do return []
      if endsRow words (← current) then return []
      let e ← part
      return e :: (← readRowItems fuel words part)

def readItems : (fuel : Nat) → (first : Bool) → Reader (List Expr)
  | 0, _ => exhausted
  | fuel + 1, first => do
      if (← current) = some (.sign "]") then return []
      unless first do
        expect (.sign ",")
      if (← current) = some (.sign "]") then return []
      let e ← readExpr fuel
      return e :: (← readItems fuel false)

def readFields : (fuel : Nat) → (first : Bool) → Reader (List (Expr × Expr))
  | 0, _ => exhausted
  | fuel + 1, first => do
      if (← current) = some (.sign "\x7d") then return []
      unless first do
        expect (.sign ",")
      if (← current) = some (.sign "\x7d") then return []
      let k ← readExpr fuel
      expect (.sign ":")
      let e ← readExpr fuel
      return (k, e) :: (← readFields fuel false)

/-- Reads the members, items and calls behind an operand. -/
def readMembers : (fuel : Nat) → Expr → Reader Expr
  | 0, _ => exhausted
  | fuel + 1, e => do
      match ← current with
      | some (.sign ".") =>
          advance
          let t ← current
          advance
          match t with
          | some (.name s) => readMembers fuel (.member e s)
          | some (.integer n) => readMembers fuel (.item e (.const (.int n)))
          | _ => fail "expected name or number"
      | some (.sign "[") =>
          advance
          let keys ← readSubscripts fuel true
          expect (.sign "]")
          match keys with
          | [key] => readMembers fuel (.item e key)
          | keys => readMembers fuel (.item e (.tuple keys))
      | some (.sign "(") => readMembers fuel (.call e (← readArguments fuel))
      | _ => return e

/-- Reads what stands between brackets behind an operand. -/
def readSubscripts : (fuel : Nat) → (first : Bool) → Reader (List Expr)
  | 0, _ => exhausted
  | fuel + 1, first => do
      if (← current) = some (.sign "]") then return []
      unless first do
        expect (.sign ",")
      let key ← readSubscript fuel
      return key :: (← readSubscripts fuel false)

/-- Reads a key or the bounds of a part. -/
def readSubscript : (fuel : Nat) → Reader Expr
  | 0 => exhausted
  | fuel + 1 => do
      let start ← if (← current) = some (.sign ":") then pure none else some <$> readExpr fuel
      match start, ← current with
      | some key, some (.sign ":") => readSpan fuel (some key)
      | none, _ => readSpan fuel none
      | some key, _ => return key

/-- Reads the bounds of a part behind the first one. -/
def readSpan : (fuel : Nat) → Option Expr → Reader Expr
  | 0, _ => exhausted
  | fuel + 1, start => do
      let stop ← readBound fuel
      let step ← if (← current) = some (.sign ":") then readBound fuel else pure none
      return .span start stop step

def readBound : (fuel : Nat) → Reader (Option Expr)
  | 0 => exhausted
  | fuel + 1 => do
      expect (.sign ":")
      match ← current with
      | some (.sign s) =>
          if [":", "]", ","].contains s then return none else return some (← readExpr fuel)
      | _ => return some (← readExpr fuel)

def readArguments : (fuel : Nat) → Reader (List Arg)
  | 0 => exhausted
  | fuel + 1 => do
      expect (.sign "(")
      let args ← readArgumentList fuel []
      expect (.sign ")")
      return args

/-- Reads arguments until the bracket closes, behind others. -/
def readArgumentList : (fuel : Nat) → (before : List Arg) → Reader (List Arg)
  | 0, _ => exhausted
  | fuel + 1, before => do
      if (← current) = some (.sign ")") then return before
      unless before.isEmpty do
        expect (.sign ",")
      if (← current) = some (.sign ")") then return before
      readArgumentList fuel (before ++ [← readArgument fuel before])

/-- Reads one argument, behind others. -/
def readArgument : (fuel : Nat) → (before : List Arg) → Reader Arg
  | 0, _ => exhausted
  | fuel + 1, before => do
      let kind : Expr → Arg ← match ← current with
        | some (.sign "*") => pure Arg.spread
        | some (.sign "**") => pure Arg.spreadNamed
        | some (.name s) =>
            if (← following) = some (.sign "=") then pure (Arg.named s) else pure Arg.placed
        | _ => pure Arg.placed
      unless mayFollow before (kind default) do
        fail "invalid syntax for function call expression"
      match kind default with
      | .placed _ => pure ()
      | .named .. =>
          advance
          advance
      | _ => advance
      return kind (← readExpr fuel)

/-- Reads the filters and tests behind an operand. -/
def readFilters : (fuel : Nat) → Expr → Reader Expr
  | 0, _ => exhausted
  | fuel + 1, e => do
      match ← current with
      | some (.sign "|") =>
          advance
          readFilters fuel (← readFilter fuel e)
      | some (.name "is") =>
          advance
          readFilters fuel (← readTest fuel e)
      | some (.sign "(") => readFilters fuel (.call e (← readArguments fuel))
      | _ => return e

def readFilter : (fuel : Nat) → Expr → Reader Expr
  | 0, _ => exhausted
  | fuel + 1, e => do
      let s ← dottedName fuel
      if (← current) = some (.sign "(") then return .filter e s (← readArguments fuel)
      return .filter e s []

def readTest : (fuel : Nat) → Expr → Reader Expr
  | 0, _ => exhausted
  | fuel + 1, e => do
      let negated ← skip (.name "not")
      let s ← dottedName fuel
      let args ←
        match ← current with
        | some (.sign "(") => readArguments fuel
        | some (.name "is") => fail "You cannot chain multiple tests with is"
        | t =>
            if startsArgument t then do
              let a ← readPrimary fuel
              let a ← readMembers fuel a
              pure [.placed a]
            else pure []
      let t : Expr := .test e s args
      return if negated then .opposite t else t

end

end Redline.Form
