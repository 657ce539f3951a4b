import Redline.Text.Quoted
import Redline.Text.Digit
import Redline.Number.Decimal

/-!
# Faults

What can go wrong in an operation, by cause.  `Fault.message` is the only place
where the wording stands.  Most operations catch the faults of the operations
they use, and then the message ends up in a comment, a report or a log.
-/

namespace Redline

/-- What is wrong with one field of a record. -/
inductive FieldError where
  /-- The field is not there. -/
  | missing
  | null
  /-- The field is not a text. -/
  | notText
  /-- The field is not an integer. -/
  | notInteger
  /-- The field is not a truth value. -/
  | notBoolean
  /-- The field is not a list. -/
  | notList
  /-- The field is not a record. -/
  | notRecord
  /-- The field is a record with a name that is not a text. -/
  | unnamed
  /-- The field is a record with a name that no record may use. -/
  | reserved
deriving DecidableEq, Repr

/-- The name that no record may use for a field. -/
def reservedName : String := "__pydantic_self__"

/-- What is said about a record that uses the reserved name. -/
def reservedMessage : String :=
  "BaseModel.__init__() got multiple values for argument '" ++ reservedName ++ "'"

def FieldError.message : FieldError → String
  | missing => "field required (type=value_error.missing)"
  | null => "none is not an allowed value (type=type_error.none.not_allowed)"
  | notText => "str type expected (type=type_error.str)"
  | notInteger => "value is not a valid integer (type=type_error.integer)"
  | notBoolean => "value could not be parsed to a boolean (type=type_error.bool)"
  | notList => "value is not a valid list (type=type_error.list)"
  | notRecord => "value is not a valid dict (type=type_error.dict)"
  | unnamed => "keywords must be strings (type=type_error)"
  | reserved => reservedMessage ++ " (type=type_error)"

/-- A field error with the names and numbers that lead to the field. -/
structure Problem where
  path : List String
  error : FieldError
deriving DecidableEq, Repr

def Problem.report (p : Problem) : List String :=
  [String.intercalate " -> " p.path, "  " ++ p.error.message]

/-- Why a form fails. -/
inductive Cause where
  /-- It is not written as a form is. -/
  | grammar
  /-- It names what there is not, or uses a word where it may not stand. -/
  | rule
  | run
  /-- It uses a value that is not there. -/
  | absence
  /-- It uses a value of a sort that does not fit. -/
  | sort
  | value
  | division
  | size
  | word
  /-- A filter does not take what it is given. -/
  | argument
  /-- There is no other form of a name. -/
  | source
  /-- A record has no such key. -/
  | key
  /-- A list has no such position. -/
  | position
  /-- A value has no such member. -/
  | member
  | depth
  | writing
  | reading
  /-- A literal is not one. -/
  | code
  | ending
  /-- Something was taken for granted that is not so. -/
  | assumption
  /-- A record was changed while it was walked through. -/
  | change
  /-- There is no such encoding. -/
  | encoding
  /-- There is no room for a value. -/
  | room
deriving DecidableEq, Repr

/-- What can go wrong. -/
inductive Fault where
  /-- A value of one sort was used as one of another sort. -/
  | wrongSort
  /-- A value of a sort that stands for no number was used as one. -/
  | notNumeric (sort : String)
  /-- A value of a sort that is no text was searched. -/
  | notText (sort : String)
  /-- A value of a sort that is no path was used as one. -/
  | notPath (sort : String)
  /-- A value is no level of a log. -/
  | notLevel (value : String)
  /-- A value of a sort that stands for no number was written as one. -/
  | notWritable (sort : String)
  /-- A value of a sort that has no named fields was asked for one. -/
  | notIndexable (sort : String)
  /-- A value of a sort that is no key was looked up. -/
  | notKey (sort : String)
  /-- A value of a sort that is no record was read as a model. -/
  | notRecord (model sort : String)
  | reserved
  /-- A value has no member of a name. -/
  | noMember (owner member : String)
  /-- A list has no item at a position. -/
  | noItem
  /-- A record has no field of a name. -/
  | noField (name : String)
  /-- A text does not write an integer. -/
  | notInteger (text : String)
  | integerTooLong (digits : Nat)
  | integerTooLarge
  /-- An infinite number has no whole part. -/
  | infinite
  /-- A text nests one value of a kind too deep inside others. -/
  | tooDeep (kind : String)
  /-- A value is refused for a reason given in words. -/
  | refused (reason : String)
  | outage (reason : String)
  /-- A record has fields that do not fit the model. -/
  | invalid (model : String) (problems : List Problem)
  | noAnswer
  /-- The system could not do what it was asked to. -/
  | system (reason : String)
  /-- A value was used where one of its sort does not fit. -/
  | misfit (reason : String)
  | inForm (cause : Cause) (reason : String)
deriving DecidableEq, Repr

instance : Inhabited Fault := ⟨.wrongSort⟩

/-- The number of characters of a refused numeral that its message shows. -/
def shownNumeral : Nat := 200

def Fault.message : Fault → String
  | wrongSort => "unsupported operand"
  | notNumeric sort =>
      s!"int() argument must be a string, a bytes-like object or a real number, not '{sort}'"
  | notText sort => s!"expected string or bytes-like object, got '{sort}'"
  | notPath sort => s!"expected str, bytes or os.PathLike object, not {sort}"
  | notLevel value => "Level not an integer or a valid string: " ++ value
  | notWritable sort => s!"%d format: a real number is required, not {sort}"
  | notIndexable sort =>
      if sort = "list" then "list indices must be integers or slices, not str"
      else if sort = "str" then "string indices must be integers, not 'str'"
      else s!"'{sort}' object is not subscriptable"
  | notKey sort => s!"unhashable type: '{sort}'"
  | notRecord model sort => s!"{model}() argument after ** must be a mapping, not {sort}"
  | reserved => reservedMessage
  | noMember owner member => s!"'{owner}' object has no attribute '{member}'"
  | noItem => "list index out of range"
  | noField name => String.ofList (Text.quoted name.toList)
  | notInteger text =>
      "invalid literal for int() with base 10: "
        ++ String.ofList ((Text.quoted text.toList).take shownNumeral)
  | integerTooLong digits =>
      s!"Exceeds the limit ({Text.maxDigits} digits) for integer string conversion: "
        ++ s!"value has {digits} digits; use sys.set_int_max_str_digits() to increase the limit"
  | integerTooLarge =>
      s!"Exceeds the limit ({Text.maxDigits} digits) for integer string conversion; "
        ++ "use sys.set_int_max_str_digits() to increase the limit"
  | infinite => "cannot convert float infinity to integer"
  | tooDeep kind => s!"maximum recursion depth exceeded while decoding a JSON {kind} from a unicode string"
  | refused reason => reason
  | outage reason => reason
  | invalid model problems =>
      let count := problems.length
      let head := s!"{count} validation error" ++ (if count = 1 then "" else "s") ++ s!" for {model}"
      String.intercalate "\n" (head :: problems.flatMap Problem.report)
  | noAnswer => "no answer"
  | system reason => reason
  | misfit reason => reason
  | inForm _ reason => reason

/-- The integer that a text writes, or the fault that says why there is none. -/
def readInteger (text : String) : Except Fault Int :=
  match Text.readInt text.toList with
  | .ok n => .ok n
  | .error .malformed => .error (.notInteger text)
  | .error (.tooLong digits) => .error (.integerTooLong digits)

/-- The text of an integer, or the fault that it has too many digits. -/
def writeInteger (n : Int) : Except Fault Text :=
  let t := Number.intText n
  if Text.maxDigits < (Number.intText n.natAbs).length then .error .integerTooLarge else .ok t

end Redline
