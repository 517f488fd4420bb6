/-
# What can be wrong with a JSON text

A fault has a reason and a place.  While a text is read the place is the number of bytes that are
left behind it; for the report it becomes a line and a column, both counted in bytes of UTF-8.
The reasons fall into three categories: the text ends too early, it is no JSON, or it is JSON of
another form than the one asked for.
-/
import FirstMatch.Text.Quoted
import FirstMatch.Decimal.Notation

namespace FirstMatch.Json

/-- Numbers in messages are plain from `1e-5` up to `1e16`, other exponents have a sign, and of
two equally near decimals the even one is taken. -/
def numberNotation : Decimal.Notation := ⟨-5, 16, true, .even⟩

/-- The values between which a text can end. -/
inductive Unfinished where
  | value
  | string
  | object
  | list
  deriving DecidableEq, Repr

/-- A value that stands where another form was asked for. -/
inductive Found where
  | null
  | boolean (b : Bool)
  | integer (n : Int)
  | decimal (x : Decimal.Double)
  | string (s : String)
  | list
  | object
  deriving DecidableEq, Repr

/-- A form that a value may be asked to have. -/
inductive Wanted where
  | boolean
  | null
  | record (name : String)
  deriving DecidableEq, Repr

/-- Why a text is refused. -/
inductive Reason where
  | ended (inside : Unfinished)
  | trailingComma
  | trailingCharacters
  | expectedColon
  | expectedComma (closing : Char)
  | expectedLetter
  | expectedValue
  | keyNotString
  | controlCharacter
  | badEscape
  | loneSurrogate
  | halfSurrogatePair
  | badNumber
  | numberTooLarge
  | unfitting (found : Found) (wanted : Wanted)
  | unknownVariant (name : String) (known : List String)
  | unknownField (name : String) (known : List String)
  | repeatedField (name : String)
  deriving DecidableEq, Repr

/-- The three categories of reasons. -/
inductive Category where
  | ended
  | malformed
  | unfitting
  deriving DecidableEq, Repr

namespace Unfinished

/-- The value that is cut off, in words. -/
def phrase : Unfinished → String
  | value => "a value"
  | string => "a string"
  | object => "an object"
  | list => "a list"

end Unfinished

namespace Found

/-- The value that was found, in words. -/
def phrase : Found → String
  | null => "null"
  | boolean b => if b then "boolean `true`" else "boolean `false`"
  | integer n => "integer `" ++ toString n ++ "`"
  | decimal x => "floating point `" ++ numberNotation.write x ++ "`"
  | string s => "string " ++ Text.quoted s
  | list => "sequence"
  | object => "map"

end Found

namespace Wanted

/-- The form that was asked for, in words. -/
def phrase : Wanted → String
  | boolean => "a boolean"
  | null => "unit"
  | record name => "struct " ++ name

end Wanted

/-- A choice of names: one alone, two joined by *or*, more as a list. -/
def choicePhrase : List String → String
  | [] => "nothing"
  | [a] => "`" ++ a ++ "`"
  | [a, b] => "`" ++ a ++ "` or `" ++ b ++ "`"
  | names => "one of " ++ ", ".intercalate (names.map fun name => "`" ++ name ++ "`")

namespace Reason

/-- The message of a reason, without its place. -/
def message : Reason → String
  | ended inside => "EOF while parsing " ++ inside.phrase
  | trailingComma => "trailing comma"
  | trailingCharacters => "trailing characters"
  | expectedColon => "expected `:`"
  | expectedComma closing => "expected `,` or `" ++ closing.toString ++ "`"
  | expectedLetter => "expected ident"
  | expectedValue => "expected value"
  | keyNotString => "key must be a string"
  | controlCharacter => "control character (\\u0000-\\u001F) found while parsing a string"
  | badEscape => "invalid escape"
  | loneSurrogate => "lone leading surrogate in hex escape"
  | halfSurrogatePair => "unexpected end of hex escape"
  | badNumber => "invalid number"
  | numberTooLarge => "number out of range"
  | unfitting found wanted => "invalid type: " ++ found.phrase ++ ", expected " ++ wanted.phrase
  | unknownVariant name known =>
    "unknown variant `" ++ name ++ "`, expected " ++ choicePhrase known
  | unknownField name known => "unknown field `" ++ name ++ "`, expected " ++ choicePhrase known
  | repeatedField name => "duplicate field `" ++ name ++ "`"

/-- The category of a reason. -/
def category : Reason → Category
  | ended _ => .ended
  | unfitting .. | unknownVariant .. | unknownField .. | repeatedField _ => .unfitting
  | _ => .malformed

end Reason

/-- The number of bytes of a text. -/
def byteCount : List Char → Nat
  | [] => 0
  | c :: cs => c.utf8Size + byteCount cs

/-- The first character counts with as many bytes as it has. -/
@[simp] theorem byteCount_cons (c : Char) (cs : List Char) :
    byteCount (c :: cs) = c.utf8Size + byteCount cs := rfl

/-- A reason with the number of bytes that are left behind its place. -/
structure Fault where
  reason : Reason
  left : Nat
  deriving DecidableEq, Repr

namespace Fault

/-- A fault in front of the text that is left. -/
def before (reason : Reason) (rest : List Char) : Fault := ⟨reason, byteCount rest⟩

/-- A fault behind the first byte of the text that is left. -/
def within (reason : Reason) (rest : List Char) : Fault := ⟨reason, byteCount rest - 1⟩

end Fault

/-- A line, counted from one, and the bytes of it that lie before a place. -/
structure Position where
  line : Nat
  column : Nat
  deriving DecidableEq, Repr

namespace Position

/-- The position that lies `offset` bytes behind another one. -/
def advance (p : Position) (offset : Nat) : List Char → Position
  | [] => p
  | c :: cs =>
    if offset < c.utf8Size then { p with column := p.column + offset }
    else if c = '\n' then advance ⟨p.line + 1, 0⟩ (offset - c.utf8Size) cs
    else advance { p with column := p.column + c.utf8Size } (offset - c.utf8Size) cs

/-- The position at an offset of a text. -/
def ofOffset (text : List Char) (offset : Nat) : Position := advance ⟨1, 0⟩ offset text

end Position

/-- A refused text: the reason and the position where it was seen. -/
structure Error where
  reason : Reason
  position : Position
  deriving DecidableEq, Repr

namespace Error

/-- The report of a fault in a text. -/
def ofFault (text : List Char) (fault : Fault) : Error :=
  ⟨fault.reason, Position.ofOffset text (byteCount text - fault.left)⟩

/-- The message of a refused text. -/
def message (e : Error) : String :=
  e.reason.message ++ " at line " ++ toString e.position.line
    ++ " column " ++ toString e.position.column

end Error

end FirstMatch.Json
