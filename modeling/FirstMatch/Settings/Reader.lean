/-
# Settings from JSON

Settings are an object whose members are fields, each at most once, or a list of the two values
with a missing tail; a field that is not given keeps its standard value.  A policy is its name,
or an object with that name as its one member and `null` as its value.  Blanks may stand around
every token, and nothing else around the whole.

The readers of this module answer with the text behind what they read, or with the fault that
comes first in the text.
-/
import FirstMatch.Json.Misfit
import FirstMatch.Settings.Basic

namespace FirstMatch.Settings

open Json

/-- The value that settings are asked to have. -/
def wanted : Wanted := .record "DispatchConfig"

/-- Reads a policy's name, behind its opening quote. -/
def readName (cs : List Char) : Except Fault (Read Policy) := do
  let (name, cs) ← stringTail cs
  match Policy.ofName? (String.ofList name) with
  | some p => return (p, cs)
  | none => .error (.before (.unknownVariant (String.ofList name) (Policy.all.map Policy.name)) cs)

/-- Reads the colon between a member's name and its value. -/
def readColon (cs : List Char) : Except Fault (List Char) :=
  match skipBlanks cs with
  | [] => .error (.within (.ended .object) [])
  | c :: cs => if c = ':' then .ok cs else .error (.within .expectedColon (c :: cs))

/-- Reads the value `null`. -/
def readNull (cs : List Char) : Except Fault (List Char) :=
  match skipBlanks cs with
  | [] => .error (.within (.ended .value) [])
  | 'n' :: cs => letters "ull".toList cs
  | cs => .error (misfit .null cs)

/-- Reads a truth value. -/
def readBool (cs : List Char) : Except Fault (Read Bool) :=
  match skipBlanks cs with
  | [] => .error (.within (.ended .value) [])
  | 't' :: cs => return (true, ← letters "rue".toList cs)
  | 'f' :: cs => return (false, ← letters "alse".toList cs)
  | cs => .error (misfit .boolean cs)

/-- Reads the rest of a policy that is written as an object, behind the opening brace. -/
def readPolicyObject (cs : List Char) : Except Fault (Read Policy) :=
  match skipBlanks cs with
  | [] => .error (.within (.ended .object) [])
  | '\x7d' :: cs => .error (.within .expectedValue ('\x7d' :: cs))
  | '"' :: cs => do
    let (p, cs) ← readName cs
    let cs ← readColon cs
    let cs ← readNull cs
    match skipBlanks cs with
    | [] => .error (.before (.ended .object) [])
    | '\x7d' :: cs => return (p, cs)
    | cs => .error (.before .expectedValue cs)
  | cs => .error (.within .keyNotString cs)

/-- Reads a policy: its name, or an object that holds the name. -/
def readPolicy (cs : List Char) : Except Fault (Read Policy) :=
  match skipBlanks cs with
  | [] => .error (.within (.ended .value) [])
  | '"' :: cs => readName cs
  | '\x7b' :: cs => readPolicyObject cs
  | cs => .error (.within .expectedValue cs)

/-! ## The list form -/

/-- Reads the end of a list that has given all values it may have. -/
def readListEnd (cs : List Char) : Except Fault (List Char) :=
  match skipBlanks cs with
  | [] => .error (.within (.ended .list) [])
  | ']' :: cs => .ok cs
  | ',' :: cs =>
    match skipBlanks cs with
    | ']' :: cs => .error (.within .trailingComma (']' :: cs))
    | cs => .error (.within .trailingCharacters cs)
  | cs => .error (.within .trailingCharacters cs)

/-- Reads the second value of a list and its end. -/
def readSecond (unreachable : Policy) (cs : List Char) : Except Fault (Read Settings) :=
  match skipBlanks cs with
  | [] => .error (.within (.ended .list) [])
  | ']' :: cs => .ok (⟨unreachable, standard.logUnhandled⟩, cs)
  | ',' :: cs =>
    match skipBlanks cs with
    | [] => .error (.within (.ended .value) [])
    | ']' :: cs => .error (.within .trailingComma (']' :: cs))
    | cs => do
      let (logUnhandled, cs) ← readBool cs
      return (⟨unreachable, logUnhandled⟩, ← readListEnd cs)
  | cs => .error (.within (.expectedComma ']') cs)

/-- Reads the values of a list, behind its opening bracket. -/
def readList (cs : List Char) : Except Fault (Read Settings) :=
  match skipBlanks cs with
  | [] => .error (.within (.ended .list) [])
  | ']' :: cs => .ok (standard, cs)
  | cs => do
    let (unreachable, cs) ← readPolicy cs
    readSecond unreachable cs

/-! ## The object form -/

/-- The fields that an object has given so far. -/
structure Given where
  unreachable : Option Policy := none
  logUnhandled : Option Bool := none
  deriving DecidableEq, Repr

namespace Given

/-- Whether a field has been given. -/
def has (g : Given) : Field → Bool
  | .unreachable => g.unreachable.isSome
  | .logUnhandled => g.logUnhandled.isSome

/-- How many fields have not been given. -/
def missing (g : Given) : Nat := (Field.all.filter fun f => !g.has f).length

/-- The settings with standard values for what was not given. -/
def settings (g : Given) : Settings :=
  ⟨g.unreachable.getD standard.unreachable, g.logUnhandled.getD standard.logUnhandled⟩

/-- A policy that had not been given makes one field less to give. -/
theorem missing_unreachable_lt {g : Given} (h : g.has .unreachable = false) (p : Policy) :
    { g with unreachable := some p }.missing < g.missing := by
  obtain ⟨u, l⟩ := g
  cases u <;> cases l <;> simp_all [missing, has, Field.all]

/-- A flag that had not been given makes one field less to give. -/
theorem missing_logUnhandled_lt {g : Given} (h : g.has .logUnhandled = false) (b : Bool) :
    { g with logUnhandled := some b }.missing < g.missing := by
  obtain ⟨u, l⟩ := g
  cases u <;> cases l <;> simp_all [missing, has, Field.all]

end Given

/-- Reads a field's name, behind its opening quote.  An unknown or repeated name is reported
behind the blanks that follow it, and behind a closing brace if one comes next. -/
def readField (g : Given) (cs : List Char) :
    Except Fault (Read { f : Field // g.has f = false }) := do
  let (name, cs) ← stringTail cs
  let refuse (reason : Reason) : Fault := match skipBlanks cs with
    | '\x7d' :: cs => .before reason cs
    | cs => .before reason cs
  match Field.ofName? (String.ofList name) with
  | none => .error (refuse (.unknownField (String.ofList name) (Field.all.map Field.name)))
  | some f =>
    if h : g.has f = false then return (⟨f, h⟩, cs)
    else .error (refuse (.repeatedField f.name))

mutual

/-- Reads a member from its opening quote on, and all that follows in its object. -/
def readMember (g : Given) (cs : List Char) : Except Fault (Read Settings) :=
  match cs with
  | '"' :: cs => do
    match ← readField g cs with
    | (⟨.unreachable, h⟩, cs) =>
      let cs ← readColon cs
      let (p, cs) ← readPolicy cs
      have := Given.missing_unreachable_lt h p
      readMembers { g with unreachable := some p } cs
    | (⟨.logUnhandled, h⟩, cs) =>
      let cs ← readColon cs
      let (b, cs) ← readBool cs
      have := Given.missing_logUnhandled_lt h b
      readMembers { g with logUnhandled := some b } cs
  | cs => .error (.within .keyNotString cs)
termination_by (g.missing, 0)

/-- Reads what follows a member: the end of the object, or a comma and another member. -/
def readMembers (g : Given) (cs : List Char) : Except Fault (Read Settings) :=
  match skipBlanks cs with
  | [] => .error (.within (.ended .object) [])
  | '\x7d' :: cs => .ok (g.settings, cs)
  | ',' :: cs =>
    match skipBlanks cs with
    | [] => .error (.within (.ended .value) [])
    | '\x7d' :: cs => .error (.within .trailingComma ('\x7d' :: cs))
    | cs => readMember g cs
  | cs => .error (.within (.expectedComma '\x7d') cs)
termination_by (g.missing, 1)

end

/-- Reads the members of an object, behind its opening brace. -/
def readObject (cs : List Char) : Except Fault (Read Settings) :=
  match skipBlanks cs with
  | [] => .error (.within (.ended .object) [])
  | '\x7d' :: cs => .ok (standard, cs)
  | cs => readMember {} cs

/-! ## Whole texts -/

/-- Reads settings in either form. -/
def readSettings (cs : List Char) : Except Fault (Read Settings) :=
  match skipBlanks cs with
  | [] => .error (.within (.ended .value) [])
  | '[' :: cs => readList cs
  | '\x7b' :: cs => readObject cs
  | cs => .error (misfit wanted cs)

/-- Reads one value from a whole text, behind which only blanks may stand. -/
def readWhole {α : Type} (read : List Char → Except Fault (Read α)) (text : String) :
    Except Error α :=
  let result : Except Fault α := do
    let (value, cs) ← read text.toList
    match skipBlanks cs with
    | [] => return value
    | cs => .error (.within .trailingCharacters cs)
  result.mapError (Error.ofFault text.toList)

/-- The policy that a JSON text gives. -/
def policyOfJson (text : String) : Except Error Policy := readWhole readPolicy text

/-- The settings that a JSON text gives. -/
def ofJson (text : String) : Except Error Settings := readWhole readSettings text

/-- The message for a text that gives no settings. -/
def invalidMessage (e : Error) : String := "invalid dispatch configuration: " ++ e.message

end FirstMatch.Settings
