/-
# Values of another form

Where a value has not the form that is asked for, it is read far enough to say what it is.
-/
import FirstMatch.Json.Number

namespace FirstMatch.Json

/-- Reads a value far enough to say what it is: a word, a number and a string to their end, of a
list or an object nothing. -/
def found (cs : List Char) : Except Fault (Read Found) :=
  match cs with
  | [] => .error (.within .expectedValue [])
  | 'n' :: cs => return (.null, ← letters "ull".toList cs)
  | 't' :: cs => return (.boolean true, ← letters "rue".toList cs)
  | 'f' :: cs => return (.boolean false, ← letters "alse".toList cs)
  | '[' :: _ => return (.list, cs)
  | '\x7b' :: _ => return (.object, cs)
  | '"' :: cs => do
    let (s, cs) ← stringTail cs
    return (.string (String.ofList s), cs)
  | c :: _ =>
    if c = '-' ∨ c.isDigit then number cs
    else .error (.within .expectedValue cs)

/-- The fault of a value that has not the form asked for. -/
def misfit (wanted : Wanted) (cs : List Char) : Fault :=
  match found cs with
  | .ok (found, rest) => .before (.unfitting found wanted) rest
  | .error fault => fault

end FirstMatch.Json
