/-
# Quoted text

A text between two quotes.  The quote and the backslash are written behind a backslash, four
controls have a letter of their own, every other hidden character is given by its code point in
braces, and all else stands for itself.
-/
import FirstMatch.Text.Hidden

namespace FirstMatch.Text

/-- The digits of a number in base sixteen, in small letters and without leading zeros. -/
def hex (n : Nat) : List Char := Nat.toDigits 16 n

/-- One character inside quotes of the given kind. -/
def escape (quote c : Char) : List Char :=
  if c = quote ∨ c = '\\' then ['\\', c]
  else if c = '\t' then ['\\', 't']
  else if c = '\n' then ['\\', 'n']
  else if c = '\r' then ['\\', 'r']
  else if c = '\x00' then ['\\', '0']
  else if isHidden c then '\\' :: 'u' :: '\x7b' :: (hex c.toNat ++ ['\x7d'])
  else [c]

/-- The characters of a text between quotes. -/
def enclose (quote : Char) (cs : List Char) : List Char :=
  quote :: (cs.flatMap (escape quote) ++ [quote])

/-- A text in double quotes. -/
def quoted (s : String) : String := String.ofList (enclose '"' s.toList)

/-- A character in single quotes. -/
def quotedChar (c : Char) : String := String.ofList (enclose '\'' [c])

/-- A quoted text begins and ends with a quote. -/
@[simp] theorem toList_quoted (s : String) : (quoted s).toList = enclose '"' s.toList := by
  simp [quoted]

end FirstMatch.Text
