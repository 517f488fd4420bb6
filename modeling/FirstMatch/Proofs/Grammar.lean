/-
# The grammar of settings

What a JSON text must look like to give settings, said without a reader.  A text is a list of
characters, and it is written from left to right as the rules of this module put it together;
blanks may stand around every token.  A string may be spelled in many ways (`Json.Spells`), and
what counts is what it denotes.

Settings are written as an object, whose members may come in any order but not twice, or as a list,
which leaves out a tail at most (`Settings.Written`).  What is not given has its standard value
(`Settings.Gives`).
-/
import FirstMatch.Settings.Basic

namespace FirstMatch.Json

/-! ## Blanks -/

/-- Spaces, tabs, line feeds and carriage returns, as many as there are. -/
def Blanks (text : List Char) : Prop := ∀ c ∈ text, c ∈ [' ', '\t', '\n', '\r']

/-- Whether a text is blank can be decided. -/
instance (text : List Char) : Decidable (Blanks text) := List.decidableBAll _ text

/-! ## Strings -/

/-- A digit in base sixteen, in small or in capital letters. -/
def HexDigit (c : Char) (n : Nat) : Prop := n < 16 ∧ (c = n.digitChar ∨ c = n.digitChar.toUpper)

/-- Whether a character is a digit can be decided. -/
instance (c : Char) (n : Nat) : Decidable (HexDigit c n) := inferInstanceAs (Decidable (_ ∧ _))

/-- A code unit, written with four digits in base sixteen. -/
inductive CodeUnit : List Char → Nat → Prop
  | intro {a b c d : Char} {i j k l : Nat} :
    HexDigit a i → HexDigit b j → HexDigit c k → HexDigit d l →
    CodeUnit [a, b, c, d] (0x1000 * i + 0x100 * j + 0x10 * k + l)

/-- Characters that a backslash and one letter denote, by the letter. -/
def letterEscapes : List (Char × Char) :=
  [('"', '"'), ('\\', '\\'), ('/', '/'), ('b', '\x08'), ('f', '\x0c'), ('n', '\n'), ('r', '\r'),
    ('t', '\t')]

/-- What may stand behind a backslash, and the character that it denotes: a letter, a code unit that
is no surrogate, or a high and a low surrogate as a pair. -/
inductive Escape : List Char → Char → Prop
  | letter {c d : Char} : (c, d) ∈ letterEscapes → Escape [c] d
  | single {text : List Char} {unit : Nat} :
    CodeUnit text unit → unit < 0xD800 ∨ 0xE000 ≤ unit → Escape ('u' :: text) (Char.ofNat unit)
  | pair {text text' : List Char} {high low : Nat} :
    CodeUnit text high → 0xD800 ≤ high → high < 0xDC00 →
    CodeUnit text' low → 0xDC00 ≤ low → low < 0xE000 →
    Escape ('u' :: (text ++ '\\' :: 'u' :: text'))
      (Char.ofNat (0x10000 + (high - 0xD800) * 0x400 + (low - 0xDC00)))

/-- What may stand between the quotes of a string, and the characters that it denotes. -/
inductive Spells : List Char → List Char → Prop
  | nil : Spells [] []
  | plain {c : Char} {text s : List Char} :
    0x20 ≤ c.toNat → c ≠ '"' → c ≠ '\\' → Spells text s → Spells (c :: text) (c :: s)
  | escape {c : Char} {front text s : List Char} :
    Escape front c → Spells text s → Spells ('\\' :: (front ++ text)) (c :: s)

/-- A string in quotes that denotes `s`. -/
inductive Quotes : List Char → String → Prop
  | intro {text : List Char} {s : String} :
    Spells text s.toList → Quotes ('"' :: (text ++ ['"'])) s

/-! ## Commas -/

/-- Items with commas between them, at least one; what is listed are their values. -/
inductive Listed {α : Type} (Item : List Char → α → Prop) : List Char → List α → Prop
  | one {text : List Char} {a : α} : Item text a → Listed Item text [a]
  | more {text front behind rest : List Char} {a : α} {as : List α} :
    Item text a → Blanks front → Blanks behind → Listed Item rest as →
    Listed Item (text ++ front ++ ',' :: (behind ++ rest)) (a :: as)

end FirstMatch.Json

namespace FirstMatch.Settings

open Json (Blanks Quotes Listed)

/-! ## Values -/

/-- A field with its value. -/
inductive Setting where
  | unreachable (p : Policy)
  | logUnhandled (b : Bool)
  deriving DecidableEq, Repr

/-- The field of a setting. -/
def Setting.field : Setting → Field
  | unreachable _ => .unreachable
  | logUnhandled _ => .logUnhandled

/-- A policy: its name, or an object with the name as its one member and `null` as its value. -/
inductive PolicyText : List Char → Policy → Prop
  | name {text : List Char} {p : Policy} : Quotes text p.name → PolicyText text p
  | object {a name b c d : List Char} {p : Policy} :
    Blanks a → Quotes name p.name → Blanks b → Blanks c → Blanks d →
    PolicyText ('\x7b' :: (a ++ name ++ b ++ ':' :: (c ++ "null".toList ++ d ++ ['\x7d']))) p

/-- The value of a field. -/
inductive ValueText : List Char → Setting → Prop
  | policy {text : List Char} {p : Policy} : PolicyText text p → ValueText text (.unreachable p)
  | truth (b : Bool) : ValueText (boolText b).toList (.logUnhandled b)

/-! ## Settings -/

/-- A member of an object: the name of a field and the value of that field. -/
inductive MemberText : List Char → Setting → Prop
  | intro {name a b value : List Char} {x : Setting} :
    Quotes name x.field.name → Blanks a → Blanks b → ValueText value x →
    MemberText (name ++ a ++ ':' :: (b ++ value)) x

/-- Settings, and what they give: an object in which no field has two values, or a list of the
values of the first fields. -/
inductive SettingsText : List Char → List Setting → Prop
  | emptyObject {a : List Char} : Blanks a → SettingsText ('\x7b' :: (a ++ ['\x7d'])) []
  | object {a members b : List Char} {given : List Setting} :
    Blanks a → Listed MemberText members given → Blanks b → (given.map Setting.field).Nodup →
    SettingsText ('\x7b' :: (a ++ members ++ b ++ ['\x7d'])) given
  | emptyList {a : List Char} : Blanks a → SettingsText ('[' :: (a ++ [']'])) []
  | list {a values b : List Char} {given : List Setting} :
    Blanks a → Listed ValueText values given → Blanks b →
    given.map Setting.field <+: [.unreachable, .logUnhandled] →
    SettingsText ('[' :: (a ++ values ++ b ++ [']'])) given

/-- A whole text in which settings are written, with nothing but blanks around them. -/
def Written (text : String) (given : List Setting) : Prop :=
  ∃ front value behind, text.toList = front ++ value ++ behind
    ∧ Blanks front ∧ SettingsText value given ∧ Blanks behind

/-- The value of a field in settings. -/
def value (s : Settings) : Field → Setting
  | .unreachable => .unreachable s.unreachable
  | .logUnhandled => .logUnhandled s.logUnhandled

/-- Settings with the values that are given; without one a policy warns, and unhandled input is not
logged. -/
structure Gives (given : List Setting) (s : Settings) : Prop where
  mem (x : Setting) : x ∈ given → s.value x.field = x
  notMem (f : Field) : f ∉ given.map Setting.field → s.value f = value ⟨.warn, false⟩ f

end FirstMatch.Settings
