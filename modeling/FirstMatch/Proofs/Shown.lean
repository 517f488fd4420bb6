/-
# What a shown list tells

Labels are free texts, and a dispatcher or a draft shows them in quotes among its own punctuation.
A reader that goes through such a text from left to right finds every label again, whatever
characters it has: it only has to know whether it stands between quoted texts, inside of one, or
inside of an escape (`Text.Cursor`).  Which characters are hidden does not matter to it, and neither
does whether the text is compact or pretty.

So a text in which labels are shown gives the list of the labels back (`Text.Shows`), and what
stands behind the list gives the settings of a draft.
-/
import FirstMatch.Describe
import FirstMatch.Proofs.Tokens

namespace FirstMatch

namespace Text

/-! ## A reader of quoted texts -/

/-- Where a reader of quoted texts stands, and what it has read of the text that it is in. -/
inductive Cursor where
  /-- Between quoted texts. -/
  | between
  /-- Inside a quoted text. -/
  | inside (read : List Char)
  /-- Behind a backslash. -/
  | escaped (read : List Char)
  /-- Inside the braces of a code point, behind digits that denote `n`. -/
  | coded (read : List Char) (n : Nat)

/-- The character that a letter behind a backslash denotes. -/
def escapedChar : Char → Char
  | 't' => '\t'
  | 'n' => '\n'
  | 'r' => '\r'
  | '0' => '\x00'
  | c => c

/-- The quoted texts that a reader finds in the rest of a text. -/
def Cursor.readAll : Cursor → List Char → List String
  | _, [] => []
  | between, c :: cs => if c = '"' then readAll (inside []) cs else readAll between cs
  | inside read, c :: cs =>
    if c = '"' then String.ofList read :: readAll between cs
    else if c = '\\' then readAll (escaped read) cs
    else readAll (inside (read ++ [c])) cs
  | escaped read, c :: cs =>
    if c = 'u' then readAll (coded read 0) cs else readAll (inside (read ++ [escapedChar c])) cs
  | coded read n, c :: cs =>
    if c = '\x7b' then readAll (coded read n) cs
    else if c = '\x7d' then readAll (inside (read ++ [Char.ofNat n])) cs
    else readAll (coded read (0x10 * n + (Json.hexDigit? c).getD 0)) cs

/-- The quoted texts in a text, from left to right. -/
def quotedIn (text : String) : List String := Cursor.between.readAll text.toList

namespace Cursor

variable {cs read : List Char}

/-- A digit counts for what it denotes in base sixteen. -/
theorem readAll_digit {d : Nat} (hd : d < 16) (n : Nat) :
    readAll (coded read n) (d.digitChar :: cs) = readAll (coded read (0x10 * n + d)) cs := by
  have hdigit : Json.hexDigit? d.digitChar = some d :=
    Json.hexDigit?_eq_some_iff.mpr ⟨hd, .inl rfl⟩
  have hopen : d.digitChar ≠ '\x7b' := by
    intro h
    rw [h] at hdigit
    cases hdigit
  have hclose : d.digitChar ≠ '\x7d' := by
    intro h
    rw [h] at hdigit
    cases hdigit
  rw [readAll, if_neg hopen, if_neg hclose, hdigit]
  rfl

/-- The digits of a code point lead to the code point, by induction on their number. -/
theorem readAll_hex (n : Nat) (cs : List Char) :
    readAll (coded read 0) (hex n ++ cs) = readAll (coded read n) cs := by
  induction n using Nat.strong_induction_on generalizing cs with
  | _ n ih =>
    by_cases hn : n < 16
    · rw [hex, Nat.toDigits_of_lt_base hn, List.singleton_append, readAll_digit hn, Nat.mul_zero,
        Nat.zero_add]
    · have hdigits : hex n = hex (n / 16) ++ [(n % 16).digitChar] :=
        Nat.toDigits_of_base_le (by decide) (Nat.le_of_not_lt hn)
      have hless : n / 16 < n := by omega
      rw [hdigits, List.append_assoc, ih _ hless, List.singleton_append,
        readAll_digit (Nat.mod_lt n (by decide)), Nat.div_add_mod]

/-- Inside a quoted text the reader goes on by one character, however that is written. -/
theorem readAll_escape (c : Char) (cs : List Char) :
    readAll (inside read) (escape '"' c ++ cs) = readAll (inside (read ++ [c])) cs := by
  unfold escape
  split
  · next hc =>
    rcases hc with rfl | rfl
    · rfl
    · rfl
  · next hc =>
    obtain ⟨hquote, hbackslash⟩ := not_or.mp hc
    split
    · next hc => subst hc; rfl
    split
    · next hc => subst hc; rfl
    split
    · next hc => subst hc; rfl
    split
    · next hc => subst hc; rfl
    split
    -- the backslash, the letter and the opening brace lead to the digits
    · show readAll (coded read 0) (hex c.toNat ++ ['\x7d'] ++ cs) = _
      rw [List.append_assoc, readAll_hex, List.singleton_append, readAll, if_neg (by decide),
        if_pos rfl, Char.ofNat_toNat]
    · rw [List.singleton_append, readAll, if_neg hquote, if_neg hbackslash]

/-- A quoted text is read up to its closing quote. -/
theorem readAll_inside (s read cs : List Char) :
    readAll (inside read) (s.flatMap (escape '"') ++ '"' :: cs)
      = String.ofList (read ++ s) :: readAll between cs := by
  induction s generalizing read with
  | nil => rw [List.flatMap_nil, List.nil_append, List.append_nil, readAll, if_pos rfl]
  | cons c s ih =>
    rw [List.flatMap_cons, List.append_assoc, readAll_escape, ih, List.append_assoc,
      List.singleton_append]

/-- Where there are no quotes nothing is read. -/
theorem readAll_bare {text : List Char} (h : '"' ∉ text) (cs : List Char) :
    readAll between (text ++ cs) = readAll between cs := by
  induction text with
  | nil => rfl
  | cons c text ih =>
    obtain ⟨hc, htext⟩ := not_or.mp (List.mem_cons.not.mp h)
    rw [List.cons_append, readAll, if_neg (Ne.symm hc), ih htext]

end Cursor

/-! ## Texts in which quoted texts are shown -/

/-- The quoted texts in a text are the given ones, whatever stands behind it. -/
def Shows (text : String) (texts : List String) : Prop :=
  ∀ cs, Cursor.between.readAll (text.toList ++ cs) = texts ++ Cursor.between.readAll cs

section Shows

variable {text text' : String} {texts texts' : List String}

/-- What a text shows is what is found in it. -/
theorem Shows.quotedIn_eq (h : Shows text texts) : quotedIn text = texts := by
  have hall := h []
  rwa [List.append_nil, Cursor.readAll, List.append_nil] at hall

/-- What a text shows is determined by it. -/
theorem Shows.unique (h : Shows text texts) (h' : Shows text texts') : texts = texts' := by
  rw [← h.quotedIn_eq, h'.quotedIn_eq]

/-- What is shown in two texts is shown in a row in both together. -/
theorem Shows.append (h : Shows text texts) (h' : Shows text' texts') :
    Shows (text ++ text') (texts ++ texts') := by
  intro cs
  rw [String.toList_append, List.append_assoc, h, h', List.append_assoc]

/-- A text without quotes shows nothing. -/
theorem shows_bare (h : '"' ∉ text.toList) : Shows text [] := fun cs => Cursor.readAll_bare h cs

/-- A quoted text shows what it quotes, whatever characters it has. -/
theorem shows_quoted (s : String) : Shows (quoted s) [s] := by
  intro cs
  rw [toList_quoted, enclose, List.cons_append, Cursor.readAll, if_pos rfl, List.append_assoc,
    List.singleton_append, Cursor.readAll_inside, List.nil_append, String.ofList_toList]
  rfl

/-- What stands around a text and shows nothing itself makes no difference. -/
theorem Shows.framed (h : Shows text texts) {front behind : String} (hfront : Shows front [])
    (hbehind : Shows behind []) : Shows (front ++ text ++ behind) texts := by
  have hall := (hfront.append h).append hbehind
  rwa [List.nil_append, List.append_nil] at hall

end Shows

namespace Layout

/-- Quoted texts are shown with anything between them that shows nothing. -/
theorem shows_separated {separator : String} (h : Shows separator []) (texts : List String) :
    Shows (separated separator (texts.map Text.quoted)) texts := by
  induction texts with
  | nil => exact shows_bare List.not_mem_nil
  | cons s texts ih =>
    cases texts with
    | nil => exact shows_quoted s
    | cons t texts => exact ((shows_quoted s).append h).append ih

/-- A new line shows nothing. -/
theorem shows_newLine (depth : Nat) : Shows (newLine depth) [] := shows_bare (by simp [newLine])

/-- Quoted texts are shown on lines of their own. -/
theorem shows_itemLines (depth : Nat) (texts : List String) :
    Shows (itemLines depth (texts.map Text.quoted)) texts := by
  induction texts with
  | nil => exact shows_bare List.not_mem_nil
  | cons s texts ih =>
    have hline : Shows (newLine depth ++ Text.quoted s ++ ",") [s] :=
      (shows_quoted s).framed (shows_newLine depth) (shows_bare (by decide))
    exact hline.append ih

/-- A compact list shows its texts. -/
theorem shows_compact_ofTexts (texts : List String) : Shows (ofTexts texts).compact texts := by
  have htexts : (ofTexts texts).compact = "[" ++ separated ", " (texts.map Text.quoted) ++ "]" := by
    rw [ofTexts, compact, compactItems_eq_map, List.map_map]
    simp only [Function.comp_def, compact]
  rw [htexts]
  exact (shows_separated (shows_bare (by decide)) texts).framed (shows_bare (by decide))
    (shows_bare (by decide))

/-- A list over several lines shows its texts, at any depth. -/
theorem shows_prettyAt_ofTexts (depth : Nat) (texts : List String) :
    Shows ((ofTexts texts).prettyAt depth) texts := by
  cases texts with
  | nil => exact shows_bare (by simp [ofTexts, prettyAt])
  | cons s texts =>
    have htexts : (ofTexts (s :: texts)).prettyAt depth
        = "[" ++ itemLines (depth + 1) ((s :: texts).map Text.quoted)
          ++ (newLine depth ++ "]") := by
      rw [ofTexts, List.map_cons, prettyAt, prettyItems_eq_map, ← List.map_cons, List.map_map,
        block]
      simp only [Function.comp_def, prettyAt, String.append_assoc]
    rw [htexts]
    exact (shows_itemLines (depth + 1) (s :: texts)).framed (shows_bare (by decide))
      ((shows_newLine depth).append (shows_bare (by decide)))

end Layout

end Text

open Text (Layout Shows shows_bare quotedIn)

/-! ## Settings -/

namespace Settings

/-- The words of settings, with fixed texts around them. -/
def worded (front middle behind : String) (s : Settings) : String :=
  front ++ s.unreachable.layout.compact ++ (middle ++ boolText s.logUnhandled ++ behind)

/-- The words of policies begin with different letters. -/
theorem policy_eq_of_word {p q : Policy} {behind behind' : String}
    (h : p.layout.compact ++ behind = q.layout.compact ++ behind') : p = q := by
  have hfirst := congrArg (fun text => text.toList.head?) h
  cases p <;> cases q <;> simp [Policy.layout, Layout.compact] at hfirst ⊢

/-- Words with fixed texts around them tell the settings. -/
theorem worded_injective (front middle behind : String) :
    Function.Injective (worded front middle behind) := by
  rintro ⟨p, b⟩ ⟨q, c⟩ h
  simp only [worded, String.append_assoc, String.append_right_inj] at h
  obtain rfl := policy_eq_of_word h
  simp only [← String.append_assoc, String.append_left_inj, String.append_right_inj] at h
  have hbool : b = c := by cases b <;> cases c <;> simp [boolText] at h ⊢
  rw [hbool]

/-- The words of settings show nothing, as they have no quotes. -/
theorem shows_worded {front middle behind : String} (hfront : Shows front [])
    (hmiddle : Shows middle []) (hbehind : Shows behind []) (s : Settings) :
    Shows (s.worded front middle behind) [] := by
  have hpolicy : Shows s.unreachable.layout.compact [] := by
    cases s.unreachable <;> exact shows_bare (by decide)
  have hbool : Shows (boolText s.logUnhandled) [] := by
    cases s.logUnhandled <;> exact shows_bare (by decide)
  exact hpolicy.framed hfront (hbool.framed hmiddle hbehind)

/-- Compact settings are their words between fixed texts. -/
theorem compact_layout (s : Settings) : s.layout.compact =
    s.worded "DispatchConfig \x7b unreachable_cases: " ", log_unhandled: " " \x7d" := by
  apply String.toList_injective
  simp [layout, worded, Layout.compact, Layout.compactFields, Layout.separated, Field.name]

/-- Settings over several lines inside a draft are the same words between other texts. -/
theorem prettyAt_layout (s : Settings) : s.layout.prettyAt 1 =
    s.worded "DispatchConfig \x7b\n        unreachable_cases: " ",\n        log_unhandled: "
      ",\n    \x7d" := by
  have hword : s.unreachable.layout.prettyAt 2 = s.unreachable.layout.compact := by
    cases s.unreachable <;> rfl
  apply String.toList_injective
  simp [layout, worded, Layout.prettyAt, Layout.prettyFields, Layout.block, Layout.itemLines,
    Layout.newLine, List.replicate, Field.name, hword]

end Settings

/-! ## Dispatchers and drafts -/

variable {σ ν In Out E σ' ν' In' Out' E' : Type}

namespace Dispatcher

/-- The compact text of a dispatcher is the list of its labels between fixed texts. -/
theorem compact_layout (d : Dispatcher σ ν In Out E) : d.layout.compact =
    "Dispatcher \x7b cases: " ++ (Layout.ofTexts d.labels).compact ++ ", .. \x7d" := by
  apply String.toList_injective
  simp [layout, Layout.compact, Layout.compactFields, Layout.separated]

/-- Over several lines the text of a dispatcher is the list of its labels between other texts. -/
theorem pretty_layout (d : Dispatcher σ ν In Out E) : d.layout.pretty =
    "Dispatcher \x7b\n    cases: " ++ (Layout.ofTexts d.labels).prettyAt 1
      ++ ",\n    ..\n\x7d" := by
  apply String.toList_injective
  simp [layout, Layout.pretty, Layout.prettyAt, Layout.prettyFields, Layout.openBlock,
    Layout.itemLines, Layout.newLine, List.replicate]

/-- The compact text of a dispatcher shows its labels. -/
theorem shows_compact (d : Dispatcher σ ν In Out E) : Shows d.layout.compact d.labels := by
  rw [compact_layout]
  exact (Layout.shows_compact_ofTexts d.labels).framed (shows_bare (by decide))
    (shows_bare (by decide))

/-- The text of a dispatcher over several lines shows its labels. -/
theorem shows_pretty (d : Dispatcher σ ν In Out E) : Shows d.layout.pretty d.labels := by
  rw [pretty_layout]
  exact (Layout.shows_prettyAt_ofTexts 1 d.labels).framed (shows_bare (by decide))
    (shows_bare (by decide))

variable {d : Dispatcher σ ν In Out E} {e : Dispatcher σ' ν' In' Out' E'}

/-- Nothing but the labels is shown. -/
theorem layout_congr (h : d.labels = e.labels) : d.layout = e.layout := by
  rw [layout, layout, h]

/-- Compact texts are equal exactly for dispatchers with the same labels. -/
theorem compact_eq_iff : d.layout.compact = e.layout.compact ↔ d.labels = e.labels := by
  constructor
  · intro h
    exact d.shows_compact.unique (h ▸ e.shows_compact)
  · intro h
    rw [layout_congr h]

/-- Texts over several lines are equal exactly for dispatchers with the same labels. -/
theorem pretty_eq_iff : d.layout.pretty = e.layout.pretty ↔ d.labels = e.labels := by
  constructor
  · intro h
    exact d.shows_pretty.unique (h ▸ e.shows_pretty)
  · intro h
    rw [layout_congr h]

end Dispatcher

namespace Draft

/-- The compact text of a draft is the list of its labels and its settings between fixed texts. -/
theorem compact_layout (d : Draft σ ν In Out E) : d.layout.compact =
    "Builder \x7b cases: " ++ (Layout.ofTexts d.labels).compact
      ++ (", config: " ++ d.settings.layout.compact ++ " \x7d") := by
  apply String.toList_injective
  simp [layout, Layout.compact, Layout.compactFields, Layout.separated]

/-- Over several lines the text of a draft is the list of its labels and its settings between other
texts. -/
theorem pretty_layout (d : Draft σ ν In Out E) : d.layout.pretty =
    "Builder \x7b\n    cases: " ++ (Layout.ofTexts d.labels).prettyAt 1
      ++ (",\n    config: " ++ d.settings.layout.prettyAt 1 ++ ",\n\x7d") := by
  apply String.toList_injective
  simp [layout, Layout.pretty, Layout.prettyAt, Layout.prettyFields, Layout.block,
    Layout.itemLines, Layout.newLine, List.replicate]

/-- The compact text of a draft shows its labels. -/
theorem shows_compact (d : Draft σ ν In Out E) : Shows d.layout.compact d.labels := by
  rw [compact_layout, Settings.compact_layout]
  refine (Layout.shows_compact_ofTexts d.labels).framed ?_
    ((d.settings.shows_worded ?_ ?_ ?_).framed ?_ ?_) <;> exact shows_bare (by decide)

/-- The text of a draft over several lines shows its labels. -/
theorem shows_pretty (d : Draft σ ν In Out E) : Shows d.layout.pretty d.labels := by
  rw [pretty_layout, Settings.prettyAt_layout]
  refine (Layout.shows_prettyAt_ofTexts 1 d.labels).framed ?_
    ((d.settings.shows_worded ?_ ?_ ?_).framed ?_ ?_) <;> exact shows_bare (by decide)

variable {d : Draft σ ν In Out E} {e : Draft σ' ν' In' Out' E'}

/-- Nothing but the labels and the settings is shown. -/
theorem layout_congr (hlabels : d.labels = e.labels) (hsettings : d.settings = e.settings) :
    d.layout = e.layout := by
  rw [layout, layout, hlabels, hsettings]

-- the lists of labels are read back first; what is left of the texts behind them are the settings
/-- Compact texts are equal exactly for drafts with the same labels and the same settings. -/
theorem compact_eq_iff :
    d.layout.compact = e.layout.compact ↔ d.labels = e.labels ∧ d.settings = e.settings := by
  constructor
  · intro h
    have hlabels : d.labels = e.labels := d.shows_compact.unique (h ▸ e.shows_compact)
    rw [compact_layout, compact_layout, hlabels, Settings.compact_layout, Settings.compact_layout,
      String.append_right_inj, String.append_left_inj, String.append_right_inj] at h
    exact ⟨hlabels, Settings.worded_injective _ _ _ h⟩
  · rintro ⟨hlabels, hsettings⟩
    rw [layout_congr hlabels hsettings]

/-- Texts over several lines are equal exactly for drafts with the same labels and the same
settings. -/
theorem pretty_eq_iff :
    d.layout.pretty = e.layout.pretty ↔ d.labels = e.labels ∧ d.settings = e.settings := by
  constructor
  · intro h
    have hlabels : d.labels = e.labels := d.shows_pretty.unique (h ▸ e.shows_pretty)
    rw [pretty_layout, pretty_layout, hlabels, Settings.prettyAt_layout, Settings.prettyAt_layout,
      String.append_right_inj, String.append_left_inj, String.append_right_inj] at h
    exact ⟨hlabels, Settings.worded_injective _ _ _ h⟩
  · rintro ⟨hlabels, hsettings⟩
    rw [layout_congr hlabels hsettings]

end Draft

/-- What the texts of two dispatchers and of two drafts tell of them. -/
structure TextsIdentify (d : Dispatcher σ ν In Out E) (e : Dispatcher σ' ν' In' Out' E')
    (b : Draft σ ν In Out E) (c : Draft σ' ν' In' Out' E') : Prop where
  /-- Dispatchers with equal texts have the same labels. -/
  dispatcher_compact : d.layout.compact = e.layout.compact ↔ d.labels = e.labels
  dispatcher_pretty : d.layout.pretty = e.layout.pretty ↔ d.labels = e.labels
  /-- Drafts with equal texts have the same labels and the same settings. -/
  draft_compact :
    b.layout.compact = c.layout.compact ↔ b.labels = c.labels ∧ b.settings = c.settings
  draft_pretty :
    b.layout.pretty = c.layout.pretty ↔ b.labels = c.labels ∧ b.settings = c.settings
  /-- The labels of a dispatcher are the quoted texts in its text. -/
  dispatcher_labels : quotedIn d.layout.compact = d.labels ∧ quotedIn d.layout.pretty = d.labels
  /-- The labels of a draft are the quoted texts in its text. -/
  draft_labels : quotedIn b.layout.compact = b.labels ∧ quotedIn b.layout.pretty = b.labels

/-- Dispatchers are shown alike, compact or pretty, exactly if they have the same labels, and drafts
exactly if they have the same labels and the same settings.  The labels can be read back from the
text: they are what stands in quotes there. -/
theorem shown_texts_identify (d : Dispatcher σ ν In Out E) (e : Dispatcher σ' ν' In' Out' E')
    (b : Draft σ ν In Out E) (c : Draft σ' ν' In' Out' E') : TextsIdentify d e b c where
  dispatcher_compact := Dispatcher.compact_eq_iff
  dispatcher_pretty := Dispatcher.pretty_eq_iff
  draft_compact := Draft.compact_eq_iff
  draft_pretty := Draft.pretty_eq_iff
  dispatcher_labels := ⟨d.shows_compact.quotedIn_eq, d.shows_pretty.quotedIn_eq⟩
  draft_labels := ⟨b.shows_compact.quotedIn_eq, b.shows_pretty.quotedIn_eq⟩

/-- One label that looks like two, and an empty one. -/
example : quotedIn "Dispatcher \x7b cases: [\"a\\\", \\\"b\", \"\"], .. \x7d"
    = ["a\", \"b", ""] := by decide

end FirstMatch
