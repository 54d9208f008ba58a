/-
# Options

The options are a JSON object with up to three members, or the list of their
values in a fixed order. Members with other names are passed over. Reading is
all or nothing: a member that is given twice or has the wrong type, or text
after the end, makes the whole text malformed.

Key definitions: `Options`, `Options.standard`, `Settings`, `readFound`,
`readObject`, `readList`, `Options.read`, `Options.ofText`.
-/
import HotReload.Failure
import HotReload.Json.Skip
import HotReload.Text.Blank

namespace HotReload

open Json

/-- How programs are rewritten and whether that is reported: `container` is the
selector of the element that error reports are shown in, and `disableModel`
leaves the models out of the hot-reload unit. -/
structure Options where
  quiet : Bool
  container : String
  disableModel : Bool
deriving DecidableEq

/-- The options that hold where nothing else is said. -/
def Options.standard : Options := ⟨false, "#root", false⟩

/-- Whether the hot-reload unit reloads models. -/
def Options.reloadsModels (o : Options) : Bool := !o.disableModel

/-- The options that a text sets; the others keep their standard value. -/
structure Settings where
  quiet : Option Bool
  container : Option String
  disableModel : Option Bool
deriving DecidableEq

/-- Nothing is set. -/
def Settings.none : Settings := ⟨.none, .none, .none⟩

/-- The options with the given settings. -/
def Settings.apply (s : Settings) : Options :=
  ⟨s.quiet.getD Options.standard.quiet, s.container.getD Options.standard.container,
    s.disableModel.getD Options.standard.disableModel⟩

/-- Reads a value as far as its kind is concerned. Lists and objects are
recognized by their first character and not read. -/
def readFound : List Char → Reading Found
  | [] => .error (Problem.endOfValue.next [])
  | 'n' :: text => (readWord ['u', 'l', 'l'] text).map (Found.null, ·)
  | 't' :: text => (readWord ['r', 'u', 'e'] text).map (Found.boolean true, ·)
  | 'f' :: text => (readWord ['a', 'l', 's', 'e'] text).map (Found.boolean false, ·)
  | '\x22' :: text => (readString text).map fun p => (Found.string (String.ofList p.1), p.2)
  | '[' :: text => .ok (.list, '[' :: text)
  | '\x7b' :: text => .ok (.object, '\x7b' :: text)
  | c :: text =>
    if c = '-' ∨ c.isDigit then readNumber (c :: text)
    else .error (Problem.noValue.next (c :: text))

/-- Reads a boolean. -/
def readBoolean (text : List Char) : Reading Bool :=
  (readFound (skipBlanks text)).bind fun
    | (.boolean value, rest) => .ok (value, rest)
    | (found, rest) => .error ((Problem.invalidType found "a boolean").here rest)

/-- Reads a string. -/
def readText (text : List Char) : Reading String :=
  (readFound (skipBlanks text)).bind fun
    | (.string value, rest) => .ok (value, rest)
    | (found, rest) => .error ((Problem.invalidType found "a string").here rest)

/-- The options by their names. -/
inductive OptionName where
  | quiet
  | container
  | disableModel
deriving DecidableEq

namespace OptionName

/-- The key of an option. -/
def key : OptionName → String
  | quiet => "quiet"
  | container => "container"
  | disableModel => "disableModel"

/-- The option with the given key. -/
def ofKey? (k : String) : Option OptionName :=
  [quiet, container, disableModel].find? (·.key == k)

/-- Whether the option is set. -/
def isSet (s : Settings) : OptionName → Bool
  | quiet => s.quiet.isSome
  | container => s.container.isSome
  | disableModel => s.disableModel.isSome

/-- Reads the value of an option. -/
def readValue (s : Settings) (text : List Char) : OptionName → Reading Settings
  | quiet => (readBoolean text).map fun p => ({ s with quiet := some p.1 }, p.2)
  | container => (readText text).map fun p => ({ s with container := some p.1 }, p.2)
  | disableModel => (readBoolean text).map fun p => ({ s with disableModel := some p.1 }, p.2)

end OptionName

/-- Reads the colon after a key. -/
def readColon (text : List Char) : Except Fault (List Char) :=
  match skipBlanks text with
  | [] => .error (Problem.endOfObject.next [])
  | ':' :: text => .ok text
  | text => .error (Problem.noColon.next text)

/-- The fault of a key that was given before. It is found when the object is
left, so a closing brace after the key is consumed. -/
def repeatedFault (name : OptionName) (text : List Char) : Fault :=
  match skipBlanks text with
  | '\x7d' :: text => (Problem.duplicateField name.key).here text
  | text => (Problem.duplicateField name.key).here text

/-- Reads a member of an object: an option, or another member that is passed
over. -/
def readMember (s : Settings) : List Char → Reading Settings
  | '\x22' :: text =>
    (readString text).bind fun (k, text) =>
      match OptionName.ofKey? (String.ofList k) with
      | none => (readColon text).bind fun text => (skipValue (text.length + 1) text).map (s, ·)
      | some name =>
        if name.isSet s then .error (repeatedFault name text)
        else (readColon text).bind fun text => name.readValue s text
  | text => .error (Problem.keyNotString.next text)

/-- The text of the next member: after a comma, except before the first one. -/
def nextMember (first : Bool) (text : List Char) : Except Fault (List Char) :=
  if first then .ok text
  else
    match text with
    | ',' :: text =>
      match skipBlanks text with
      | [] => .error (Problem.endOfValue.next [])
      | '\x7d' :: text => .error (Problem.trailingComma.next ('\x7d' :: text))
      | text => .ok text
    | text => .error (Problem.noObjectEnd.next text)

/-- Reads the members of an object up to its end; the opening brace has been
read. The first argument bounds their number. -/
def readObject : Nat → Bool → Settings → List Char → Reading Settings
  | 0, _, _, text => .error (Problem.endOfObject.here text)
  | fuel + 1, first, s, text =>
    match skipBlanks text with
    | [] => .error (Problem.endOfObject.next [])
    | '\x7d' :: text => .ok (s, text)
    | text =>
      (nextMember first text).bind fun text =>
        (readMember s text).bind fun p => readObject fuel false p.1 p.2

/-- Reads an entry of a list, or nothing if the list ends here. -/
def readEntry (first : Bool) (s : Settings) (name : OptionName) (text : List Char) :
    Reading Settings :=
  match skipBlanks text with
  | [] => .error (Problem.endOfList.next [])
  | ']' :: text => .ok (s, ']' :: text)
  | text =>
    if first then name.readValue s text
    else
      match text with
      | ',' :: text =>
        match skipBlanks text with
        | [] => .error (Problem.endOfValue.next [])
        | ']' :: text => .error (Problem.trailingComma.next (']' :: text))
        | text => name.readValue s text
      | text => .error (Problem.noListEnd.next text)

/-- Reads the end of a list. -/
def readListEnd (text : List Char) : Except Fault (List Char) :=
  match skipBlanks text with
  | [] => .error (Problem.endOfList.next [])
  | ']' :: text => .ok text
  | ',' :: text =>
    match skipBlanks text with
    | ']' :: text => .error (Problem.trailingComma.next (']' :: text))
    | text => .error (Problem.trailingCharacters.next text)
  | text => .error (Problem.trailingCharacters.next text)

/-- Reads a list of at most three entries up to its end; the opening bracket has
been read. -/
def readList (text : List Char) : Reading Settings :=
  (readEntry true .none .quiet text).bind fun (s, text) =>
    (readEntry false s .container text).bind fun (s, text) =>
      (readEntry false s .disableModel text).bind fun (s, text) =>
        (readListEnd text).map (s, ·)

/-- Reads an object or a list of options. -/
def readSettings (text : List Char) : Reading Settings :=
  match skipBlanks text with
  | '\x7b' :: text => readObject (text.length + 1) true .none text
  | '[' :: text => readList text
  | text =>
    (readFound text).bind fun (found, rest) =>
      .error ((Problem.invalidType found "struct HmrConfig").here rest)

namespace Options

/-- The options of a text that is not empty; nothing may follow them. -/
def read (text : List Char) : Except Fault Options :=
  (readSettings text).bind fun (s, rest) =>
    match skipBlanks rest with
    | [] => .ok s.apply
    | rest => .error (Problem.trailingCharacters.next rest)

/-- The options that a host gives as text. No text, or nothing but white space,
sets nothing. -/
def ofText (text : Option String) : Except Failure Options :=
  match trimBlanks (text.getD "").toList with
  | [] => .ok standard
  | text => (read text).mapError fun fault => .malformedOptions (fault.message text)

end Options

end HotReload
