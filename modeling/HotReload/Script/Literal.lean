/-
# Literals and names of a script

Every reader takes the text at the literal and gives what it read together with
the text after it.

Key definitions: `readString`, `readTemplateText`, `readRegExp`, `readName`,
`readNumber`.
-/
import HotReload.Decimal.Shortest
import HotReload.Script.Escape
import HotReload.Script.Token
import HotReload.Text.Identifier

namespace HotReload

namespace Script

/-! ### Strings and templates -/

/-- Reads a string after its opening quotation mark: its value, its source text
up to the closing mark, and the text after that. A line can only end in it after
a backslash. -/
def stringBody (quotation : Char) :
    EscapeMode → List Char → Except Fault (List Char × List Char × List Char)
  | _, [] => .error .unterminatedString
  | mode, c :: cs =>
    match (if mode = .afterReturn ∧ c = '\n' then none else mode.pending) with
    | some value =>
      if c = quotation then .ok (value, [c], cs)
      else if c = '\n' ∨ c = '\r' then .error .unterminatedString
      else
        match mode.step true c with
        | .emit text next =>
          (stringBody quotation next cs).map fun (value, raw, rest) => (text ++ value, c :: raw, rest)
        | .malformed => .error .malformedEscape
    | none =>
      match mode.step true c with
      | .emit text next =>
        (stringBody quotation next cs).map fun (value, raw, rest) => (text ++ value, c :: raw, rest)
      | .malformed => .error .malformedEscape

/-- Whether the source text of a string has an escape that strict code forbids:
a digit after a backslash, except a zero with no digit after it. -/
def hasOctalEscape : List Char → Bool
  | '\x5c' :: '0' :: d :: cs => d.isDigit || hasOctalEscape (d :: cs)
  | '\x5c' :: c :: cs => (c != '0' && c.isDigit) || hasOctalEscape cs
  | _ :: cs => hasOctalEscape cs
  | [] => false

/-- Reads a string, which begins with the given quotation mark. -/
def readString (quotation : Char) (text : List Char) : Except Fault (Token × List Char) :=
  (stringBody quotation .plain text).map fun (value, raw, rest) =>
    (.string (String.ofList value) (String.ofList (quotation :: raw)) (hasOctalEscape raw), rest)

/-- The source text of a template up to its end or the next expression in it;
the flag tells that a backslash stands before the text. -/
def templateBody : Bool → List Char → Option (List Char × List Char)
  | _, [] => none
  | true, c :: cs => (templateBody false cs).map fun p => (c :: p.1, p.2)
  | false, c :: cs =>
    if c = '\x60' ∨ (c = '$' ∧ cs.head? = some '\x7b') then some ([], c :: cs)
    else (templateBody (c == '\x5c') cs).map fun p => (c :: p.1, p.2)

/-- The text with a line feed for every line end that has a carriage return. -/
def unifyLineEnds : List Char → List Char
  | '\r' :: '\n' :: cs => '\n' :: unifyLineEnds cs
  | '\r' :: cs => '\n' :: unifyLineEnds cs
  | c :: cs => c :: unifyLineEnds cs
  | [] => []

/-- Reads text in a template. -/
def readTemplateText (text : List Char) : Except Fault (Token × List Char) :=
  match templateBody false text with
  | some (raw, rest) =>
    let raw := unifyLineEnds raw
    .ok (.templateText ((cook .plain raw).map String.ofList) (String.ofList raw), rest)
  | none => .error .unterminatedTemplate

/-! ### Names -/

/-- Whether a name can start with the character. -/
def isNameStart (c : Char) : Bool :=
  c.isAlpha || c == '$' || c == '_' ||
    (0x80 ≤ c.toNat && CodePoints.identifierStart.contains c.toNat)

/-- Whether a name can go on with the character. -/
def isNamePart (c : Char) : Bool :=
  c.isAlphanum || c == '$' || c == '_' ||
    (0x80 ≤ c.toNat &&
      (CodePoints.identifierContinue.contains c.toNat || c.toNat == 0x200c || c.toNat == 0x200d))

/-- Reads the characters of a name; they can be written as Unicode escapes.
Tells whether any of them is, and gives the text after the name. -/
def nameBody : EscapeMode → List Char → Except Fault (List Char × Bool × List Char)
  | mode, [] => if mode = .plain then .ok ([], false, []) else .error .malformedEscape
  | .plain, c :: cs =>
    if isNamePart c then
      (nameBody .plain cs).map fun (name, escaped, rest) => (c :: name, escaped, rest)
    else if c = '\x5c' then
      (nameBody .started cs).map fun (name, _, rest) => (name, true, rest)
    else .ok ([], false, c :: cs)
  | .started, c :: cs => if c = 'u' then nameBody .unicode cs else .error .malformedEscape
  | mode, c :: cs =>
    match mode.step false c with
    | .emit text next =>
      if text.all isNamePart then
        (nameBody next cs).map fun (name, escaped, rest) => (text ++ name, escaped, rest)
      else .error .malformedEscape
    | .malformed => .error .malformedEscape

/-- Reads a name: its characters, whether any of them is written as an escape,
and the text after it. -/
def readName (text : List Char) : Except Fault (String × Bool × List Char) :=
  (nameBody .plain text).bind fun (name, escaped, rest) =>
    if name.head?.any isNameStart then .ok (String.ofList name, escaped, rest)
    else .error .malformedEscape

/-- Reads a word or another name. A reserved word must not be written with
escapes; other words so written mean nothing to the grammar. -/
def readWord (text : List Char) : Except Fault (Token × List Char) :=
  (readName text).bind fun (name, escaped, rest) =>
    match Word.ofText? name with
    | some w =>
      if !escaped then .ok (.word w, rest)
      else if w.reserved then .error (.keywordWithEscape name)
      else .ok (.name name, rest)
    | none => .ok (.name name, rest)

/-! ### Regular expressions -/

/-- The text of a regular expression up to the slash that ends it. The flags
tell whether a bracket is open and whether a backslash stands before. -/
def regExpBody : Bool → Bool → List Char → Option (List Char × List Char)
  | _, _, [] => none
  | bracket, escaped, c :: cs =>
    if isLineEnd c then none
    else if escaped then (regExpBody bracket false cs).map fun p => (c :: p.1, p.2)
    else if c = '/' ∧ !bracket then some ([], cs)
    else
      let bracket := if c = '[' then true else if c = ']' then false else bracket
      (regExpBody bracket (c == '\x5c') cs).map fun p => (c :: p.1, p.2)

/-- Whether all flags of a regular expression are known and none is repeated. -/
def validFlags (flags : List Char) : Bool :=
  flags.all (['d', 'g', 'i', 'm', 's', 'u', 'v', 'y'].contains ·) && flags.eraseDups == flags

/-- Reads a regular expression after its first slash. -/
def readRegExp (text : List Char) : Except Fault (Token × List Char) :=
  match regExpBody false false text with
  | some (pattern, rest) =>
    let flags := rest.takeWhile isNamePart
    if validFlags flags then
      .ok (.regExp (String.ofList pattern) (String.ofList flags), rest.dropWhile isNamePart)
    else .error (.unknownFlags (String.ofList flags))
  | none => .error .unterminatedRegExp

/-! ### Numbers -/

/-- The number as decimal digits: in full if it is whole, and otherwise the
shortest ones that read back. -/
def numeralOf (x : Binary64) : Numeral :=
  let (n, d) := x.ratio
  if n % d = 0 then ⟨(n / d : Nat), 0⟩
  else
    let s := x.shortest
    if 0 ≤ s.exponent then ⟨(s.digits * powTen s.exponent.toNat : Nat), 0⟩
    else ⟨s.digits, (-s.exponent).toNat⟩

/-- The value of digits in a base; underscores between them mean nothing. -/
def digitsValue (base : Nat) (digits : List Char) : Nat :=
  digits.foldl (fun n c => match hexDigit? c with | some d => n * base + d | none => n) 0

/-- Whether a digit of the base, or an underscore between digits, is at hand. -/
def isDigitOrGap (base : Nat) (c : Char) : Bool := (hexDigit? c).any (· < base) || c == '_'

/-- Reads digits of a base with single underscores between them; gives the
source text of the digits and the text after them. -/
def digitGroup (base : Nat) (text : List Char) : Except Fault (List Char × List Char) :=
  let group := text.takeWhile (isDigitOrGap base)
  if group.head? == some '_' || group.getLast? == some '_' ||
      (group.zip (group.drop 1)).contains ('_', '_') then .error .malformedNumber
  else .ok (group, text.dropWhile (isDigitOrGap base))

/-- The number of digits, underscores apart. -/
def digitCount (group : List Char) : Nat := group.countP (· != '_')

/-- No name and no digit may follow a number without a blank. -/
def endNumber (token : Token) (rest : List Char) : Except Fault (Token × List Char) :=
  if rest.head?.any fun c => isNameStart c || c.isDigit || c == '\x5c' then .error .malformedNumber
  else .ok (token, rest)

/-- The token of a whole number, and of a big integer if the letter for it
follows. -/
def wholeNumber (value : Nat) (raw rest : List Char) : Except Fault (Token × List Char) :=
  match rest with
  | 'n' :: rest => endNumber (.bigInt value (String.ofList (raw ++ ['n']))) rest
  | rest =>
    endNumber (.number ((Binary64.ofRatio? value 1).map numeralOf) (String.ofList raw) false) rest

/-- Reads an integer in the given base after its two leading characters. -/
def readInBase (base : Nat) (lead text : List Char) : Except Fault (Token × List Char) :=
  (digitGroup base text).bind fun (group, rest) =>
    if group.isEmpty then .error .malformedNumber
    else wholeNumber (digitsValue base group) (lead ++ group) rest

/-- The value of decimal digits times a power of ten. A power that puts the
number far outside the format is not computed. -/
def decimalValue (digits : List Char) (exponent : Int) : Option Numeral :=
  let value := digitsValue 10 digits
  if value = 0 then some ⟨0, 0⟩
  else if 400 < exponent + digitCount digits then none
  else if exponent + digitCount digits < -400 then some ⟨0, 0⟩
  else if 0 ≤ exponent then (Binary64.ofRatio? (value * powTen exponent.toNat) 1).map numeralOf
  else (Binary64.ofRatio? value (powTen (-exponent).toNat)).map numeralOf

/-- Reads the exponent of a decimal number, if one follows: its value and its
source text. -/
def readPower (text : List Char) : Except Fault (Int × List Char × List Char) :=
  match text with
  | c :: tail =>
    if c = 'e' ∨ c = 'E' then
      let (sign, tail) :=
        match tail with
        | '-' :: tail => (['-'], tail)
        | '+' :: tail => (['+'], tail)
        | tail => ([], tail)
      (digitGroup 10 tail).bind fun (group, rest) =>
        if group.isEmpty then .error .malformedNumber
        else
          let value : Int := digitsValue 10 group
          .ok (if sign = ['-'] then -value else value, c :: (sign ++ group), rest)
    else .ok (0, [], text)
  | [] => .ok (0, [], [])

/-- Reads the fraction of a decimal number, if one follows: its point and its
digits. -/
def readFraction (text : List Char) : Except Fault (List Char × List Char × List Char) :=
  match text with
  | '.' :: tail => (digitGroup 10 tail).bind fun (group, rest) => .ok (['.'], group, rest)
  | text => .ok ([], [], text)

/-- Reads what follows the whole part of a decimal number. -/
def readDecimalTail (whole text : List Char) : Except Fault (Token × List Char) :=
  (readFraction text).bind fun (point, fraction, rest) =>
    (readPower rest).bind fun (power, powerText, rest) =>
      endNumber
        (.number (decimalValue (whole ++ fraction) (power - digitCount fraction))
          (String.ofList (whole ++ point ++ fraction ++ powerText)) false) rest

/-- Reads a decimal number. -/
def readDecimal (text : List Char) : Except Fault (Token × List Char) :=
  (digitGroup 10 text).bind fun (whole, rest) =>
    match rest with
    | 'n' :: _ => wholeNumber (digitsValue 10 whole) whole rest
    | rest => readDecimalTail whole rest

/-- Reads a number that begins with a zero and another digit: in base eight if
all its digits are below eight, and otherwise in base ten, where a fraction or
an exponent may follow. -/
def readZeroLed (text : List Char) : Except Fault (Token × List Char) :=
  let digits := text.takeWhile Char.isDigit
  let rest := text.dropWhile Char.isDigit
  let octal (r : Token × List Char) : Token × List Char :=
    match r with
    | (.number value raw _, rest) => (.number value raw true, rest)
    | r => r
  if digits.all isOctalDigit then
    endNumber (.number ((Binary64.ofRatio? (digitsValue 8 digits) 1).map numeralOf)
      (String.ofList digits) true) rest
  else (readDecimalTail digits rest).map octal

/-- Reads a number. -/
def readNumber (text : List Char) : Except Fault (Token × List Char) :=
  match text with
  | '0' :: c :: tail =>
    if c = 'x' ∨ c = 'X' then readInBase 16 ['0', c] tail
    else if c = 'o' ∨ c = 'O' then readInBase 8 ['0', c] tail
    else if c = 'b' ∨ c = 'B' then readInBase 2 ['0', c] tail
    else if c.isDigit then readZeroLed text
    else if c = '_' then .error .malformedNumber
    else readDecimal text
  | text => readDecimal text

end Script

end HotReload
