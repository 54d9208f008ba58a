/-
# Words, strings and numbers of JSON text

Every reader takes the text and gives what it read together with the text that
follows, or the fault that it met. Strings are read in full: escapes are
replaced and surrogate pairs joined. A number is an integer if it is written as
one and fits 64 bits; any other is a binary floating point number, made from at
most 64 bits of its digits and one scaling by a power of ten.

Key definitions: `Json.Reading`, `Json.skipBlanks`, `Json.readWord`,
`Json.readString`, `Json.readNumber`.
-/
import HotReload.Json.Fault
import HotReload.Text.Hex

namespace HotReload

namespace Json

/-- What a reader gives: a value and the text after it, or a fault. -/
abbrev Reading (α : Type) : Type := Except Fault (α × List Char)

/-- The text without the blanks at its front. -/
def skipBlanks (text : List Char) : List Char :=
  text.dropWhile fun c => c == ' ' || c == '\t' || c == '\n' || c == '\r'

/-- Reads the letters of a word. -/
def readWord : List Char → List Char → Except Fault (List Char)
  | [], text => .ok text
  | _ :: _, [] => .error (Problem.endOfValue.here [])
  | w :: ws, c :: text =>
    if c = w then readWord ws text else .error (Problem.misspelledWord.next (c :: text))

/-- The value of four hexadecimal digits. -/
def hexValue? (a b c d : Char) : Option Nat := do
  let a ← hexDigit? a
  let b ← hexDigit? b
  let c ← hexDigit? c
  let d ← hexDigit? d
  return ((a * 16 + b) * 16 + c) * 16 + d

/-- The fault where four hexadecimal digits should stand. -/
def hexFault (text : List Char) : Fault :=
  if byteLength text < 4 then Problem.endOfString.here [] else ⟨.invalidEscape, text, 4⟩

/-- The character that a one-letter escape stands for. -/
def simpleEscape? (c : Char) : Option Char :=
  if c = '\x22' ∨ c = '\x5c' ∨ c = '/' then some c
  else if c = 'b' then some '\x08'
  else if c = 'f' then some '\x0c'
  else if c = 'n' then some '\n'
  else if c = 'r' then some '\r'
  else if c = 't' then some '\t'
  else none

/-- Whether the number is the first half of a surrogate pair. -/
def isHighSurrogate (n : Nat) : Bool := 0xd800 ≤ n && n ≤ 0xdbff

/-- Whether the number is the second half of a surrogate pair. -/
def isLowSurrogate (n : Nat) : Bool := 0xdc00 ≤ n && n ≤ 0xdfff

/-- The character of a surrogate pair. -/
def joinSurrogates (high low : Nat) : Char :=
  Char.ofNat (0x10000 + (high - 0xd800) * 0x400 + (low - 0xdc00))

/-- Puts a character before the characters read. -/
def prepend (c : Char) (r : Reading (List Char)) : Reading (List Char) :=
  r.map fun p => (c :: p.1, p.2)

/-- Reads a string up to its closing quotation mark; the opening one has been
read. -/
def readString : List Char → Reading (List Char)
  | [] => .error (Problem.endOfString.here [])
  | '\x22' :: text => .ok ([], text)
  | '\x5c' :: text =>
    match text with
    | [] => .error (Problem.endOfString.here [])
    | 'u' :: text =>
      match text with
      | a :: b :: c :: d :: tail =>
        match hexValue? a b c d with
        | none => .error (hexFault (a :: b :: c :: d :: tail))
        | some n =>
          if isLowSurrogate n then .error (Problem.loneSurrogate.here tail)
          else if isHighSurrogate n then
            match tail with
            | [] => .error (Problem.endOfString.here [])
            | '\x5c' :: [] => .error (Problem.endOfString.here [])
            | '\x5c' :: 'u' :: tail =>
              match tail with
              | e :: f :: g :: h :: tail =>
                match hexValue? e f g h with
                | none => .error (hexFault (e :: f :: g :: h :: tail))
                | some m =>
                  if isLowSurrogate m then prepend (joinSurrogates n m) (readString tail)
                  else .error (Problem.loneSurrogate.here tail)
              | tail => .error (hexFault tail)
            | '\x5c' :: c :: tail => .error (Problem.unpairedSurrogate.next (c :: tail))
            | c :: tail => .error (Problem.unpairedSurrogate.next (c :: tail))
          else prepend (Char.ofNat n) (readString tail)
      | text => .error (hexFault text)
    | c :: text =>
      match simpleEscape? c with
      | some e => prepend e (readString text)
      | none => .error (Problem.invalidEscape.next (c :: text))
  | c :: text =>
    if c.toNat < 0x20 then .error (Problem.controlCharacter.next (c :: text))
    else prepend c (readString text)

/-- The largest integer that is kept exactly. -/
def maxInteger : Nat := powTwo 64 - 1

/-- The value of a decimal digit. -/
def digitValue (c : Char) : Nat := c.toNat - 48

/-- Appends digits to a number as long as it fits 64 bits; gives the number and
the digits left over. -/
def absorb : Nat → List Char → Nat × List Char
  | n, [] => (n, [])
  | n, d :: ds =>
    if maxInteger < n * 10 + digitValue d then (n, d :: ds)
    else absorb (n * 10 + digitValue d) ds

/-- The digits at the front of a text. -/
def digitsOf (text : List Char) : List Char := text.takeWhile Char.isDigit

/-- The text after the digits at its front. -/
def afterDigits (text : List Char) : List Char := text.dropWhile Char.isDigit

/-- A magnitude times ten to the `exponent`: one rounded product or quotient
with the rounded power of ten, after steps of `10 ^ -308` where the power is
too small for the format. None if it is too large. The first argument bounds
the steps. -/
def scaleTen : Nat → Binary64 → Int → Option Binary64
  | 0, _, _ => some .zero
  | fuel + 1, x, exponent =>
    if exponent.natAbs ≤ 308 then
      (Binary64.tenPow? exponent.natAbs).bind fun power =>
        if 0 ≤ exponent then x.mul? power else x.div? power
    else if x.mantissa = 0 then some .zero
    else if 0 ≤ exponent then none
    else
      ((Binary64.tenPow? 308).bind x.div?).bind fun y => scaleTen fuel y (exponent + 308)

/-- The floating point number of the given digits and exponent. -/
def floatOf (negative : Bool) (digits : Nat) (exponent : Int) (rest : List Char) : Reading Found :=
  match (Binary64.ofRatio? digits 1).bind fun x => scaleTen 4 x exponent with
  | some magnitude => .ok (.floating negative magnitude, rest)
  | none => .error (Problem.numberOutOfRange.here rest)

/-- The largest exponent that is told apart. -/
def maxExponent : Nat := powTwo 31 - 1

/-- Reads the digits of an exponent. One that is too large makes the number
zero or too large before its remaining digits are read. -/
def readExponentDigits (negative : Bool) (digits : Nat) (start : Int) (positive : Bool) :
    Nat → List Char → Reading Found
  | e, [] => floatOf negative digits (if positive then start + e else start - e) []
  | e, c :: text =>
    if c.isDigit then
      if maxExponent < e * 10 + digitValue c then
        if digits ≠ 0 ∧ positive then .error (Problem.numberOutOfRange.here text)
        else .ok (.floating negative .zero, afterDigits text)
      else readExponentDigits negative digits start positive (e * 10 + digitValue c) text
    else floatOf negative digits (if positive then start + e else start - e) (c :: text)

/-- Reads an exponent; its letter has been read. -/
def readExponent (negative : Bool) (digits : Nat) (start : Int) (text : List Char) :
    Reading Found :=
  let (positive, text) :=
    match text with
    | '+' :: text => (true, text)
    | '-' :: text => (false, text)
    | text => (true, text)
  match text with
  | [] => .error (Problem.endOfValue.here [])
  | c :: tail =>
    if c.isDigit then readExponentDigits negative digits start positive (digitValue c) tail
    else .error (Problem.invalidNumber.next (c :: tail))

/-- Reads an exponent if one follows. -/
def readOptionalExponent (negative : Bool) (digits : Nat) (start : Int) :
    List Char → Reading Found
  | 'e' :: text => readExponent negative digits start text
  | 'E' :: text => readExponent negative digits start text
  | text => floatOf negative digits start text

/-- Reads the digits after a decimal point. Digits that no longer fit are
dropped. -/
def readFraction (negative : Bool) (digits : Nat) (start : Int) (text : List Char) :
    Reading Found :=
  let fraction := digitsOf text
  let rest := afterDigits text
  if fraction.isEmpty then
    .error ((if rest.isEmpty then Problem.endOfValue else Problem.invalidNumber).next rest)
  else
    let (digits, dropped) := absorb digits fraction
    readOptionalExponent negative digits (start - (fraction.length - dropped.length : Nat)) rest

/-- The number that is written as an integer with the given magnitude. Minus
zero is a floating point number, as is what does not fit. -/
def integerOf (negative : Bool) (magnitude : Nat) (rest : List Char) : Reading Found :=
  if negative then
    if 0 < magnitude ∧ magnitude ≤ powTwo 63 then .ok (.integer (-magnitude), rest)
    else floatOf true magnitude 0 rest
  else .ok (.integer magnitude, rest)

/-- Reads a number without its sign. -/
def readMagnitude (negative : Bool) (text : List Char) : Reading Found :=
  match text with
  | [] => .error (Problem.endOfValue.here [])
  | c :: tail =>
    if !c.isDigit then .error (Problem.invalidNumber.next (c :: tail))
    else if c = '0' ∧ (digitsOf tail).length ≠ 0 then .error (Problem.invalidNumber.next tail)
    else
      let (digits, dropped) := absorb 0 (digitsOf text)
      match afterDigits text with
      | '.' :: rest => readFraction negative digits dropped.length rest
      | rest =>
        match rest with
        | 'e' :: rest => readExponent negative digits dropped.length rest
        | 'E' :: rest => readExponent negative digits dropped.length rest
        | rest =>
          if dropped.isEmpty then integerOf negative digits rest
          else floatOf negative digits dropped.length rest

/-- Reads a number. -/
def readNumber : List Char → Reading Found
  | '-' :: text => readMagnitude true text
  | text => readMagnitude false text

end Json

end HotReload
