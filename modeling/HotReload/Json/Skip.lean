/-
# Values that are passed over

The value of a member that nobody asks for is passed over without being built,
at any depth. It must still be well formed, but surrogates need no partners and
numbers no range.

Key definitions: `Json.skipString`, `Json.skipNumber`, `Json.skipValue`.
-/
import HotReload.Json.Scalar

namespace HotReload

namespace Json

/-- Passes over a string; the opening quotation mark has been read. -/
def skipString : List Char → Except Fault (List Char)
  | [] => .error (Problem.endOfString.here [])
  | '\x22' :: text => .ok text
  | '\x5c' :: text =>
    match text with
    | [] => .error (Problem.endOfString.here [])
    | 'u' :: text =>
      match text with
      | a :: b :: c :: d :: tail =>
        match hexValue? a b c d with
        | none => .error (hexFault (a :: b :: c :: d :: tail))
        | some _ => skipString tail
      | text => .error (hexFault text)
    | c :: text =>
      match simpleEscape? c with
      | some _ => skipString text
      | none => .error (Problem.invalidEscape.next (c :: text))
  | c :: text =>
    if c.toNat < 0x20 then .error (Problem.controlCharacter.here (c :: text))
    else skipString text

/-- Passes over an exponent; its letter has been read. -/
def skipExponent (text : List Char) : Except Fault (List Char) :=
  let text :=
    match text with
    | '+' :: text => text
    | '-' :: text => text
    | text => text
  if (digitsOf text).isEmpty then .error (Problem.invalidNumber.next text)
  else .ok (afterDigits text)

/-- Passes over an exponent if one follows. -/
def skipOptionalExponent : List Char → Except Fault (List Char)
  | 'e' :: text => skipExponent text
  | 'E' :: text => skipExponent text
  | text => .ok text

/-- Passes over a number without its sign. -/
def skipMagnitude (text : List Char) : Except Fault (List Char) :=
  match text with
  | [] => .error (Problem.invalidNumber.next [])
  | c :: tail =>
    if !c.isDigit then .error (Problem.invalidNumber.next (c :: tail))
    else if c = '0' ∧ (digitsOf tail).length ≠ 0 then .error (Problem.invalidNumber.next tail)
    else
      match afterDigits text with
      | '.' :: rest =>
        if (digitsOf rest).isEmpty then .error (Problem.invalidNumber.next rest)
        else skipOptionalExponent (afterDigits rest)
      | rest => skipOptionalExponent rest

/-- Passes over a value that holds no others. -/
def skipScalar : List Char → Except Fault (List Char)
  | [] => .error (Problem.endOfValue.next [])
  | 'n' :: text => readWord ['u', 'l', 'l'] text
  | 't' :: text => readWord ['r', 'u', 'e'] text
  | 'f' :: text => readWord ['a', 'l', 's', 'e'] text
  | '\x22' :: text => skipString text
  | '-' :: text => skipMagnitude text
  | c :: text =>
    if c.isDigit then skipMagnitude (c :: text) else .error (Problem.noValue.next (c :: text))

mutual

/-- Passes over one value. The first argument bounds the depth and the number
of entries; one more than the length of the text always suffices. -/
def skipValue : Nat → List Char → Except Fault (List Char)
  | 0, text => .error (Problem.endOfValue.here text)
  | fuel + 1, text =>
    match skipBlanks text with
    | '[' :: text =>
      match skipBlanks text with
      | ']' :: text => .ok text
      | [] => .error (Problem.endOfList.next [])
      | text => (skipValue fuel text).bind (skipEntries fuel)
    | '\x7b' :: text =>
      match skipBlanks text with
      | '\x7d' :: text => .ok text
      | text => skipMember fuel text
    | text => skipScalar text

/-- Passes over the entries of a list after one of them, up to its end. -/
def skipEntries : Nat → List Char → Except Fault (List Char)
  | 0, text => .error (Problem.endOfList.here text)
  | fuel + 1, text =>
    match skipBlanks text with
    | [] => .error (Problem.endOfList.next [])
    | ']' :: text => .ok text
    | ',' :: text => (skipValue fuel text).bind (skipEntries fuel)
    | text => .error (Problem.noListEnd.next text)

/-- Passes over a member of an object and all that follow it, up to its end. -/
def skipMember : Nat → List Char → Except Fault (List Char)
  | 0, text => .error (Problem.endOfObject.here text)
  | fuel + 1, text =>
    match skipBlanks text with
    | [] => .error (Problem.endOfObject.next [])
    | '\x22' :: text =>
      (skipString text).bind fun text =>
        match skipBlanks text with
        | [] => .error (Problem.endOfObject.next [])
        | ':' :: text =>
          (skipValue fuel text).bind fun text =>
            match skipBlanks text with
            | [] => .error (Problem.endOfObject.next [])
            | '\x7d' :: text => .ok text
            | ',' :: text => skipMember fuel text
            | text => .error (Problem.noObjectEnd.next text)
        | text => .error (Problem.noColon.next text)
    | text => .error (Problem.keyNotString.next text)

end

end Json

end HotReload
