/-
# Escapes in strings and templates

An escape begins with a backslash. What the characters after it stand for is
found by a machine that reads one character at a time: it says what each
character adds to the text and how the next one is to be taken.

Key definitions: `EscapeMode`, `EscapeStep`, `EscapeMode.step`,
`EscapeMode.pending`, `cook`.
-/
import HotReload.Text.Hex

namespace HotReload

namespace Script

/-- How the next character is to be taken: as it stands, as the first one after
a backslash, as a digit of an escape that began earlier, or as what may be the
second character of a line end. -/
inductive EscapeMode where
  | plain
  | started
  | hex (left value : Nat)
  | unicode
  | braced (value : Option Nat)
  | octal (left value : Nat)
  | afterReturn
deriving DecidableEq

/-- What a character does: it adds text and changes the mode, or it cannot stand
here. -/
inductive EscapeStep where
  | emit (text : List Char) (mode : EscapeMode)
  | malformed
deriving DecidableEq

/-- The character with the given number; numbers of surrogates have none. -/
def charOf (n : Nat) : Char := if n.isValidChar then Char.ofNat n else '\ufffd'

/-- Whether the character ends a line. -/
def isLineEnd (c : Char) : Bool :=
  c == '\n' || c == '\r' || c.toNat == 0x2028 || c.toNat == 0x2029

/-- The character that a one-letter escape stands for. -/
def letterEscape? (c : Char) : Option Char :=
  if c = 'b' then some '\x08'
  else if c = 't' then some '\t'
  else if c = 'n' then some '\n'
  else if c = 'v' then some '\x0b'
  else if c = 'f' then some '\x0c'
  else if c = 'r' then some '\r'
  else none

/-- Whether the character is a digit below eight. -/
def isOctalDigit (c : Char) : Bool := '0' ≤ c && c ≤ '7'

namespace EscapeStep

/-- A character outside any escape. -/
def ofPlain (c : Char) : EscapeStep :=
  if c = '\x5c' then emit [] .started else emit [c] .plain

/-- The step with a character put before what it adds. -/
def prepend (c : Char) : EscapeStep → EscapeStep
  | emit text mode => emit (c :: text) mode
  | malformed => malformed

/-- The first character after a backslash. Where octal escapes are not allowed
a zero may stand alone, and no other digit may follow the backslash. -/
def ofFirst (octals : Bool) (c : Char) : EscapeStep :=
  match letterEscape? c with
  | some e => emit [e] .plain
  | none =>
    if c = 'x' then emit [] (.hex 2 0)
    else if c = 'u' then emit [] .unicode
    else if c = '\r' then emit [] .afterReturn
    else if isLineEnd c then emit [] .plain
    else if c.isDigit then
      if octals then
        if c ≤ '3' then emit [] (.octal 2 (c.toNat - 48))
        else if c ≤ '7' then emit [] (.octal 1 (c.toNat - 48))
        else emit [c] .plain
      else if c = '0' then emit [] (.octal 0 0)
      else malformed
    else emit [c] .plain

end EscapeStep

namespace EscapeMode

/-- What a character does in the given mode; `octals` tells whether octal
escapes are allowed. -/
def step (octals : Bool) (mode : EscapeMode) (c : Char) : EscapeStep :=
  match mode with
  | plain => .ofPlain c
  | started => .ofFirst octals c
  | hex left value =>
    match hexDigit? c with
    | some d =>
      if left ≤ 1 then .emit [charOf (value * 16 + d)] plain
      else .emit [] (hex (left - 1) (value * 16 + d))
    | none => .malformed
  | unicode =>
    if c = '\x7b' then .emit [] (braced none)
    else
      match hexDigit? c with
      | some d => .emit [] (hex 3 d)
      | none => .malformed
  | braced value =>
    if c = '\x7d' then
      match value with
      | some n => .emit [charOf n] plain
      | none => .malformed
    else
      match hexDigit? c with
      | some d =>
        let n := value.getD 0 * 16 + d
        if n ≤ 0x10ffff then .emit [] (braced (some n)) else .malformed
      | none => .malformed
  | octal left value =>
    if 0 < left ∧ isOctalDigit c then
      let n := value * 8 + (c.toNat - 48)
      if left = 1 then .emit [charOf n] plain else .emit [] (octal (left - 1) n)
    else if left = 0 ∧ c.isDigit then .malformed
    else (EscapeStep.ofPlain c).prepend (charOf value)
  | afterReturn => if c = '\n' then .emit [] plain else .ofPlain c

/-- What the text ends with if it stops in the given mode; none if it cannot. -/
def pending : EscapeMode → Option (List Char)
  | plain | afterReturn => some []
  | octal _ value => some [charOf value]
  | _ => none

end EscapeMode

/-- The text that the source text of a template stands for, if it stands for
one. -/
def cook : EscapeMode → List Char → Option (List Char)
  | mode, [] => mode.pending
  | mode, c :: cs =>
    match mode.step false c with
    | .emit text next => (cook next cs).map (text ++ ·)
    | .malformed => none

end Script

end HotReload
