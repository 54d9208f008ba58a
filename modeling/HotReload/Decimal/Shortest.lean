/-
# The shortest decimal that reads back

Of the decimals that round to a given 64-bit magnitude, the shortest is the one
on the coarsest grid of powers of ten; of several on that grid it is the one
nearest to the magnitude, a half going to the even digit.

Key definitions: `Decimal`, `Binary64.shortest`, `Decimal.Form`,
`Decimal.render`.
-/
import HotReload.Decimal.Binary64

namespace HotReload

/-- The number `digits * 10 ^ exponent`. -/
structure Decimal where
  digits : Nat
  exponent : Int
deriving DecidableEq

namespace Binary64

/-- The exponent of the largest power of ten that is at most `n / d`, for
positive `n` and `d`. The second argument bounds the search below one. -/
def floorLogTen (n d : Nat) : Nat → Int
  | 0 => 0
  | fuel + 1 =>
    if d ≤ n then ((toString (n / d)).length : Int) - 1
    else floorLogTen (n * 10) d fuel - 1

/-- Whether `a / b` rounds to the magnitude `x`. The neighbour below the
smallest mantissa of an exponent is only half as far away as the one above. -/
def roundsTo (x : Binary64) (a b : Nat) : Bool :=
  let quarter := x.mantissa = powTwo 52 ∧ minExponent < x.exponent
  let low := if quarter then 4 * x.mantissa - 1 else 4 * x.mantissa - 2
  let high := 4 * x.mantissa + 2
  let (n, d) := unscale a b (x.exponent - 2)
  if x.mantissa % 2 = 0 then low * d ≤ n && n ≤ high * d
  else low * d < n && n < high * d

/-- The number `m * 10 ^ e` as a numerator and a denominator. -/
def tenScaled (m : Nat) (e : Int) : Nat × Nat :=
  if 0 ≤ e then (m * powTen e.toNat, 1) else (m, powTen (-e).toNat)

/-- The point of the grid of multiples of `10 ^ e` that rounds to `x` and is
nearest to it, if there is one. -/
def onGrid? (x : Binary64) (e : Int) : Option Decimal :=
  let (n, d) := x.ratio
  let (a, b) := if 0 ≤ e then (n, d * powTen e.toNat) else (n * powTen (-e).toNat, d)
  let fits (m : Nat) : Bool := x.roundsTo (tenScaled m e).1 (tenScaled m e).2
  let nearest := roundHalfEven a b
  let below := a / b
  if fits nearest then some ⟨nearest, e⟩
  else if fits below then some ⟨below, e⟩
  else if fits (below + 1) then some ⟨below + 1, e⟩
  else none

/-- The first hit on ever finer grids, for a positive magnitude. -/
def shortestFrom (x : Binary64) (e : Int) : Nat → Decimal
  | 0 => ⟨x.ratio.1, 0⟩
  | fuel + 1 =>
    match x.onGrid? e with
    | some r => r
    | none => shortestFrom x (e - 1) fuel

/-- The shortest decimal that rounds to the magnitude. Seventeen digits always
suffice. -/
def shortest (x : Binary64) : Decimal :=
  if x.mantissa = 0 then ⟨0, 0⟩
  else shortestFrom x (floorLogTen x.ratio.1 x.ratio.2 400 + 1) 20

end Binary64

namespace Decimal

/-- How a decimal is written: from which power of ten on, and below which, it
has an exponent. -/
structure Form where
  exponentFrom : Int
  exponentBelow : Int

/-- Drops the zeros at the end of the digits. The second argument bounds their
number. -/
def stripZeros (x : Decimal) : Nat → Decimal
  | 0 => x
  | fuel + 1 =>
    if x.digits ≠ 0 ∧ x.digits % 10 = 0 then stripZeros ⟨x.digits / 10, x.exponent + 1⟩ fuel
    else x

/-- The text of a decimal. Positional notation has at least one digit on either
side of the point; with an exponent there is a point only after more than one
digit, and no sign before a positive exponent. -/
def render (form : Form) (x : Decimal) : String :=
  let x := x.stripZeros 400
  if x.digits = 0 then "0.0"
  else
    let ds := toString x.digits
    let count : Int := ds.length
    let point := count + x.exponent
    if form.exponentFrom < point || point - 1 < form.exponentBelow then
      let fraction := String.ofList (ds.toList.drop 1)
      String.ofList (ds.toList.take 1) ++ (if fraction == "" then "" else "." ++ fraction) ++
        "e" ++ toString (point - 1)
    else if 0 ≤ x.exponent then
      ds ++ String.ofList (List.replicate x.exponent.toNat '0') ++ ".0"
    else if 0 < point then
      String.ofList (ds.toList.take point.toNat) ++ "." ++ String.ofList (ds.toList.drop point.toNat)
    else
      "0." ++ String.ofList (List.replicate (-point).toNat '0') ++ ds

end Decimal

end HotReload
