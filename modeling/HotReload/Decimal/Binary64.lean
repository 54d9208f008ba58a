/-
# Binary floating point numbers of 64 bits, exactly

A magnitude of the 64-bit format is a mantissa below 2^53 times a power of two
not below 2^-1074. A quotient is rounded to the nearest such number, a half to
the even mantissa. All arithmetic is on natural numbers.

Key definitions: `powTwo`, `powTen`, `roundHalfEven`, `Binary64`, `Binary64.ofRatio?`,
`Binary64.mul?`, `Binary64.div?`, `Binary64.tenPow?`.
-/

namespace HotReload

/-- Two to the `k`. -/
def powTwo (k : Nat) : Nat := Nat.pow 2 k

/-- Ten to the `k`. -/
def powTen (k : Nat) : Nat := Nat.pow 10 k

/-- The natural number nearest to `n / d`, of two the even one. -/
def roundHalfEven (n d : Nat) : Nat :=
  let q := n / d
  let r := 2 * (n % d)
  if r < d then q
  else if d < r then q + 1
  else if q % 2 = 0 then q else q + 1

/-- The magnitude `mantissa * 2 ^ exponent`. -/
structure Binary64 where
  mantissa : Nat
  exponent : Int
deriving DecidableEq

namespace Binary64

/-- The exponent of the smallest magnitude. -/
def minExponent : Int := -1074

/-- The exponent of the largest magnitudes. -/
def maxExponent : Int := 971

/-- Zero. -/
def zero : Binary64 := ⟨0, minExponent⟩

/-- The quotient `n / d` times `2 ^ -e`, as a numerator and a denominator. -/
def unscale (n d : Nat) (e : Int) : Nat × Nat :=
  if 0 ≤ e then (n, d * powTwo e.toNat) else (n * powTwo (-e).toNat, d)

/-- The exponent of the largest power of two that is at most `n / d`, for
positive `n` and `d`. -/
def floorLog (n d : Nat) : Int :=
  let e : Int := (Nat.log2 n : Int) - Nat.log2 d
  let (a, b) := unscale n d e
  if b ≤ a then e else e - 1

/-- The magnitude nearest to `n / d`; none if it is too large for the format. -/
def ofRatio? (n d : Nat) : Option Binary64 :=
  if n = 0 then some zero
  else
    let e := max (floorLog n d - 52) minExponent
    let (a, b) := unscale n d e
    let m := roundHalfEven a b
    let r : Binary64 := if m = powTwo 53 then ⟨powTwo 52, e + 1⟩ else ⟨m, e⟩
    if maxExponent < r.exponent then none else some r

/-- The magnitude as a numerator and a denominator. -/
def ratio (x : Binary64) : Nat × Nat :=
  if 0 ≤ x.exponent then (x.mantissa * powTwo x.exponent.toNat, 1)
  else (x.mantissa, powTwo (-x.exponent).toNat)

/-- The product, rounded. -/
def mul? (x y : Binary64) : Option Binary64 :=
  ofRatio? (x.ratio.1 * y.ratio.1) (x.ratio.2 * y.ratio.2)

/-- The quotient, rounded, for a divisor that is not zero. -/
def div? (x y : Binary64) : Option Binary64 :=
  ofRatio? (x.ratio.1 * y.ratio.2) (x.ratio.2 * y.ratio.1)

/-- The magnitude nearest to ten to the `k`. -/
def tenPow? (k : Nat) : Option Binary64 := ofRatio? (powTen k) 1

end Binary64

end HotReload
