import Mathlib

/-!
Arithmetic of finite doubles (`f64`) as exact rationals.
-/

namespace QuantaWatch.Lib.Binary64

def nearestEven (numerator denominator : Nat) : Nat :=
  let below := numerator / denominator
  let rest := 2 * (numerator % denominator)
  if rest < denominator ∨ rest = denominator ∧ below % 2 = 0 then below else below + 1

def scale (numerator denominator : Nat) : Int → Nat × Nat
  | .ofNat power => (numerator, denominator * 2 ^ power)
  | .negSucc power => (numerator * 2 ^ (power + 1), denominator)

/-- The exponent under which a fraction has a significand from `2 ^ 52` on, below `2 ^ 53`. -/
def exponentOf (numerator denominator : Nat) : Int :=
  let high : Int := (numerator.log2 : Int) - denominator.log2 - 52
  let scaled := scale numerator denominator high
  if scaled.1 < 2 ^ 52 * scaled.2 then high - 1 else high

def nearest (exact : ℚ) : ℚ :=
  let exponent := exponentOf exact.num.natAbs exact.den
  let scaled := scale exact.num.natAbs exact.den exponent
  let significand := exact.num.sign * nearestEven scaled.1 scaled.2
  match exponent with
  | .ofNat power => mkRat (significand * 2 ^ power) 1
  | .negSucc power => mkRat significand (2 ^ (power + 1))

structure Double where
  value : ℚ
deriving DecidableEq

namespace Double

def ofRat (exact : ℚ) : Double := ⟨nearest exact⟩

instance (n : Nat) : OfNat Double n := ⟨ofRat n⟩

instance : OfScientific Double where
  ofScientific mantissa isNegative exponent :=
    ofRat (OfScientific.ofScientific mantissa isNegative exponent)

instance : Add Double := ⟨fun left right => ofRat (left.value + right.value)⟩

instance : Mul Double := ⟨fun left right => ofRat (left.value * right.value)⟩

instance : Div Double := ⟨fun left right => ofRat (left.value / right.value)⟩

instance : LE Double := ⟨fun left right => left.value ≤ right.value⟩

instance : LT Double := ⟨fun left right => left.value < right.value⟩

instance (left right : Double) : Decidable (left ≤ right) :=
  inferInstanceAs (Decidable (left.value ≤ right.value))

instance (left right : Double) : Decidable (left < right) :=
  inferInstanceAs (Decidable (left.value < right.value))

instance : Min Double := ⟨fun left right => if left ≤ right then left else right⟩

/-- `f64::round`, half away from zero. -/
def round (double : Double) : Double :=
  ⟨(double.value.num.sign * ((2 * double.value.num.natAbs + double.value.den) /
    (2 * double.value.den) : Nat) : Int)⟩

/-- The format `{:.0}`. -/
def toFixed (double : Double) : String :=
  let digits := toString (nearestEven double.value.num.natAbs double.value.den)
  if double.value.num < 0 then "-" ++ digits else digits

theorem le_def {left right : Double} : left ≤ right ↔ left.value ≤ right.value := Iff.rfl

theorem lt_def {left right : Double} : left < right ↔ left.value < right.value := Iff.rfl

end Double

end QuantaWatch.Lib.Binary64
