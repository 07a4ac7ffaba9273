namespace Workcell

/-- A binary64 number. A finite one is `± significand · 2 ^ exponent`, where either the significand has 53
bits or the exponent is the least, -1074. -/
inductive Double
  | nan
  | infinity (negative : Bool)
  | finite (negative : Bool) (significand : Nat) (exponent : Int)
  deriving DecidableEq, Repr, Inhabited

namespace Double

/-- The positive quotient `num / den` scaled by `2 ^ shift`, as a quotient of natural numbers. -/
def scale (num den : Nat) (shift : Int) : Nat × Nat :=
  if 0 ≤ shift then (num * Nat.pow 2 shift.toNat, den) else (num, den * Nat.pow 2 (-shift).toNat)

def roundHalfEven (num den : Nat) : Nat :=
  let q := num / den
  let r := num % den
  if 2 * r < den then q else if den < 2 * r then q + 1 else q + q % 2

def leadingExponent (num den : Nat) : Int :=
  let guess : Int := (Nat.log2 num : Int) - Nat.log2 den
  let (n, d) := scale num den (-guess)
  if n < d then guess - 1 else guess

def binade : Nat := 9007199254740992

def ofQuotient (negative : Bool) (num den : Nat) : Double :=
  if num = 0 then finite negative 0 (-1074)
  else
    let exponent := max (leadingExponent num den - 52) (-1074)
    let (n, d) := scale num den (-exponent)
    let significand := roundHalfEven n d
    let (significand, exponent) :=
      if significand = binade then (binade / 2, exponent + 1) else (significand, exponent)
    if 971 < exponent then infinity negative else finite negative significand exponent

/-- The double nearest to `± coefficient · 10 ^ exponent`. Beyond the bounds the result no longer depends
on the coefficient's digits, which keeps the powers of ten small. -/
def ofDecimal (negative : Bool) (coefficient : Nat) (exponent : Int) : Double :=
  if coefficient = 0 then ofQuotient negative 0 1
  else
    let size : Int := (Nat.toDigits 10 coefficient).length
    if 310 < size + exponent then infinity negative
    else if size + exponent < -330 then ofQuotient negative 0 1
    else if 0 ≤ exponent then ofQuotient negative (coefficient * Nat.pow 10 exponent.toNat) 1
    else ofQuotient negative coefficient (Nat.pow 10 (-exponent).toNat)

def ofInt (n : Int) : Double :=
  ofQuotient (n < 0) n.natAbs 1

def isNaN : Double → Bool
  | nan => true
  | _ => false

def toRat? : Double → Option Rat
  | finite negative significand exponent =>
    let (n, d) := scale significand 1 exponent
    let value := mkRat n d
    some (if negative then -value else value)
  | _ => none

def toInt? (x : Double) : Option Int :=
  x.toRat?.bind fun value => if value.den = 1 then some value.num else none

def isPositive : Double → Bool
  | nan => false
  | infinity negative => !negative
  | finite negative significand _ => !negative && significand != 0

def isZero : Double → Bool
  | finite _ significand _ => significand == 0
  | _ => false

def negate : Double → Double
  | nan => nan
  | infinity negative => infinity !negative
  | finite negative significand exponent => finite (!negative) significand exponent

def ofRat (q : Rat) : Double := ofQuotient (q < 0) q.num.natAbs q.den

/-- The sum, rounded once. Infinities of both signs have none. -/
def add (x y : Double) : Double :=
  match x.toRat?, y.toRat? with
  | some p, some q => ofRat (p + q)
  | some _, none => y
  | none, some _ => x
  | none, none => if x = y then x else nan

/-- The product with a natural number above zero, which is rounded to a double first; none if it is too large. -/
def scaleBy? (n : Nat) (x : Double) : Option Double :=
  (ofInt n).toRat?.map fun p => match x with
    | finite negative significand exponent =>
      let (num, den) := scale significand 1 exponent
      ofQuotient negative (p.num.natAbs * num) den
    | x => x

end Double

end Workcell
