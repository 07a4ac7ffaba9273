import Workcell.Number.Double

namespace Workcell.Double

structure Decimal where
  coefficient : Nat
  exponent : Int
  deriving DecidableEq, Repr

def inUnits (num den : Nat) (exponent : Int) : Nat × Nat :=
  if 0 ≤ exponent then (num, den * Nat.pow 10 exponent.toNat) else (num * Nat.pow 10 (-exponent).toNat, den)

def pointPosition (num den : Nat) : Int :=
  let rec climb : Nat → Int → Int
    | 0, p => p
    | fuel + 1, p =>
      let (n, d) := inUnits num den p
      if d ≤ n then climb fuel (p + 1) else p
  climb 4 ((leadingExponent num den * 30103) / 100000 - 1)

/-- The nearer of the two neighbours of `num / den` on the grid of `digits` significant digits that read
back as `x`; a tie goes to the even one. -/
def nearestOn (x : Double) (num den : Nat) (point : Int) (digits : Nat) : Option Decimal :=
  let exponent := point - digits
  let (n, d) := inUnits num den exponent
  let below := n / d
  let readsBack (c : Nat) : Bool := ofDecimal false c exponent == x
  let twice := 2 * (n % d)
  let upperFirst := d < twice || (twice == d && below % 2 == 1)
  let order := if upperFirst then [below + 1, below] else [below, below + 1]
  (order.find? readsBack).map (⟨·, exponent⟩)

def Decimal.trimmed : Nat → Decimal → Decimal
  | 0, d => d
  | fuel + 1, d =>
    if d.coefficient ≠ 0 ∧ d.coefficient % 10 = 0 then
      Decimal.trimmed fuel ⟨d.coefficient / 10, d.exponent + 1⟩
    else d

/-- The shortest decimal of a positive finite double; seventeen digits always suffice. -/
def shortest (significand : Nat) (exponent : Int) : Decimal :=
  let (num, den) := scale significand 1 exponent
  let point := pointPosition num den
  let x := finite false significand exponent
  let found := (List.range 17).findSome? fun k => nearestOn x num den point (k + 1)
  (found.getD ⟨num / den, 0⟩).trimmed 20

def Decimal.text (d : Decimal) : String :=
  let digits := Nat.toDigits 10 d.coefficient
  let point : Int := d.exponent + digits.length
  if -4 < point ∧ point ≤ 16 then
    if point ≤ 0 then
      String.ofList ('0' :: '.' :: List.replicate (-point).toNat '0' ++ digits)
    else if digits.length ≤ point.toNat then
      String.ofList (digits ++ List.replicate (point.toNat - digits.length) '0' ++ ['.', '0'])
    else
      String.ofList (digits.take point.toNat ++ '.' :: digits.drop point.toNat)
  else
    let power := point - 1
    let sign := if power < 0 then '-' else '+'
    let shown := Nat.toDigits 10 power.natAbs
    let shown := if shown.length < 2 then '0' :: shown else shown
    let tail := if digits.length = 1 then [] else '.' :: digits.drop 1
    String.ofList (digits.take 1 ++ tail ++ 'e' :: sign :: shown)

def text : Double → String
  | nan => "nan"
  | infinity negative => if negative then "-inf" else "inf"
  | finite negative significand exponent =>
    let magnitude := if significand = 0 then "0.0" else (shortest significand exponent).text
    if negative then "-" ++ magnitude else magnitude

end Workcell.Double
