import Workcell.Number.Double
import Workcell.Text.Blank
import Workcell.Text.Digit

namespace Workcell.Number

open Text

def takeSign : List Char → Bool × List Char
  | '-' :: r => (true, r)
  | '+' :: r => (false, r)
  | r => (false, r)

def takeDigits (cs : List Char) : List Nat × List Char :=
  ((cs.takeWhile Char.isDigit).filterMap asciiDigit?, cs.dropWhile Char.isDigit)

def readExponent : List Char → Option Int
  | [] => some 0
  | e :: r =>
    if e = 'e' ∨ e = 'E' then
      let (negative, r) := takeSign r
      match takeDigits r with
      | ([], _) => none
      | (digits, []) =>
        let n : Int := ofDigits digits
        some (if negative then -n else n)
      | _ => none
    else none

def lower (cs : List Char) : List Char := cs.map Char.toLower

def readDecimal (cs : List Char) : Option Double :=
  let (negative, r) := takeSign cs
  if lower r = "inf".toList ∨ lower r = "infinity".toList then some (.infinity negative)
  else if lower r = "nan".toList then some .nan
  else
    let (units, r) := takeDigits r
    let (fraction, r) := match r with
      | '.' :: r => takeDigits r
      | r => ([], r)
    if units.isEmpty ∧ fraction.isEmpty then none
    else (readExponent r).map fun exponent =>
      Double.ofDecimal negative (ofDigits (units ++ fraction)) (exponent - fraction.length)

/-- Drops the underscores of a text in which each stands between two characters satisfying `p`; none if
one does not. -/
def dropUnderscores (p : Char → Bool) : (before : Bool) → List Char → Option (List Char)
  | _, [] => some []
  | before, '_' :: r => match r with
    | c :: _ => if before && p c then dropUnderscores p false r else none
    | [] => none
  | _, c :: r => (dropUnderscores p (p c) r).map (c :: ·)

def toAscii (c : Char) : Char :=
  if c.toNat < 0x80 then c
  else match digit? c with
    | some d => Char.ofNat ('0'.toNat + d)
    | none => if isBlank c then ' ' else c

/-- The reader for numbers typed by a user: blanks around the number are dropped, digits of every script
count, and an underscore may stand between two digits. -/
def readTyped (s : String) : Option Double :=
  (dropUnderscores Char.isDigit false (trim isBlank (s.toList.map toAscii))).bind readDecimal

/-- The reader for numbers in data: blanks around the number are dropped, and underscores are skipped
unless one leads, ends or follows another. -/
def readLenient (s : String) : Option Double :=
  match readDecimal (trim isBlank s.toList) with
  | some x => some x
  | none =>
    if '_' ∈ s.toList then
      (dropUnderscores (· ≠ '_') false s.toList).bind readDecimal
    else none

end Workcell.Number
