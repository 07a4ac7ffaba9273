import Workcell.Number.Reading
import Workcell.Schema.Datum
import Workcell.Text.Base64
import Workcell.Text.Lower
import Workcell.Yaml.Graph

namespace Workcell.Yaml

open Text

namespace Scalar

def dropUnderscores (cs : List Char) : List Char := cs.filter (· ≠ '_')

def digitValue? (c : Char) : Option Nat :=
  if c.isDigit then some (c.toNat - 48)
  else if 'a' ≤ c ∧ c ≤ 'z' then some (c.toNat - 87)
  else if 'A' ≤ c ∧ c ≤ 'Z' then some (c.toNat - 55)
  else none

def baseLetter? (base : Nat) : Option Char :=
  [(2, 'b'), (8, 'o'), (16, 'x')].lookup base

def dropBase (base : Nat) : List Char → List Char
  | '0' :: c :: r => if baseLetter? base = some c.toLower then r else '0' :: c :: r
  | r => r

def mostDigits : Nat := 4300

/-- A whole number to a base: a sign, a mark of the base and blanks around it are optional. -/
def readWhole (base : Nat) (cs : List Char) : Except ScalarError Int :=
  let (negative, r) := Number.takeSign (trim isBlank (cs.map Number.toAscii))
  let ds := (dropBase base r).map fun c => (digitValue? c).filter (· < base)
  let run := (ds.takeWhile Option.isSome).length
  if base = 10 ∧ mostDigits < run then .error (.tooManyDigits run)
  else if ds ≠ [] ∧ ds.all Option.isSome then
    let n : Nat := (ds.filterMap id).foldl (fun n d => base * n + d) 0
    .ok (if negative then -n else n)
  else .error (.notInteger base (String.ofList cs))

def readInt (cs : List Char) : Except ScalarError Int := do
  let cs := dropUnderscores cs
  let (negative, r) := Number.takeSign cs
  let n ← match r with
    | [] => .error .emptyNumber
    | ['0'] => .ok 0
    | '0' :: 'b' :: ds => readWhole 2 ds
    | '0' :: 'x' :: ds => readWhole 16 ds
    | '0' :: _ => readWhole 8 r
    | _ => (split ':' r).foldlM (fun n part => (readWhole 10 part).map (60 * n + ·)) 0
  pure (if negative then -n else n)

def readPart (cs : List Char) : Except ScalarError Double :=
  match Number.readTyped (String.ofList cs) with
  | some x => .ok x
  | none => .error (.notFloat (String.ofList cs))

/-- The sum of parts to the base sixty, the least significant one first, from a power of sixty on. A power that no
double can hold is a fault, whatever its part. -/
def sumSixtieths (sum : Double) (power : Nat) : List Double → Except ScalarError Double
  | [] => .ok sum
  | x :: r => match x.scaleBy? power with
    | some y => sumSixtieths (sum.add y) (60 * power) r
    | none => .error .tooLarge

def readFloat (cs : List Char) : Except ScalarError Double := do
  let cs := lower (dropUnderscores cs)
  let (negative, r) := Number.takeSign cs
  let x ← if cs = [] then .error .emptyNumber
    else if r = ".inf".toList then .ok (.infinity false)
    else if r = ".nan".toList then .ok .nan
    else match split ':' r with
      | [part] => readPart part
      | parts => do
        let xs ← parts.mapM readPart
        sumSixtieths (.ofInt 0) 1 xs.reverse
  pure (if negative then x.negate else x)

def readBool (cs : List Char) : Except ScalarError Bool :=
  let word := String.ofList (lower cs)
  match Tag.truthWords.lookup word with
  | some b => .ok b
  | none => .error (.notBool word)

def readMoment (cs : List Char) : Except ScalarError String := do
  let m ← match Moment.read (if cs.getLast? = some '\n' then cs.dropLast else cs) with
    | some m => .ok m
    | none => .error .notTimestamp
  match m.fault? with
  | some text => .error (.badMoment text)
  | none => .ok m.shown

def readBinary (cs : List Char) : Option (List UInt8) :=
  if cs.all fun c => c.toNat < 0x80 then Base64.decode cs else none

def read (t : Tag) (text : ScalarText) : Option (Except Error Datum) :=
  let cs := text.chars
  match t with
  | .null => some (.ok .null)
  | .text => some (.ok (if text.broken then .brokenText else .text (String.ofList cs)))
  | .bool => some (((readBool cs).map Datum.bool).mapError Error.scalar)
  | .int => some (((readInt cs).map Datum.integer).mapError Error.scalar)
  | .float => some (((readFloat cs).map Datum.double).mapError Error.scalar)
  | .timestamp => some (((readMoment cs).map Datum.moment).mapError Error.scalar)
  | .binary => some (match readBinary cs with
    | some bs => .ok (.bytes bs)
    | none => .error .malformed)
  | _ => none

end Scalar

end Workcell.Yaml
