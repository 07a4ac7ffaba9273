import Workcell.Number.Basic
import Workcell.Number.Reading
import Workcell.Path
import Workcell.Schema.Checked
import Workcell.Schema.Datum

namespace Workcell.Schema

open Checked

/-- The text of data that can be read as text, with the fault of bytes that are not UTF-8. -/
def textual? (unreadable : Fault) : Datum → Option (Checked String)
  | .text s => some (valid s)
  | .brokenText => some (fail .stringUnicode)
  | .bytes bs => some (match Utf8.decode bs with
    | .ok cs => valid (String.ofList cs)
    | .error _ => fail unreadable)
  | _ => none

def falseWords : List String := ["0", "off", "f", "false", "n", "no"]
def trueWords : List String := ["1", "on", "t", "true", "y", "yes"]

def boolOfInt (n : Int) : Checked Bool :=
  if n = 0 then valid false else if n = 1 then valid true else fail .boolParsing

def boolOfWord (s : String) : Checked Bool :=
  let word := s.map Char.toLower
  if word ∈ falseWords then valid false
  else if word ∈ trueWords then valid true
  else fail .boolParsing

/-- Whether a whole number that a double holds is in reach: it lies strictly between the bounds of a
word. -/
def isInnerWord (n : Int) : Bool := isWord n && isWord (n - 1)

def bool (d : Datum) : Checked Bool :=
  match textual? .boolParsing d with
  | some s => s.andThen boolOfWord
  | none => match d with
    | .bool b => valid b
    | .integer n => if isWord n then boolOfInt n else fail .boolType
    | .double x => match x.toInt? with
      | some n => if isInnerWord n then boolOfInt n else fail .boolType
      | none => fail .boolType
    | _ => fail .boolType

def text : Datum → Checked String
  | .brokenText => fail .halfPair
  | d => (textual? .stringUnicode d).getD (fail .stringType)

def someText : Datum → Checked { s : String // s ≠ "" }
  | .brokenText => fail .stringUnicode
  | d => (text d).andThen fun s => if h : s = "" then fail .stringTooShort else valid ⟨s, h⟩

def optional {α : Type} (f : Datum → Checked α) : Datum → Checked (Option α)
  | .null => valid none
  | d => some <$> f d

def double (d : Datum) : Checked Double :=
  match textual? .floatParsing d with
  | some s => s.andThen fun s => match Number.readLenient s with
    | some x => valid x
    | none => fail .floatParsing
  | none => match d with
    | .double x => valid x
    | .integer n => match Double.ofInt n with
      | .infinity _ => fail .floatType
      | x => valid x
    | .bool b => valid (.ofInt (if b then 1 else 0))
    | _ => fail .floatType

def positive (d : Datum) : Checked Number :=
  (double d).andThen fun x => if x.isPositive then valid (.double x) else fail .greaterThan

def mostDigits : Nat := 4300

def dropLeadingZeros : List Char → List Char
  | '0' :: r =>
    let led := fun c : Char => c = '0' ∨ c = '_'
    match r.dropWhile led with
    | [] => [r.getLastD '0']
    | '.' :: fraction => (r.takeWhile led).getLastD '0' :: '.' :: fraction
    | rest => rest
  | cs => cs

def dropZeroFraction (cs : List Char) : List Char :=
  match cs.dropWhile (· ≠ '.') with
  | _ :: '0' :: zeros => if zeros.all (· = '0') then cs.takeWhile (· ≠ '.') else cs
  | _ => cs

/-- A whole number read from a text: underscores may stand between its digits. -/
def readInt (s : String) : Except Fault Int :=
  let (negative, r) := Number.takeSign (Text.trim Text.isBlank s.toList)
  let cs := dropZeroFraction (dropLeadingZeros r)
  match Number.takeDigits ((Number.dropUnderscores (· ≠ '_') false cs).getD cs) with
  | (digits, rest) =>
    if mostDigits < digits.length then .error .intParsingSize
    else if digits = [] ∨ rest ≠ [] then .error .intParsing
    else
      let n : Int := Text.ofDigits digits
      .ok (if negative then -n else n)

def int (d : Datum) : Checked Int :=
  match textual? .intParsing d with
  | some s => s.andThen fun s => match readInt s with
    | .ok n => valid n
    | .error f => fail f
  | none => match d with
    | .integer n => valid n
    | .bool b => valid (if b then 1 else 0)
    | .double x => match x.toInt?, x.toRat? with
      | some n, _ => if isInnerWord n then valid n else fail .intParsingSize
      | none, some _ => fail .intFromFloat
      | none, none => fail .finiteNumber
    | _ => fail .intType

def byteText (d : Datum) : Checked String := (textual? .bytesType d).getD (fail .bytesType)

def path : Datum → Checked Path
  | .text s => valid (Path.ofString s)
  | .brokenText => fail .halfPair
  | _ => fail .pathType

def oneOf {α : Type} (words : List (String × α)) (d : Datum) : Checked α :=
  match d with
  | .text s => match words.lookup s with
    | some a => valid a
    | none => fail .enumeration
  | .brokenText => fail .stringUnicode
  | _ => fail .enumeration

end Workcell.Schema
