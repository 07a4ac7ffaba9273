import Workcell.Number.Double
import Workcell.Number.Shortest
import Workcell.Schema.Problem
import Workcell.Text.Quoted
import Workcell.Text.Utf8

namespace Workcell

inductive Datum
  | null
  | bool (b : Bool)
  | integer (n : Int)
  | double (x : Double)
  | text (s : String)
  /-- A text that holds half of a surrogate pair and so has no UTF-8 form. -/
  | brokenText
  | bytes (bs : List UInt8)
  /-- A date or a time, known only by the way it is shown. -/
  | moment (shown : String)
  | list (items : List Datum)
  | mapping (entries : List (Datum × Datum))
  deriving Inhabited, Repr

def Schema.isWord (n : Int) : Bool := -9223372036854775808 ≤ n && n < 9223372036854775808

namespace Datum

def get? (key : String) : List (Datum × Datum) → Option Datum
  | [] => none
  | (text k, v) :: r => if k = key then some v else get? key r
  | _ :: r => get? key r

def quotedBytes (bs : List UInt8) : String :=
  let cs := bs.map fun b => Char.ofNat b.toNat
  let mark := Text.quoteMark cs
  let shown := fun c : Char =>
    if c = mark ∨ c = '\\' ∨ c.toNat < 0x7F then Text.quoteChar mark c
    else '\\' :: 'x' :: Text.hexDigits 2 c.toNat
  String.ofList ('b' :: mark :: cs.flatMap shown ++ [mark])

/-- The way a key is named on the way to its value: texts and whole numbers as they are, others as they
are shown. -/
def keyStep : Datum → Step
  | text s => .name s
  | integer n => if Schema.isWord n then .index n else .name (toString n)
  | bool b => .index (if b then 1 else 0)
  | null => .name "None"
  | double x => .name x.text
  | bytes bs => .name (quotedBytes bs)
  | moment shown => .name shown
  | brokenText => .name "\uFFFD"
  | list _ | mapping _ => .name ""

end Datum

end Workcell
