import Workcell.Number.Shortest

namespace Workcell

inductive Number
  | whole (n : Int)
  | double (x : Double)
  deriving DecidableEq, Repr

namespace Number

def text : Number → String
  | whole n => toString n
  | double x => x.text

def isZero : Number → Bool
  | whole n => n == 0
  | double x => x.isZero

def isPositive : Number → Bool
  | whole n => 0 < n
  | double x => x.isPositive

def toRat? : Number → Option Rat
  | whole n => some n
  | double x => x.toRat?

end Number

end Workcell
