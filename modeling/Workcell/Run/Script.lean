import Workcell.Errno

namespace Workcell

inductive Channel
  | out
  | err
  deriving DecidableEq, Repr

def Channel.name : Channel → String
  | out => "stdout"
  | err => "stderr"

@[ext]
structure PerChannel (α : Type) where
  out : α
  err : α
  deriving DecidableEq, Repr

namespace PerChannel

variable {α : Type}

def get (p : PerChannel α) : Channel → α
  | .out => p.out
  | .err => p.err

def set (p : PerChannel α) (c : Channel) (a : α) : PerChannel α :=
  match c with
  | .out => { p with out := a }
  | .err => { p with err := a }

@[simp]
theorem get_set_self (p : PerChannel α) (c : Channel) (a : α) : (p.set c a).get c = a := by
  cases c <;> rfl

theorem get_set_of_ne (p : PerChannel α) {c d : Channel} (h : d ≠ c) (a : α) :
    (p.set c a).get d = p.get d := by
  cases c <;> cases d <;> first | rfl | exact absurd rfl h

end PerChannel

inductive Event
  | bytes (c : Channel) (bytes : List UInt8)
  | ends (c : Channel)
  | fails (c : Channel) (text : String)
  | sleeps (seconds : Rat)
  | exits (code : Int)
  | cancels
  deriving DecidableEq, Repr

inductive KillReply
  | works
  | noSuchProcess
  | notPermitted
  deriving DecidableEq, Repr

structure Script where
  events : List Event
  kill : KillReply
  /-- The failure of the spawn, if the child cannot be created. -/
  spawn : Option Errno
  deriving Repr

end Workcell
