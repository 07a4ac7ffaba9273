import Workcell.Run.Inlet
import Workcell.Run.Script

namespace Workcell

/-- What becomes known at a moment of a run: a line as it was read, or a note. -/
inductive Occurrence
  | line (c : Channel) (bytes : List UInt8)
  | note (n : Note)
  deriving DecidableEq, Repr

structure Reading where
  inlet : Inlet
  /-- Where the reader waits; none if it stopped. -/
  place : Option Reader.Position
  lines : List (List UInt8)
  warning : Option Note
  deriving DecidableEq, Repr

namespace Reading

def after (line : Option (List UInt8)) (r : Reading) : Reading := { r with lines := line.toList ++ r.lines }

def occurrences (c : Channel) (r : Reading) : List Occurrence :=
  r.lines.map (.line c) ++ r.warning.toList.map .note

end Reading

/-- Lets a reader go on from a place for as long as it gets replies. -/
def Inlet.readOn (limit : Nat) (name : String) (s : Inlet) (place : Reader.Position) : Reading :=
  match _ha : s.answer limit place.request with
  | none => ⟨s, some place, [], none⟩
  | some (reply, rest) => match _ht : place.take name reply with
    | .goOn next line => (rest.readOn limit name next).after line
    | .stop warning _ => ⟨rest, none, [], warning⟩
  termination_by s.work place
  decreasing_by exact Inlet.work_lt _ha _ht

structure Pipe where
  inlet : Inlet
  place : Option Reader.Position
  deriving DecidableEq, Repr

namespace Pipe

def fresh : Pipe := ⟨⟨[], .flowing⟩, some .start⟩

def ended (p : Pipe) : Bool := p.place.isNone

def proceed (limit : Nat) (c : Channel) (p : Pipe) (inlet : Inlet) : Pipe × List Occurrence :=
  match p.place with
  | none => (p, [])
  | some place =>
    let reading := inlet.readOn limit c.name place
    (⟨reading.inlet, reading.place⟩, reading.occurrences c)

def feed (limit : Nat) (c : Channel) (p : Pipe) (bytes : List UInt8) : Pipe × List Occurrence :=
  p.proceed limit c { p.inlet with buffer := p.inlet.buffer ++ bytes }

def finish (limit : Nat) (c : Channel) (p : Pipe) : Pipe × List Occurrence :=
  p.proceed limit c { p.inlet with supply := .ended }

def abandon (limit : Nat) (c : Channel) (p : Pipe) (text : String) : Pipe × List Occurrence :=
  p.proceed limit c { p.inlet with supply := .failed text }

end Pipe

end Workcell
