import Workcell.Run.Pipe

namespace Workcell

def killGrace : Rat := 5

def childId : Nat := 4242

inductive Kill
  | group
  | child
  deriving DecidableEq, Repr

inductive Cause
  | timeout
  | cancellation
  deriving DecidableEq, Repr

inductive Ending
  | exited (code : Int)
  | stopped (cause : Cause)
  deriving DecidableEq, Repr

/-- How far a run is: its output and its exit are awaited, or the wait was ended at a moment and only the
exit is awaited, or it is over since a moment. -/
inductive Stage
  | watching
  | reaping (cause : Cause) (since : Rat)
  | over (ending : Ending) (since : Rat)
  deriving DecidableEq, Repr

structure Terms where
  deadline : Option Rat
  posix : Bool
  kill : KillReply
  limit : Nat
  deriving Repr

structure RunState where
  pipes : PerChannel Pipe
  exit : Option Int
  clock : Rat
  stage : Stage
  kills : List (Rat × Kill)
  deriving Repr

namespace RunState

def initial : RunState := ⟨⟨.fresh, .fresh⟩, none, 0, .watching, []⟩

def settle (moment : Rat) (s : RunState) : RunState :=
  match s.stage, s.exit with
  | .watching, some code =>
    if s.pipes.out.ended && s.pipes.err.ended then { s with stage := .over (.exited code) moment } else s
  | .reaping cause _, some _ => { s with stage := .over (.stopped cause) moment }
  | _, _ => s

/-- The kill that is asked for. Without process groups only a child that has not exited is killed. -/
def killOf (t : Terms) (s : RunState) : Option Kill :=
  if t.posix then some .group else if s.exit.isNone then some .child else none

def exitAfter (t : Terms) (s : RunState) : Option Int :=
  if (s.killOf t).isSome && t.kill == .works then some (s.exit.getD (-9)) else s.exit

def kill (t : Terms) (cause : Cause) (moment : Rat) (s : RunState) : RunState :=
  settle moment { s with
    stage := .reaping cause moment
    kills := s.kills ++ (s.killOf t).toList.map (moment, ·)
    exit := s.exitAfter t }

def unkilled : Note := ⟨.warning, s!"Process {childId} did not exit 5.0s after being killed"⟩

def expire (t : Terms) (s : RunState) : RunState :=
  match s.stage, t.deadline with
  | .watching, some deadline => if deadline ≤ s.clock then s.kill t .timeout deadline else s
  | _, _ => s

def giveUp (s : RunState) : RunState × List Occurrence :=
  match s.stage with
  | .reaping cause since =>
    if since + killGrace ≤ s.clock then
      ({ s with stage := .over (.stopped cause) (since + killGrace) }, [.note unkilled])
    else (s, [])
  | _ => (s, [])

def tick (t : Terms) (s : RunState) : RunState × List Occurrence := (s.expire t).giveUp

/-- What comes through a pipe is known only while the output is still awaited. -/
def receive (s : RunState) (c : Channel) (received : Pipe × List Occurrence) : RunState × List Occurrence :=
  match s.stage with
  | .watching => (settle s.clock { s with pipes := s.pipes.set c received.1 }, received.2)
  | _ => (s, [])

def step (t : Terms) (s : RunState) : Event → RunState × List Occurrence
  | .bytes c bytes => s.receive c ((s.pipes.get c).feed t.limit c bytes)
  | .ends c => s.receive c ((s.pipes.get c).finish t.limit c)
  | .fails c text => s.receive c ((s.pipes.get c).abandon t.limit c text)
  | .sleeps seconds => { s with clock := s.clock + seconds }.tick t
  | .exits code => (settle s.clock { s with exit := some (s.exit.getD code) }, [])
  | .cancels => match s.stage with
    | .watching => (s.kill t .cancellation s.clock, [])
    | .reaping _ _ => ({ s with stage := .over (.stopped .cancellation) s.clock }, [])
    | .over _ _ => (s, [])

def advance (t : Terms) (s : RunState) (e : Event) : RunState × List Occurrence :=
  match s.stage with
  | .over _ _ => (s, [])
  | _ => s.step t e

def start (t : Terms) : RunState := initial.expire t

/-- What is still to come after the script: time goes on until the run is over. A run that nothing would
end is cancelled. -/
def remainder (t : Terms) (s : RunState) : List Event :=
  match s.stage, t.deadline with
  | .watching, some deadline => [.sleeps (deadline - s.clock), .sleeps killGrace]
  | .watching, none => [.cancels, .sleeps killGrace]
  | .reaping _ since, _ => [.sleeps (since + killGrace - s.clock)]
  | .over _ _, _ => []

def ending? (s : RunState) : Option Ending :=
  match s.stage with
  | .over ending _ => some ending
  | _ => none

end RunState

end Workcell
