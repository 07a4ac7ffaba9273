import Workcell.BuildLog
import Workcell.Redaction
import Workcell.Run.Engine

namespace Workcell

structure Handling where
  replacements : List Replacement
  faults : LogFaults

/-- What became of the output so far: the lines kept of each channel, the build log, the lines shown, and
the notes made on the way. -/
structure Record where
  kept : PerChannel (List String)
  log : BuildLog
  files : Filesystem
  shown : List String
  notes : List Note

namespace Record

def blank (log : BuildLog) (files : Filesystem) : Record := ⟨⟨[], []⟩, log, files, [], []⟩

def add (h : Handling) (r : Record) (c : Channel) (line : String) : Record :=
  let (log, files, failures) := r.log.write h.faults r.files line
  { kept := r.kept.set c (r.kept.get c ++ [line]), log, files,
    shown := r.shown ++ [line], notes := r.notes ++ failures }

def absorb (h : Handling) (r : Record) : Occurrence → Record
  | .line c bytes => r.add h c (redact h.replacements (Line.text bytes))
  | .note n => { r with notes := r.notes ++ [n] }

def close (h : Handling) (r : Record) : Filesystem × List Note :=
  let (_, files, closing) := r.log.close h.faults r.files
  (files, r.notes ++ closing)

def captured (r : Record) (c : Channel) : String := String.join ((r.kept.get c).map (· ++ "\n"))

end Record

structure Progress where
  state : RunState
  record : Record

namespace Progress

def advance (t : Terms) (h : Handling) (p : Progress) (e : Event) : Progress :=
  let (state, occurrences) := p.state.advance t e
  ⟨state, occurrences.foldl (Record.absorb h) p.record⟩

def after (t : Terms) (h : Handling) (p : Progress) (events : List Event) : Progress :=
  events.foldl (advance t h) p

def steps (t : Terms) (h : Handling) (p : Progress) : List Event → List (List String)
  | [] => []
  | e :: r =>
    let next := p.advance t h e
    next.record.shown.drop p.record.shown.length :: next.steps t h r

def conclude (t : Terms) (h : Handling) (p : Progress) : Progress := p.after t h (p.state.remainder t)

end Progress

end Workcell
