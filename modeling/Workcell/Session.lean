import Workcell.Backend
import Workcell.Run.Execute

namespace Workcell

structure Prepared where
  backend : Backend
  kind : RunnerKind
  mounts : List Mount

def Configuration.backend (c : Configuration) : Backend :=
  match c.kind, c.policy, c.container with
  | .sandbox, some offer, _ => match offer.render? with
    | some render => .sandbox offer.description render
    | none => .host
  | .container, _, some container => .container container
  | _, _, _ => .host

def Configuration.prepare (c : Configuration) : Prepared := ⟨c.backend, c.kind, c.mounts⟩

namespace Prepared

def build (p : Prepared) (m : Machine) (words : List String) (workDir : Path) (bindings : Pairs) : Built :=
  match words with
  | [] => ⟨.error (.invalid [⟨.tooShort, [.name "command_args"]⟩]), [], [], false⟩
  | program :: arguments => p.backend.build m ⟨program, arguments, workDir, bindings, p.mounts⟩

def commandSpan (p : Prepared) : Span :=
  ⟨"runner.execute_command", [(Attribute.kind, .text p.kind.name)]⟩

def execute (p : Prepared) (m : Machine) (words : List String) (workDir : Path) (bindings : Pairs)
    (redactions : Pairs) (timeout : Option Number) (script : Script) : Report × Filesystem :=
  let built := p.build m words workDir bindings
  match built.result with
  | .error failure => (⟨.error failure, [], [], [], built.notes, [p.commandSpan]⟩, m.files)
  | .ok command =>
    let (report, files) := Workcell.execute m command workDir redactions timeout script
    ({ report with notes := built.notes ++ report.notes, spans := p.commandSpan :: report.spans }, files)

end Prepared

/-- How a command is run: the redactions of its output, its timeout, what its child does, and the faults of
its build log. -/
structure Course where
  redactions : Pairs
  timeout : Option Number
  script : Script
  faults : LogFaults

/-- What is asked in one step of a session. A command without a course is only built. -/
structure SessionStep where
  words : List String
  workDir : Path
  bindings : Pairs
  course : Option Course

inductive SessionAnswer
  | built (b : Built)
  | ran (r : Report)

namespace Prepared

def perform (p : Prepared) (m : Machine) (s : SessionStep) : SessionAnswer × Machine :=
  match s.course with
  | none => (.built (p.build m s.words s.workDir s.bindings), m)
  | some c =>
    let (report, files) := p.execute { m with logFaults := c.faults } s.words s.workDir s.bindings
      c.redactions c.timeout c.script
    (.ran report, { m with files })

def session (p : Prepared) (m : Machine) : List SessionStep → List SessionAnswer × Machine
  | [] => ([], m)
  | s :: r =>
    let (answer, next) := p.perform m s
    let (answers, last) := p.session next r
    (answer :: answers, last)

end Prepared

end Workcell
