import Workcell.Command
import Workcell.Run.Progress

namespace Workcell

def logName : String := "conda_build.log"

def lineLimit : Nat := 1024 * 1024

inductive AttributeValue
  | text (s : String)
  | number (n : Int)
  deriving DecidableEq, Repr

structure Span where
  name : String
  attributes : List (String × AttributeValue)
  deriving DecidableEq, Repr

namespace Attribute

def kind : String := "buildrunner.runner.kind"
def program : String := "buildrunner.runner.program"
def workDir : String := "buildrunner.runner.work_dir"
def exitCode : String := "buildrunner.runner.exit_code"

end Attribute

structure Spawned where
  argv : List String
  cwd : Path
  environment : List (String × String)
  newSession : Bool
  deriving DecidableEq

structure Result where
  exitCode : Int
  stdout : String
  stderr : String
  deriving DecidableEq, Repr

structure Report where
  result : Except Failure Result
  steps : List (List String)
  spawned : List Spawned
  kills : List Kill
  notes : List Note
  spans : List Span

/-- The moment at which a timeout is due. One that is not above zero is due at once, an infinite one
never. -/
def dueAt : Option Number → Option Rat
  | none => none
  | some n =>
    if n.isPositive then n.toRat? else some 0

def timeoutError (timeout : Option Number) : RunnerError :=
  match timeout with
  | some n => .timedOut (if n.isZero then .double (.ofInt 0) else n)
  | none => .timedOut (.double (.ofInt 0))

def Machine.childOf (m : Machine) (c : Command) : Spawned :=
  ⟨c.argv, c.cwd, (m.environ.overlay c.environment).entries, m.posix⟩

def Machine.openLog (m : Machine) (workDir : Path) : Except Failure (BuildLog × Filesystem) :=
  (BuildLog.new (workDir.child logName)).enter m.base m.logBuffer m.logFaults m.files

def resultOf (timeout : Option Number) (r : Record) : Ending → Except Failure Result
  | .exited code => .ok ⟨code, r.captured .out, r.captured .err⟩
  | .stopped .timeout => .error (.runner (timeoutError timeout))
  | .stopped .cancellation => .error .cancelled

def exitAttributes : Ending → List (String × AttributeValue)
  | .exited code => [(Attribute.exitCode, .number code)]
  | .stopped _ => []

def withoutTrailingEmpties (steps : List (List String)) : List (List String) :=
  (steps.reverse.dropWhile List.isEmpty).reverse

def executeSpan (attributes : List (String × AttributeValue)) : Span := ⟨"runner.execute", attributes⟩

def Machine.terms (m : Machine) (limit : Nat) (timeout : Option Number) (script : Script) : Terms :=
  ⟨dueAt timeout, m.posix, script.kill, limit⟩

def Machine.handling (m : Machine) (redactions : Pairs) : Handling :=
  ⟨orderedRedactions redactions, m.logFaults⟩

/-- Runs a command and keeps its redacted output. Lines up to `limit` bytes are read whole. -/
def executeWithin (limit : Nat) (m : Machine) (c : Command) (workDir : Path) (redactions : Pairs)
    (timeout : Option Number) (script : Script) : Report × Filesystem :=
  match m.openLog workDir with
  | .error failure => (⟨.error failure, [], [], [], [], [executeSpan []]⟩, m.files)
  | .ok (log, files) =>
    let child := m.childOf c
    let attributes := [(Attribute.program, .text c.program), (Attribute.workDir, .text workDir.text)]
    match script.spawn with
    | some e =>
      let failure := .runner (.spawn s!"Failed to spawn {c.program}: {e.message}")
      let (files, notes) := (Record.blank log files).close (m.handling redactions)
      (⟨.error failure, [], [child], [], notes, [executeSpan attributes]⟩, files)
    | none =>
      let terms := m.terms limit timeout script
      let handling := m.handling redactions
      let start : Progress := ⟨.start terms, .blank log files⟩
      let ⟨state, record⟩ := (start.after terms handling script.events).conclude terms handling
      let ending := state.ending?.getD (.stopped .cancellation)
      let (files, notes) := record.close handling
      (⟨resultOf timeout record ending, withoutTrailingEmpties (start.steps terms handling script.events),
        [child], state.kills.map Prod.snd, notes,
        [executeSpan (attributes ++ exitAttributes ending)]⟩, files)

def execute (m : Machine) (c : Command) (workDir : Path) (redactions : Pairs) (timeout : Option Number)
    (script : Script) : Report × Filesystem :=
  executeWithin lineLimit m c workDir redactions timeout script

end Workcell
