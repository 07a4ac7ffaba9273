import Workcell.CommandLine.Options
import Workcell.Display.Console
import Workcell.Session
import Workcell.Settings.File
import Workcell.Telemetry

namespace Workcell.CommandLine

/-- What ends the program without a report of its own. -/
inductive Escape
  | failure (f : Failure)
  | load (f : LoadFailure)
  | telemetry (e : TelemetryError)

/-- What an invocation of the program brought about: its exit code, what it wrote, the complaint about its
use, the failure that it did not report, and what its run did. -/
structure Outcome where
  exitCode : Int
  output : String
  complaint : Option String
  escaped : Option Escape
  telemetry : List TelemetryRequest
  steps : List (List String)
  spawned : List Spawned
  kills : List Kill
  notes : List Note
  /-- The build log, if it was opened. -/
  log : Option Place
  files : Filesystem

namespace Outcome

def start (m : Machine) : Outcome := ⟨0, "", none, none, [], [], [], [], [], none, m.files⟩

def write (o : Outcome) (text : String) : Outcome := { o with output := o.output ++ text }

def escape (o : Outcome) (e : Escape) : Outcome := { o with exitCode := 1, escaped := some e }

def misuse (o : Outcome) (e : UsageError) : Outcome := { o with exitCode := 2, complaint := some e.text }

def display (o : Outcome) (lines : Except MarkupError (List String)) (next : Outcome → Outcome) : Outcome :=
  match lines with
  | .ok lines => next (o.write (unlines lines))
  | .error e => o.escape (.failure (.markup e))

def report (o : Outcome) (k : Display.Console) (label text : String) : Outcome :=
  o.display (k.printLabelled s!"[red]{label}:[/red]" text) fun o => { o with exitCode := 1 }

def fail (o : Outcome) (k : Display.Console) : Failure → Outcome
  | .runner e => o.report k "Runner error" (if e.detail.isEmpty then e.message else e.detail)
  | f => o.escape (.failure f)

end Outcome

/-- The exit code for the exit code of a child. One that a signal ended is reported as shells do. -/
def exitCodeOf (code : Int) : Int := if 0 ≤ code then code else 128 - code

structure Task where
  words : List String
  workDir : Path
  bindings : Pairs
  redactions : Pairs
  timeout : Option Number
  verbose : Bool

namespace Task

def preview (t : Task) (m : Machine) (c : Configuration) (o : Outcome) : Outcome :=
  o.display ((Display.configurationTable c).lines m.console) fun o =>
    let built := c.prepare.build m t.words t.workDir t.bindings
    let o := { o with notes := o.notes ++ built.notes }
    match built.result with
    | .error f => o.fail m.console f
    | .ok command => o.display (m.console.printCommand command) id

def run (t : Task) (m : Machine) (c : Configuration) (script : Script) (o : Outcome) : Outcome :=
  let (r, files) := c.prepare.execute m t.words t.workDir t.bindings t.redactions t.timeout script
  let log := if r.spawned = [] then none else (files.locate m.base (t.workDir.child logName)).toOption
  let o := { o with
    steps := r.steps, spawned := r.spawned, kills := r.kills, notes := o.notes ++ r.notes, log, files }
  match r.result with
  | .error f => o.fail m.console f
  | .ok result =>
    let o := { o with exitCode := exitCodeOf result.exitCode }
    if t.verbose then o.write s!"Exit code: {result.exitCode}\n" else o

end Task

def startTracing (m : Machine) (options : Options) : Except TelemetryError (Option TracerProvider) :=
  match options.tracing? with
  | some request => (request.configure m.telemetry).map some
  | none => .ok none

def loadSettings (m : Machine) (options : Options) : Except LoadFailure Settings :=
  match options.config with
  | some p => Settings.ofFile m p
  | none => .ok .default

def assignments (options : Options) : Except UsageError (Pairs × Pairs) :=
  match readAssignments "--env" options.bindings, readAssignments "--redact" options.redactions with
  | .ok bindings, .ok redactions => .ok (bindings, redactions)
  | .error e, _ | _, .error e => .error (.badValue e)

def exec (m : Machine) (options : Options) (words : List String) (script : Script) : Outcome :=
  let o := { Outcome.start m with telemetry := options.tracing?.toList }
  match startTracing m options with
  | .error e => o.escape (.telemetry e)
  | .ok _ => match loadSettings m options with
    | .error (.settings e) => o.report m.console "Settings error" e.message
    | .error f => o.escape (.load f)
    | .ok loaded => match assignments options with
      | .error e => o.misuse e
      | .ok (bindings, redactions) =>
        let settings := options.applyTo loaded
        let workDir := m.absolute (options.directory.getD m.cwd)
        match Configuration.ofSettings m settings workDir with
        | .error f => o.fail m.console f
        | .ok c =>
          let task : Task := ⟨words, workDir, bindings, loaded.redactions.overlay redactions,
            settings.timeout, options.verbose⟩
          if options.dryRun then task.preview m c o else task.run m c script o

def execWords (m : Machine) (words : List String) (script : Script) : Outcome :=
  let o := Outcome.start m
  match readWords execOptions true words with
  | .error e => o.misuse e
  | .ok ws =>
    if ws.given.any fun g => g.1 = .help then o.write execHelp
    else match Options.ofGiven m ws.given with
      | .error (.usage e) => o.misuse e
      | .error .nulInPath => o.escape (.failure .nulInPath)
      | .ok options =>
        if ws.rest = [] then o.misuse .noCommand else exec m options ws.rest script

end Workcell.CommandLine
