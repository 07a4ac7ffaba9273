import Workcell.Command
import Workcell.Configuration
import Workcell.Display.Environment
import Workcell.Note

namespace Workcell

/-- What building a command brought about: the command, what was reported on the way, the version checks
that were made, and whether the table of the environment was shown. -/
structure Built where
  result : Except Failure Command
  notes : List Note
  checks : List (List String)
  tableShown : Bool

inductive Backend
  | host
  | sandbox (description : String) (render : Path → List String)
  | container (c : Container)

namespace Backend

def commandOf (program : String) (arguments : List String) (i : Invocation) : Command :=
  ⟨program, arguments, i.workDir, i.environment⟩

def sandboxTool : String := "rattler-sandbox"

def sandboxRemedy : String := s!"Please install it with: pixi global install {sandboxTool}"

def buildSandbox (m : Machine) (description : String) (render : Path → List String) (i : Invocation) :
    Built :=
  let policyNote : Note := ⟨.info, description⟩
  match m.findExecutable sandboxTool with
  | none => ⟨.error (.runner (.toolMissing sandboxTool sandboxRemedy)),
      [policyNote, ⟨.error, s!"{sandboxTool} executable not found in PATH"⟩, ⟨.error, sandboxRemedy⟩],
      [], false⟩
  | some tool => ⟨.ok (commandOf tool.text (render i.workDir ++ i.words) i), [policyNote], [], false⟩

def engineRemedy : String :=
  "Please install Docker (https://docs.docker.com/get-docker/) to use the container runner."

def windowsRemedy : String :=
  "Windows cannot reliably build packages for Linux targets; use the host runner instead."

def mountOption (mount : Mount) : String :=
  let path := mount.path.text
  match mount.mode with
  | .readOnly => s!"{path}:{path}:ro"
  | .readWrite => s!"{path}:{path}"

/-- The arguments of the engine. Files written to mounts keep their owner, since the container runs as the
user who asked for it. -/
def engineArguments (m : Machine) (c : Container) (i : Invocation) : List String :=
  ["run", "--rm"] ++ (if m.posix then ["--user", s!"{m.user}:{m.group}"] else []) ++
    (if c.network then [] else ["--network=none"]) ++
    i.mounts.flatMap (fun mount => ["-v", mountOption mount]) ++
    ["-w", i.workDir.text, c.image] ++ i.words

def engineComplaint? (engine : String) : EngineCheck → Option String
  | .exits code _ stderr =>
    if code = 0 then none
    else
      let said := String.ofList (Text.trim Text.isSpacing (Utf8.decodeLossy stderr))
      some (if said.isEmpty then s!"rc={code}" else said)
  | .fails e => some e.message
  | .hangs =>
    let words := Text.quotedList [engine, "--version"]
    some s!"Command '{words}' timed out after 30.0 seconds"

def buildContainer (m : Machine) (c : Container) (i : Invocation) : Built :=
  if m.windows then
    ⟨.error (.runner (.unsupportedPlatform "Windows" windowsRemedy)), [], [], false⟩
  else if (m.findExecutable c.engine).isNone then
    ⟨.error (.runner (.toolMissing c.engine engineRemedy)), [], [], false⟩
  else
    let check := [c.engine, "--version"]
    match engineComplaint? c.engine m.engineCheck with
    | some complaint =>
      ⟨.error (.runner (.toolMissing c.engine s!"{engineRemedy} ({complaint})")), [], [check], false⟩
    | none => match (Display.containerTable c i.mounts).lines m.console.forLog with
      | .error e => ⟨.error (.markup e), [], [check], false⟩
      | .ok _ => ⟨.ok (commandOf c.engine (engineArguments m c i) i), [], [check], true⟩

def build (m : Machine) (i : Invocation) : Backend → Built
  | host => ⟨.ok (commandOf i.program i.arguments i), [], [], false⟩
  | sandbox description render => buildSandbox m description render i
  | container c => buildContainer m c i

end Backend

end Workcell
