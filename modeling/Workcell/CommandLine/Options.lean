import Workcell.CommandLine.Usage
import Workcell.Machine
import Workcell.Number.Reading
import Workcell.Settings.Basic
import Workcell.Telemetry

namespace Workcell.CommandLine

structure Options where
  config : Option Path
  directory : Option Path
  sandbox : Bool
  sandboxNetwork : Bool
  container : Bool
  containerImage : Option String
  containerNetwork : Bool
  mounts : List String
  bindings : List String
  redactions : List String
  timeout : Option Double
  verbose : Bool
  telemetry : Bool
  endpoint : Option String
  dryRun : Bool

inductive Refusal
  | usage (e : UsageError)
  | nulInPath
  deriving DecidableEq, Repr

namespace Options

def none : Options :=
  ⟨.none, .none, false, false, false, .none, false, [], [], [], .none, false, false, .none, false⟩

def badValue {α : Type} (name text : String) : Except Refusal α :=
  .error (.usage (.badValue ⟨Text.quoted name, text⟩))

def filePath (m : Machine) (name s : String) : Except Refusal Path :=
  if s.toList.contains '\x00' then .error .nulInPath
  else match m.stat? s with
    | some (.file ..) => .ok (Path.ofString s)
    | some .directory => badValue name s!"File {Text.quoted s} is a directory."
    | some (.denied _) => badValue name s!"File {Text.quoted s} is not readable."
    | _ => badValue name s!"File {Text.quoted s} does not exist."

def directoryPath (m : Machine) (name s : String) : Except Refusal Path :=
  if s.toList.contains '\x00' then .error .nulInPath
  else match m.stat? s with
    | some .directory => .ok (Path.ofString s)
    | some _ => badValue name s!"Directory {Text.quoted s} is a file."
    | .none => badValue name s!"Directory {Text.quoted s} does not exist."

def seconds (name s : String) : Except Refusal Double :=
  match Number.readTyped s with
  | .none => badValue name s!"{Text.quoted s} is not a valid float range."
  | some x =>
    if x.isPositive || x.isNaN then .ok x else badValue name s!"{x.text} is not in the range x>0."

def set (m : Machine) (o : Options) (option : ExecOption) (values : List String) : Except Refusal Options :=
  let value := values.getLastD ""
  match option with
  | .config => (filePath m "--config" value).map fun p => { o with config := some p }
  | .directory => (directoryPath m "--cwd" value).map fun p => { o with directory := some p }
  | .timeout => (seconds "--timeout" value).map fun x => { o with timeout := some x }
  | .sandbox => .ok { o with sandbox := true }
  | .sandboxNetwork => .ok { o with sandboxNetwork := true }
  | .container => .ok { o with container := true }
  | .containerImage => .ok { o with containerImage := some value }
  | .containerNetwork => .ok { o with containerNetwork := true }
  | .mount => .ok { o with mounts := values }
  | .variable => .ok { o with bindings := values }
  | .redaction => .ok { o with redactions := values }
  | .verbose => .ok { o with verbose := true }
  | .telemetry => .ok { o with telemetry := true }
  | .endpoint => .ok { o with endpoint := some value }
  | .dryRun => .ok { o with dryRun := true }
  | .help => .ok o

def ofGiven (m : Machine) (given : List (Given ExecOption)) : Except Refusal Options :=
  (grouped given).foldlM (fun o (option, values) => o.set m option values) none

/-- The settings with the options put over them: an option can only switch something on, or add to it, or
replace a value. An empty image replaces none. -/
def applyTo (o : Options) (s : Settings) : Settings :=
  { s with
    sandbox := s.sandbox || o.sandbox
    sandboxNetwork := s.sandboxNetwork || o.sandboxNetwork
    container := s.container || o.container
    containerImage := (o.containerImage.filter (· ≠ "")).or s.containerImage
    containerNetwork := s.containerNetwork || o.containerNetwork
    extraMounts := s.extraMounts ++ o.mounts.map MountSetting.parse
    timeout := (o.timeout.map Number.double).or s.timeout }

def tracing? (o : Options) : Option TelemetryRequest :=
  if o.telemetry || o.endpoint.any (· ≠ "") then
    some { TelemetryRequest.default with console := o.telemetry, endpoint := o.endpoint }
  else .none

end Options

end Workcell.CommandLine
