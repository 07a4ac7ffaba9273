import Workcell.Failure
import Workcell.Machine
import Workcell.Schema.Models
import Workcell.Text.Breaks
import Workcell.Text.Variables
import Workcell.Yaml.Document

namespace Workcell

inductive SettingsError
  | unreadable (path : Path) (e : Errno)
  | malformed
  | notMapping
  | invalid (problems : List Problem)

def SettingsError.message : SettingsError → String
  | unreadable path e => s!"Cannot read {path}: {e.messageAt path.text}"
  | malformed => "YAML parse error"
  | notMapping => "Settings YAML must be a mapping"
  | invalid _ => ""

/-- Why a file gives no settings: an error of the settings, or a fault of its path, of its encoding or of a
scalar, which is not reported as one. -/
inductive LoadFailure
  | settings (e : SettingsError)
  | nulInPath
  | notUtf8 (f : Utf8.Fault)
  | scalar (e : Yaml.ScalarError)
  /-- There are settings, but one of their texts holds half of a surrogate pair and so is none here. -/
  | halfPair

def LoadFailure.message : LoadFailure → String
  | settings e => e.message
  | nulInPath => nulMessage
  | notUtf8 f => f.message
  | scalar e => e.message
  | halfPair => ""

namespace Settings

def textOf (m : Machine) (p : Path) : Except LoadFailure String :=
  if p.hasNul then .error .nulInPath
  else match m.files.read m.base p with
    | .error e => .error (.settings (.unreadable p e))
    | .ok bytes => match Utf8.decode bytes with
      | .error f => .error (.notUtf8 f)
      | .ok cs => .ok (String.ofList (Text.expand m.environ.get? (Text.unifyBreaks cs)))

/-- The mapping that holds the settings. Without any data there are none. -/
def entriesOf : Datum → Except SettingsError (List (Datum × Datum))
  | .null => .ok []
  | .mapping entries => match Datum.get? "runner" entries with
    | some (.mapping inner) => .ok inner
    | _ => .ok entries
  | _ => .error .notMapping

def ofDatum (d : Datum) : Except LoadFailure Settings :=
  match entriesOf d with
  | .error e => .error (.settings e)
  | .ok entries => match Schema.settings (.mapping entries) with
    | .valid s => .ok s
    | .invalid problems => match problems.filter (·.fault ≠ .halfPair) with
      | [] => .error .halfPair
      | problems => .error (.settings (.invalid problems))

def ofTextBy (read : String → Except Yaml.Error Datum) (text : String) : Except LoadFailure Settings :=
  match read text with
  | .error .malformed => .error (.settings .malformed)
  | .error (.scalar e) => .error (.scalar e)
  | .ok d => ofDatum d

def ofFileBy (read : String → Except Yaml.Error Datum) (m : Machine) (p : Path) : Except LoadFailure Settings :=
  match textOf m p with
  | .error e => .error e
  | .ok text => ofTextBy read text

def ofText : String → Except LoadFailure Settings := ofTextBy Yaml.read

def ofFile : Machine → Path → Except LoadFailure Settings := ofFileBy Yaml.read

end Settings

end Workcell
