import Workcell.Mount
import Workcell.Number.Basic
import Workcell.Pairs
import Workcell.Text.Split

namespace Workcell

structure MountSetting where
  path : String
  readOnly : Bool
  label : Option String
  deriving DecidableEq, Repr

namespace MountSetting

/-- Reads `PATH`, `PATH:ro` or `PATH:rw`. A colon that no mode follows belongs to the path. -/
def parse (spec : String) : MountSetting :=
  match Text.cutLast ':' spec.toList with
  | some (path, mode) =>
    if mode = ['r', 'o'] then ⟨String.ofList path, true, none⟩
    else if mode = ['r', 'w'] then ⟨String.ofList path, false, none⟩
    else ⟨spec, false, none⟩
  | none => ⟨spec, false, none⟩

def toMount (s : MountSetting) : Mount :=
  ⟨Path.ofString s.path, if s.readOnly then .readOnly else .readWrite, s.label⟩

end MountSetting

structure Settings where
  sandbox : Bool
  sandboxNetwork : Bool
  sandboxRead : List String
  sandboxReadExecute : List String
  sandboxReadWrite : List String
  container : Bool
  containerImage : Option String
  containerNetwork : Bool
  containerEngine : String
  extraMounts : List MountSetting
  redactions : Pairs
  timeout : Option Number
  deriving DecidableEq

namespace Settings

def default : Settings :=
  ⟨false, false, [], [], [], false, none, false, "docker", [], .empty, none⟩

end Settings

end Workcell
