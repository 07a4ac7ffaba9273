import Workcell.Command
import Workcell.Container
import Workcell.Policy
import Workcell.Run.Execute
import Workcell.Schema.Compound
import Workcell.Settings.Basic

namespace Workcell.Schema

open Checked

def accessModes : List (String × AccessMode) := [("ro", .readOnly), ("rw", .readWrite)]

def mount : Datum → Checked Mount :=
  record fun e =>
    Mount.mk <$> field "path" path e
      <*> fieldOr "access_mode" .readWrite (oneOf accessModes) e
      <*> fieldOr "label" none (optional text) e

def hostConfig : Datum → Checked Unit := record fun _ => valid ()

def policy : Datum → Checked Policy :=
  record fun e =>
    Policy.mk <$> fieldOr "allow_network" false bool e
      <*> fieldOr "read" [] (list path) e
      <*> fieldOr "read_execute" [] (list path) e
      <*> fieldOr "read_write" [] (list path) e

def containerOf (image : { s : String // s ≠ "" }) (network : Bool) (engine : { s : String // s ≠ "" }) :
    Container :=
  ⟨image.1, network, engine.1, image.2, engine.2⟩

def container : Datum → Checked Container :=
  record fun e =>
    containerOf <$> field "image" someText e
      <*> fieldOr "allow_network" false bool e
      <*> fieldOr "engine" ⟨defaultEngine, defaultEngine_ne⟩ someText e

def words (d : Datum) : Checked (String × List String) :=
  (list text d).andThen fun
    | [] => fail .tooShort
    | program :: arguments => valid (program, arguments)

def invocation : Datum → Checked Invocation :=
  record fun e =>
    (fun (w : String × List String) dir vars mounts => Invocation.mk w.1 w.2 dir vars mounts)
      <$> field "command_args" words e
      <*> field "work_dir" path e
      <*> fieldOr "env_vars" .empty pairs e
      <*> fieldOr "mounts" [] (list mount) e

def command : Datum → Checked Command :=
  record fun e =>
    Command.mk <$> field "program" text e
      <*> fieldOr "args" [] (list text) e
      <*> field "cwd" path e
      <*> fieldOr "env" .empty pairs e

def result : Datum → Checked Result :=
  record fun e =>
    Result.mk <$> field "exit_code" int e
      <*> fieldOr "stdout" "" byteText e
      <*> fieldOr "stderr" "" byteText e

def mountSetting : Datum → Checked MountSetting :=
  record fun e =>
    MountSetting.mk <$> field "path" text e
      <*> fieldOr "read_only" false bool e
      <*> fieldOr "label" none (optional text) e

def settings : Datum → Checked Settings :=
  record fun e =>
    Settings.mk <$> fieldOr "sandbox" false bool e
      <*> fieldOr "sandbox_allow_network" false bool e
      <*> fieldOr "sandbox_read" [] (list text) e
      <*> fieldOr "sandbox_read_execute" [] (list text) e
      <*> fieldOr "sandbox_read_write" [] (list text) e
      <*> fieldOr "container" false bool e
      <*> fieldOr "container_image" none (optional text) e
      <*> fieldOr "container_allow_network" false bool e
      <*> fieldOr "container_engine" defaultEngine text e
      <*> fieldOr "extra_mounts" [] (list mountSetting) e
      <*> fieldOr "redactions" .empty pairs e
      <*> fieldOr "timeout" none (optional positive) e

end Workcell.Schema
