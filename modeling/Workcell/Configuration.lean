import Workcell.Container
import Workcell.Failure
import Workcell.Mount
import Workcell.Policy
import Workcell.Schema.Checked
import Workcell.Schema.Models
import Workcell.Settings.Basic

namespace Workcell

inductive RunnerKind
  | host
  | sandbox
  | container
  deriving DecidableEq, Repr

def RunnerKind.name : RunnerKind → String
  | host => "host"
  | sandbox => "sandbox"
  | container => "container"

/-- Something offered as a sandbox policy: the standard policy, or an object of another kind, known by its
description and, if it can be bound to a directory and rendered, by the arguments that gives. -/
inductive PolicyOffer
  | standard (p : Policy)
  | custom (description : String) (render? : Option (Path → List String))

namespace PolicyOffer

def description : PolicyOffer → String
  | standard p => p.description
  | custom description _ => description

def render? : PolicyOffer → Option (Path → List String)
  | standard p => some fun directory => (p.withDirectory directory).arguments
  | custom _ render? => render?

def serves (o : PolicyOffer) : Bool := o.render?.isSome

end PolicyOffer

structure Draft where
  kind : RunnerKind
  /-- Whether a configuration of direct execution is given; it has no content. -/
  hostConfig : Bool
  policy : Option PolicyOffer
  container : Option Container
  mounts : List Mount

inductive Inconsistency
  | noPolicy
  | strayPolicy
  | strayHostConfig
  | noContainer
  | strayMounts
  deriving DecidableEq, Repr

def Inconsistency.message : Inconsistency → String
  | noPolicy => "sandbox runner requires a sandbox policy with with_cwd() and to_args()"
  | strayPolicy => "only the sandbox runner takes a sandbox policy"
  | strayHostConfig => "only the host runner takes a host configuration"
  | noContainer => "container runner requires a container configuration"
  | strayMounts => "only the container runner takes mounts"

def Draft.inconsistency? (d : Draft) : Option Inconsistency :=
  if d.kind = .sandbox ∧ !d.policy.any PolicyOffer.serves then some .noPolicy
  else if d.kind ≠ .sandbox ∧ d.policy.isSome then some .strayPolicy
  else if d.kind ≠ .host ∧ d.hostConfig then some .strayHostConfig
  else if d.kind = .container ∧ d.container.isNone then some .noContainer
  else if d.kind ≠ .container ∧ d.mounts ≠ [] then some .strayMounts
  else none

structure Configuration extends Draft where
  consistent : toDraft.inconsistency? = none

namespace Configuration

def ofDraft (d : Draft) : Checked Configuration :=
  match h : d.inconsistency? with
  | none => .valid ⟨d, h⟩
  | some i => Checked.fail (.rule i.message)

def kinds : List (String × RunnerKind) :=
  [("host", .host), ("sandbox", .sandbox), ("container", .container)]

def readDraft (policy : Option PolicyOffer) (mounts : List Mount) (e : List (Datum × Datum)) :
    Checked Draft :=
  (fun kind hostConfig container => ⟨kind, hostConfig.isSome, policy, container, mounts⟩)
    <$> Schema.fieldOr "kind" .host (Schema.oneOf kinds) e
    <*> Schema.fieldOr "host_config" none (Schema.optional Schema.hostConfig) e
    <*> Schema.fieldOr "container" none (Schema.optional Schema.container) e

/-- Reads a configuration; contradictions are looked for only when all parts can be read. -/
def read (policy : Option PolicyOffer) (mounts : List Mount) (e : List (Datum × Datum)) :
    Checked Configuration :=
  (readDraft policy mounts e).andThen ofDraft

def host : Configuration := ⟨⟨.host, true, none, none, []⟩, by simp [Draft.inconsistency?]⟩

def sandbox (p : Policy) : Configuration :=
  ⟨⟨.sandbox, false, some (.standard p), none, []⟩, by
    simp [Draft.inconsistency?, PolicyOffer.serves, PolicyOffer.render?]⟩

def containerWith (c : Container) (mounts : List Mount) : Configuration :=
  ⟨⟨.container, false, none, some c, mounts⟩, by simp [Draft.inconsistency?]⟩

def inContainer (m : Machine) (c : Container) (workDir : Path) (extra : List Mount) :
    Except Failure Configuration :=
  match Mount.resolve? m workDir extra with
  | some mounts => .ok (containerWith c mounts)
  | none => .error .nulInPath

def bothChosen : String := "the sandbox and container runners are mutually exclusive; enable only one"

def noImage : String :=
  "the container runner requires an image; set container_image (--container-image)"

def policyOf (s : Settings) : Policy :=
  ⟨s.sandboxNetwork, s.sandboxRead.map Path.ofString, s.sandboxReadExecute.map Path.ofString,
    s.sandboxReadWrite.map Path.ofString⟩

def containerOf (s : Settings) (image : String) (h : image ≠ "") : Checked Container :=
  Schema.containerOf ⟨image, h⟩ s.containerNetwork <$>
    (Schema.someText (.text s.containerEngine)).within (.name "engine")

def ofSettings (m : Machine) (s : Settings) (workDir : Path) : Except Failure Configuration :=
  if s.sandbox ∧ s.container then .error (.runner (.configuration bothChosen))
  else if s.container then
    let image := s.containerImage.getD ""
    if h : image = "" then .error (.runner (.configuration noImage))
    else match containerOf s image h with
      | .valid c => inContainer m c workDir (s.extraMounts.map MountSetting.toMount)
      | .invalid ps => .error (.invalid ps)
  else if s.sandbox then .ok (sandbox (policyOf s))
  else .ok host

end Configuration

end Workcell
