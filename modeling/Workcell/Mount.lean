import Workcell.Canonical
import Workcell.Pairs

namespace Workcell

inductive AccessMode
  | readOnly
  | readWrite
  deriving DecidableEq, Repr

def AccessMode.text : AccessMode → String
  | readOnly => "ro"
  | readWrite => "rw"

/-- A path exposed at the same place inside and outside of an environment. -/
structure Mount where
  path : Path
  mode : AccessMode
  label : Option String
  deriving DecidableEq

namespace Mount

def shownLabel (m : Mount) : Option String := m.label.filter (· ≠ "")

def requests (workDir : Path) (extra : List Mount) : List Mount :=
  ⟨workDir, .readWrite, none⟩ :: extra

def canonical? (m : Machine) (requests : List Mount) : Option (List Mount) :=
  requests.mapM fun r => (m.canonicalize? r.path).map fun p => { r with path := p }

def exposed (r : Mount) : List Path := [r.path, r.path.parent]

/-- What the requests met so far come to: the modes of the paths they expose, and the labels. -/
structure Gathered where
  modes : List (Path × AccessMode)
  labels : List (Path × String)
  deriving DecidableEq

/-- A path that is open for writing stays so; any other one gets the mode. -/
def grant (mode : AccessMode) (modes : List (Path × AccessMode)) (p : Path) : List (Path × AccessMode) :=
  if modes.lookup p = some .readWrite then modes else putPair p mode modes

/-- The first label given to a path stays; an empty one is none. -/
def putLabel (r : Mount) (labels : List (Path × String)) : List (Path × String) :=
  match r.shownLabel with
  | none => labels
  | some l => if (labels.lookup r.path).isSome then labels else putPair r.path l labels

def Gathered.add (g : Gathered) (r : Mount) : Gathered :=
  ⟨r.exposed.foldl (grant r.mode) g.modes, r.putLabel g.labels⟩

def gather (requests : List Mount) : Gathered := requests.foldl Gathered.add ⟨[], []⟩

def combine (requests : List Mount) : List Mount :=
  let g := gather requests
  (g.modes.mergeSort fun a b => a.1.before b.1).map fun entry =>
    ⟨entry.1, entry.2, g.labels.lookup entry.1⟩

/-- The mounts of a container whose command runs in `workDir`. None if a path holds a NUL character. -/
def resolve? (m : Machine) (workDir : Path) (extra : List Mount) : Option (List Mount) :=
  (canonical? m (requests workDir extra)).map combine

end Mount

end Workcell
