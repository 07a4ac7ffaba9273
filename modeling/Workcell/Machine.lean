import Workcell.Display.Markup
import Workcell.Filesystem
import Workcell.Pairs
import Workcell.Telemetry

namespace Workcell

inductive EngineCheck
  | exits (code : Int) (stdout stderr : List UInt8)
  | fails (e : Errno)
  | hangs
  deriving DecidableEq, Repr

/-- The faults of a build log: the numbers of the writes that fail, counted from one at each opening, whether
flushing and closing fail, and whether a closing that fails loses what waits in the buffer. -/
structure LogFaults where
  writes : List Nat
  flush : Bool
  close : Bool
  loses : Bool
  deriving DecidableEq, Repr

namespace LogFaults

def none : LogFaults := ⟨[], false, false, false⟩

/-- After a flush that worked nothing waits any more. -/
def losesAtClosing (faults : LogFaults) : Bool := faults.flush && faults.close && faults.loses

end LogFaults

structure Machine where
  files : Filesystem
  cwd : Path
  environ : Pairs
  user : Int
  group : Int
  /-- Whether processes have groups that can be killed as a whole. -/
  posix : Bool
  windows : Bool
  engineCheck : EngineCheck
  /-- How many bytes an open build log holds back from its file. -/
  logBuffer : Nat
  logFaults : LogFaults
  /-- The packages for tracing that are installed. -/
  telemetry : TelemetryPackages
  console : Display.Console

namespace Machine

def bare : Machine where
  files := .empty
  cwd := .ofString "/"
  environ := .empty
  user := 0
  group := 0
  posix := true
  windows := false
  engineCheck := .hangs
  logBuffer := 8192
  logFaults := .none
  telemetry := ⟨false, false⟩
  console := ⟨80, fun _ => none⟩

def defaultSearchPath : String := "/bin:/usr/bin"

def base (m : Machine) : Place := m.cwd.parts

def absolute (m : Machine) (p : Path) : Path := m.cwd.join p

/-- Whether a path as written can only lead to a directory: it ends in a slash, or in a slash and a dot. -/
def asksForDirectory (s : String) : Bool := s.endsWith "/" || s.endsWith "/."

def stat? (m : Machine) (s : String) : Option Entry :=
  if s.isEmpty then none
  else match m.files.lookup m.base (Path.ofString s) with
    | .ok (_, .directory) => some .directory
    | .ok (_, e) => if asksForDirectory s then none else some e
    | .error _ => none

def isExecutable (m : Machine) (s : String) : Bool :=
  match m.stat? s with
  | some (.file _ executable) => executable
  | _ => false

def inDirectory (directory name : String) : String :=
  if directory.toList.getLast?.all (· == '/') then directory ++ name else directory ++ "/" ++ name

/-- Finds a program. A name with a slash is taken as a path; any other name is looked for in the
directories of the search path in order. -/
def findExecutable (m : Machine) (name : String) : Option Path :=
  let candidates :=
    if '/' ∈ name.toList then [name]
    else
      let searchPath := (m.environ.get? "PATH").getD defaultSearchPath
      if searchPath.isEmpty then [] else (Text.segments ':' searchPath).map (inDirectory · name)
  (candidates.find? m.isExecutable).map Path.ofString

end Machine

end Workcell
