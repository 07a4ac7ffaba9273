import Workcell.Path

namespace Workcell

structure Policy where
  network : Bool
  read : List Path
  readExecute : List Path
  readWrite : List Path
  deriving DecidableEq

namespace Policy

def withDirectory (p : Policy) (directory : Path) : Policy :=
  if directory ∈ p.readWrite then p else { p with readWrite := p.readWrite ++ [directory] }

def networkOption : String := "--network"
def readOption : String := "--fs-read"
def readExecuteOption : String := "--fs-exec-and-read"
def readWriteOption : String := "--fs-write-and-read"

def grants (option : String) (paths : List Path) : List String :=
  paths.flatMap fun p => [option, p.text]

def arguments (p : Policy) : List String :=
  (if p.network then [networkOption] else []) ++ grants readExecuteOption p.readExecute ++
    grants readWriteOption p.readWrite ++ grants readOption p.read

def listing (heading : String) (paths : List Path) : List String :=
  paths.map fun p => s!"  {heading}: {p.text}"

def description (p : Policy) : String :=
  let network := if p.network then "allowed" else "blocked"
  "\n".intercalate (["Sandbox configuration:", s!"  network: {network}"] ++ listing "read" p.read ++
    listing "read + execute" p.readExecute ++ listing "read + write" p.readWrite)

end Policy

end Workcell
