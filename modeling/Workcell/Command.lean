import Workcell.Pairs
import Workcell.Path
import Workcell.Mount

namespace Workcell

structure Invocation where
  program : String
  arguments : List String
  workDir : Path
  bindings : Pairs
  mounts : List Mount

def Invocation.words (i : Invocation) : List String := i.program :: i.arguments

/-- The bindings put over the environment of the parent process. `PWD` comes first and is set even when
the request does not name it, since some shells trust an inherited value over their real directory. -/
def Invocation.environment (i : Invocation) : Pairs :=
  (Pairs.empty.insert "PWD" i.workDir.text).overlay i.bindings

structure Command where
  program : String
  arguments : List String
  cwd : Path
  environment : Pairs
  deriving DecidableEq

def Command.argv (c : Command) : List String := c.program :: c.arguments

end Workcell
