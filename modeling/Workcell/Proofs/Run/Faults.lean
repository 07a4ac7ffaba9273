import Workcell.Proofs.Run.Sinks
import Mathlib.Data.List.Range

namespace Workcell

open History

namespace BuildLog

variable {log : BuildLog} {faults : LogFaults} {fs : Filesystem} {handle : Handle}

end BuildLog

namespace Record

variable (h : Handling) {r : Record} {handle : Handle}

end Record

section Report

variable (limit : Nat) (m : Machine) (c : Command) (workDir : Path) (redactions : Pairs)
  (timeout : Option Number) (script : Script)

end Report

end Workcell
