import Workcell.Machine
import Workcell.Proofs.Filesystem

namespace Workcell.Machine

variable {m : Machine} {name file : String} {content : List UInt8}

theorem isExecutable_of_entry (hparts : (Path.ofString file).parts = [name]) (hbase : m.base = [])
    (hname : name ≠ ".." ∧ ¬longestName < name.utf8ByteSize) (hfile : asksForDirectory file = false)
    (hne : file ≠ "") (hentry : m.files.entry? [name] = some (.file content true)) :
    m.isExecutable file = true := by
  have hwalk : m.files.walk linkBudget [] [name] = .ok ([] ++ [name]) :=
    Filesystem.walk_last hname.1 hname.2 (by simp [hentry]) (by simp [hentry])
  have hlookup : m.files.lookup m.base (.ofString file) = .ok ([name], .file content true) := by
    rw [Filesystem.lookup, Filesystem.locate, hparts, hbase, ite_self, hwalk]
    simp only [List.nil_append, hentry]
  simp [isExecutable, stat?, hlookup, hfile, hne]

theorem findExecutable_of_candidates {searchPath : String} (hslash : '/' ∉ name.toList)
    (hsearch : m.environ.get? "PATH" = some searchPath) (hne : searchPath ≠ "")
    (hcandidates : (Text.segments ':' searchPath).map (inDirectory · name) = [file])
    (hrun : m.isExecutable file = true) : m.findExecutable name = some (.ofString file) := by
  simp [findExecutable, hslash, hsearch, hne, hcandidates, hrun]

end Workcell.Machine
