import Workcell.CommandLine.Program

namespace Workcell

def entryAt (path : String) (tool : Bool) : IO (Option Entry) := do
  try
    let real ← IO.FS.realPath path
    if ← real.isDir then pure (some .directory)
    else if ← real.pathExists then
      let bytes ← if tool then pure ByteArray.empty else IO.FS.readBinFile real
      pure (some (.file bytes.toList tool))
    else pure none
  catch _ => pure none

def look (m : Machine) (path : String) (tool : Bool) : IO Machine := do
  match ← entryAt path tool with
  | some e =>
    let place := (m.absolute (Path.ofString path)).parts
    pure { m with files := m.files.put place e }
  | none => pure m

def toolPaths (searchPath : String) : List String :=
  (Text.segments ':' searchPath).flatMap fun directory =>
    [Backend.sandboxTool, defaultEngine].map (Machine.inDirectory directory)

/-- The machine as far as the words of a command line name its files. -/
def machineFor (words : List String) : IO Machine := do
  let cwd := Path.ofString (← IO.currentDir).toString
  let searchPath := (← IO.getEnv "PATH").getD Machine.defaultSearchPath
  let m : Machine := { Machine.bare with
    files := Filesystem.empty.put cwd.parts .directory
    cwd, environ := .ofList [("PATH", searchPath)]
    user := 1000, group := 1000, engineCheck := .exits 0 [] [] }
  let values := words.filterMap fun w => (CommandLine.splitValue w).2
  let m ← (words ++ values).foldlM (fun m w => look m w false) m
  (toolPaths searchPath).foldlM (fun m p => look m p true) m

def noChild : Script := ⟨[], .works, some .notImplemented⟩

end Workcell

def main (words : List String) : IO UInt32 := do
  let o := Workcell.CommandLine.run (← Workcell.machineFor words) words Workcell.noChild
  IO.print o.output
  o.notes.forM fun n => IO.eprintln n.text
  IO.eprint (o.complaint.getD "")
  pure (UInt32.ofNat o.exitCode.toNat)
