import Workcell.Configuration
import Workcell.Display.Table

namespace Workcell.Display

def Console.forLog (k : Console) : Console := { k with width := 100 }

def mountText (m : Mount) : String :=
  let name := match m.shownLabel with
    | some label => s!"[cyan]{label}[/cyan]"
    | none => m.path.text
  let access := match m.mode with
    | .readOnly => "(read-only)"
    | .readWrite => "(read-write)"
  s!"{name} [dim]{access}[/dim]"

def containerTable (c : Container) (mounts : List Mount) : Table :=
  { title := "Container Build Environment"
    frame := .rounded
    rows := [
      ("Image:", s!"[bold cyan]{c.image}[/bold cyan]"),
      ("Network:", if c.network then "[green]Enabled[/green]" else "[dim]Isolated (--network=none)[/dim]"),
      ("Engine:", c.engine),
      ("Volume Mounts:", if mounts = [] then "-" else "")] ++ mounts.map fun m => ("  •", mountText m) }

def runnerTable (kind : RunnerKind) (policy : Option PolicyOffer) : Table :=
  { title := "Build Environment"
    frame := .square
    rows := ("Runner:", kind.name) :: (policy.map fun p => ("Policy:", p.description)).toList }

def configurationTable (c : Configuration) : Table :=
  match c.container with
  | some container => containerTable container c.mounts
  | none => runnerTable c.kind c.policy

end Workcell.Display
