import Workcell.Command
import Workcell.Display.Markup
import Workcell.Display.Wrap
import Workcell.Text.Shell

namespace Workcell.Display

namespace Console

variable (k : Console)

def printMarkup (cs : List Char) : Except MarkupError (List String) :=
  (render k cs).map fun text =>
    if k.width = 0 then []
    else (Text.split '\n' text).map fun line => String.ofList (dropExcess k.width (detab line))

def printLabelled (label text : String) : Except MarkupError (List String) :=
  k.printMarkup (label.toList ++ ' ' :: escape text.toList)

def printCommand (c : Command) : Except MarkupError (List String) :=
  match k.printLabelled "[bold]Command:[/bold]" (Text.shellJoin c.argv),
      k.printLabelled "[bold]Working directory:[/bold]" c.cwd.text with
  | .ok command, .ok directory => .ok (command ++ directory)
  | .error e, _ => .error e
  | _, .error e => .error e

end Console

end Workcell.Display
