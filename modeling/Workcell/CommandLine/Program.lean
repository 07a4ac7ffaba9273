import Workcell.CommandLine.Exec

namespace Workcell.CommandLine

def programOption? (m : Machine) (ws : Words ProgramOption) : Option Outcome :=
  ws.given.head?.map fun g => match g.1 with
    | .version => (Outcome.start m).write versionText
    | .help => (Outcome.start m).write programHelp

/-- A name that is no command. One that looks like an option is read as one once more, since it may have
followed two dashes. -/
def unknownCommand (m : Machine) (words : List String) (name : String) : Outcome :=
  let o := Outcome.start m
  let complaint := o.misuse (.noSuchCommand name)
  if name.startsWith "-" then
    match readWords programOptions false words with
    | .error e => o.misuse e
    | .ok ws => (programOption? m ws).getD complaint
  else complaint

def run (m : Machine) (words : List String) (script : Script) : Outcome :=
  let o := Outcome.start m
  if words = [] then o.misuse .noWords
  else match readWords programOptions false words with
    | .error e => o.misuse e
    | .ok ws => match programOption? m ws, ws.rest with
      | some ended, _ => ended
      | none, [] => o.misuse .noSubcommand
      | none, name :: rest =>
        if name = execName then execWords m rest script else unknownCommand m (name :: rest) name

end Workcell.CommandLine
