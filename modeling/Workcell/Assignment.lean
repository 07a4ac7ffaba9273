import Workcell.Pairs
import Workcell.Text.Quoted
import Workcell.Text.Split

namespace Workcell

structure BadValue where
  option : String
  text : String
  deriving DecidableEq, Repr

def splitAssignment (s : String) : Option (String × String) :=
  match Text.cutFirst '=' s.toList with
  | some (key, value) => if key = [] then none else some (String.ofList key, String.ofList value)
  | none => none

/-- Reads assignments in order into a mapping; a later one replaces the value of an earlier one. -/
def readAssignments (option : String) (values : List String) : Except BadValue Pairs :=
  values.foldlM (fun m s =>
    match splitAssignment s with
    | some (key, value) => .ok (m.insert key value)
    | none => .error ⟨option, s!"expected KEY=VALUE, got {Text.quoted s}"⟩) .empty

end Workcell
