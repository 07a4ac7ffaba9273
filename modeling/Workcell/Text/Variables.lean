import Workcell.Text.Split

namespace Workcell.Text

def isNameChar (c : Char) : Bool := c.isAlphanum || c == '_'

/-- The name after a dollar sign, and the number of characters that the reference takes after it. Between
braces a name may hold anything but a closing brace. -/
def reference? : List Char → Option (String × Nat)
  | '{' :: r => (cutFirst '}' r).map fun p => (String.ofList p.1, p.1.length + 2)
  | r =>
    let name := r.takeWhile isNameChar
    if name = [] then none else some (String.ofList name, name.length)

/-- Replaces the references to variables that have a value, after some characters that are dropped. -/
def expandFrom (value : String → Option String) : (skip : Nat) → List Char → List Char
  | _, [] => []
  | skip + 1, _ :: r => expandFrom value skip r
  | 0, c :: r =>
    if c = '$' then
      match reference? r with
      | some (name, length) => match value name with
        | some v => v.toList ++ expandFrom value length r
        | none => c :: r.take length ++ expandFrom value length r
      | none => c :: expandFrom value 0 r
    else c :: expandFrom value 0 r

def expand (value : String → Option String) (cs : List Char) : List Char := expandFrom value 0 cs

end Workcell.Text
