import Workcell.Assignment
import Workcell.Text.Split

namespace Workcell.CommandLine

structure Known (α : Type) where
  option : α
  /-- Its names: a dash and a letter, or two dashes and a word. -/
  names : List String
  /-- What its value is called, if it takes one. -/
  value : Option String
  help : String

inductive UsageError
  | noWords
  | noSuchOption (name : String)
  | noSuchCommand (name : String)
  | noSubcommand
  | noCommand
  | needsValue (name : String)
  | takesNoValue (name : String)
  | badValue (b : BadValue)
  deriving DecidableEq, Repr

abbrev Given (α : Type) := α × Option String

structure Word (α : Type) where
  given : List (Given α)
  unknown : List Char
  pending : Option (String × α)

structure Words (α : Type) where
  given : List (Given α)
  rest : List String

variable {α : Type}

def find (known : List (Known α)) (name : String) : Option (Known α) :=
  known.find? fun k => name ∈ k.names

def isLong (word : String) : Bool := word.startsWith "--"

/-- The letters after a single dash. The letters after an option that takes a value are its value. -/
def readLetters (known : List (Known α)) (lenient : Bool) : List Char → Except UsageError (Word α)
  | [] => .ok ⟨[], [], none⟩
  | c :: r =>
    let name := String.ofList ['-', c]
    match find known name with
    | some k =>
      if k.value.isSome then
        .ok (if r = [] then ⟨[], [], some (name, k.option)⟩
          else ⟨[(k.option, some (String.ofList r))], [], none⟩)
      else
        (readLetters known lenient r).map fun w => { w with given := (k.option, none) :: w.given }
    | none =>
      if lenient then (readLetters known lenient r).map fun w => { w with unknown := c :: w.unknown }
      else .error (.noSuchOption name)

def splitValue (word : String) : String × Option String :=
  match Text.cutFirst '=' word.toList with
  | some (name, value) => (String.ofList name, some (String.ofList value))
  | none => (word, none)

def readWord (known : List (Known α)) (lenient : Bool) (word : String) : Except UsageError (Word α) :=
  if isLong word then
    let (name, value) := splitValue word
    match find known name, value with
    | some k, value =>
      match k.value, value with
      | some _, none => .ok ⟨[], [], some (name, k.option)⟩
      | none, some _ => .error (.takesNoValue name)
      | _, value => .ok ⟨[(k.option, value)], [], none⟩
    | none, _ => if lenient then .ok ⟨[], word.toList, none⟩ else .error (.noSuchOption name)
  else
    (readLetters known lenient (word.toList.drop 1)).map fun w =>
      { w with unknown := if w.unknown = [] then [] else '-' :: w.unknown }

def isOption (word : String) : Bool := word.startsWith "-" && word ≠ "-"

def Word.before (w : Word α) (given : List (Given α)) (ws : Words α) : Words α :=
  ⟨w.given ++ given ++ ws.given,
    (if w.unknown = [] then [] else [String.ofList w.unknown]) ++ ws.rest⟩

/-- Reads the options of a command. Where reading is lenient, options that are not known are passed on. -/
def readWords (known : List (Known α)) (lenient : Bool) : List String → Except UsageError (Words α)
  | [] => .ok ⟨[], []⟩
  | word :: r =>
    if word = "--" then .ok ⟨[], r⟩
    else if !isOption word then .ok ⟨[], word :: r⟩
    else match readWord known lenient word with
      | .error e => .error e
      | .ok w => match w.pending, r with
        | none, r => (readWords known lenient r).map (w.before [])
        | some (name, _), [] => .error (.needsValue name)
        | some (_, o), value :: r => (readWords known lenient r).map (w.before [(o, some value)])

def grouped [DecidableEq α] (given : List (Given α)) : List (α × List String) :=
  (given.map (·.1)).eraseDups.map fun o =>
    (o, given.filterMap fun g => if g.1 = o then g.2 else none)

end Workcell.CommandLine
