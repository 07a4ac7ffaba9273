import Workcell.Text.Split
import Workcell.Yaml.Moment

namespace Workcell.Yaml

inductive Tag
  | null
  | bool
  | int
  | float
  | binary
  | timestamp
  | text
  | sequence
  | mapping
  | set
  | orderedMap
  | pairs
  /-- The key whose value is merged into its mapping. -/
  | merge
  /-- The key whose value stands for its mapping where a scalar is expected. -/
  | value
  | unknown
  deriving DecidableEq, Repr

namespace Tag

def isScalar : Tag → Bool
  | null | bool | int | float | binary | timestamp | text => true
  | _ => false

def isCollection : Tag → Bool
  | sequence | mapping | set | orderedMap | pairs => true
  | _ => false

def standard : String := "tag:yaml.org,2002:"

def names : List (String × Tag) := [
  ("null", null), ("bool", bool), ("int", int), ("float", float), ("binary", binary),
  ("timestamp", timestamp), ("str", text), ("seq", sequence), ("map", mapping), ("set", set),
  ("omap", orderedMap), ("pairs", pairs), ("merge", merge), ("value", value)]

def ofString (s : String) : Tag :=
  ((names.map fun (n, t) => (standard ++ n, t)).lookup s).getD unknown

/-- The texts of truth values, in lower case; a text may also be capitalised or in capitals throughout. -/
def truthWords : List (String × Bool) := [
  ("yes", true), ("no", false), ("true", true), ("false", false), ("on", true), ("off", false)]

def casings (s : String) : List String := [s, s.capitalize, s.map Char.toUpper]

def isBool (cs : List Char) : Bool :=
  (truthWords.flatMap fun (w, _) => casings w).contains (String.ofList cs)

def isNull (cs : List Char) : Bool :=
  ["~", "null", "Null", "NULL", ""].contains (String.ofList cs)

def dropSign : List Char → List Char
  | '+' :: r | '-' :: r => r
  | r => r

def isDigitOrLine (c : Char) : Bool := c.isDigit || c == '_'

def someOf (p : Char → Bool) (cs : List Char) : Bool := cs != [] && cs.all p

def isNumeral : List Char → Bool
  | c :: r => c.isDigit && r.all isDigitOrLine
  | [] => false

def isSixtieth : List Char → Bool
  | [a] => a.isDigit
  | [a, b] => '0' ≤ a && a ≤ '5' && b.isDigit
  | _ => false

def isExponent : List Char → Bool
  | [] => true
  | e :: sign :: r => (e == 'e' || e == 'E') && (sign == '+' || sign == '-') && someOf Char.isDigit r
  | _ => false

def isFraction (cs : List Char) : Bool := isExponent (cs.dropWhile isDigitOrLine)

def isFloat (cs : List Char) : Bool :=
  let r := dropSign cs
  let decimal := match Text.cutFirst '.' r with
    | some (whole, fraction) =>
      (isNumeral whole && isFraction fraction) ||
        (match Text.split ':' whole with
        | first :: sixtieth :: more =>
          isNumeral first && (sixtieth :: more).all isSixtieth && fraction.all isDigitOrLine
        | _ => false)
    | none => false
  let pointed := match cs with
    | '.' :: c :: fraction => c.isDigit && isFraction fraction
    | _ => false
  decimal || pointed || [".inf", ".Inf", ".INF"].contains (String.ofList r) ||
    [".nan", ".NaN", ".NAN"].contains (String.ofList cs)

def isInt (cs : List Char) : Bool :=
  match dropSign cs with
  | ['0'] => true
  | '0' :: 'b' :: ds => someOf (fun c => c == '0' || c == '1' || c == '_') ds
  | '0' :: 'x' :: ds =>
    someOf (fun c => isDigitOrLine c || ('a' ≤ c && c ≤ 'f') || ('A' ≤ c && c ≤ 'F')) ds
  | '0' :: ds => someOf (fun c => ('0' ≤ c && c ≤ '7') || c == '_') ds
  | r => match Text.split ':' r with
    | first :: more => isNumeral first && more.all isSixtieth
    | [] => false

def isTimestamp (cs : List Char) : Bool :=
  (Moment.read cs).any fun m => m.time.isSome || cs.length == 10

/-- The forms of scalars, in the order in which they are tried. -/
def forms : List ((List Char → Bool) × Tag) := [
  (isBool, bool), (isFloat, float), (isInt, int), (fun cs => cs == ['<', '<'], merge), (isNull, null),
  (isTimestamp, timestamp), (fun cs => cs == ['='], value),
  (fun cs => cs == ['!'] || cs == ['&'] || cs == ['*'], unknown)]

def ofPlain (cs : List Char) : Tag :=
  let line := if cs.length ≠ 1 ∧ cs.getLast? = some '\n' then cs.dropLast else cs
  ((forms.find? fun form => form.1 line).map (·.2)).getD text

end Tag

end Workcell.Yaml
