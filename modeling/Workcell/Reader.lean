import Workcell.Line
import Workcell.Note

namespace Workcell.Reader

inductive Request
  | untilFeed
  | exactly (n : Nat)
  deriving DecidableEq, Repr

/-- How a request ends. An incomplete read brings the bytes left before the end of the stream; an overrun
tells how many bytes can be taken at least. -/
inductive Reply
  | data (bytes : List UInt8)
  | incomplete (bytes : List UInt8)
  | overrun (consumed : Nat)
  | systemError (text : String)
  | otherError (text : String)
  deriving DecidableEq, Repr

inductive Escape
  | other (text : String)
  | overrunAgain (consumed : Nat)
  deriving DecidableEq, Repr

/-- The place of a reader between two replies: the parts of a long line taken so far, and the length of the
part asked for if the last reply was an overrun. A part is never empty. -/
structure Position where
  parts : List (List UInt8)
  owed : Option { n : Nat // 0 < n }
  deriving DecidableEq, Repr

namespace Position

def start : Position := ⟨[], none⟩

def request (place : Position) : Request :=
  match place.owed with
  | some n => .exactly n.val
  | none => .untilFeed

end Position

def unreadable (name text : String) : Note := ⟨.warning, s!"Error reading {name}: {text}"⟩

def incompleteText (bytes : List UInt8) : String :=
  s!"{bytes.length} bytes read on a total of undefined expected bytes"

inductive Move
  | goOn (place : Position) (line : Option (List UInt8))
  | stop (warning : Option Note) (escaped : Option Escape)
  deriving DecidableEq, Repr

def Position.take (name : String) : Position → Reply → Move
  | ⟨parts, some _⟩, .data bytes => .goOn ⟨parts ++ [bytes], none⟩ none
  | ⟨_, some _⟩, .incomplete bytes => .stop (some (unreadable name (incompleteText bytes))) none
  | ⟨_, some _⟩, .overrun consumed => .stop none (some (.overrunAgain consumed))
  | ⟨parts, none⟩, .data bytes => .goOn .start (some (parts.flatten ++ bytes))
  | ⟨parts, none⟩, .incomplete bytes =>
    if parts = [] ∧ bytes = [] then .stop none none else .goOn .start (some (parts.flatten ++ bytes))
  | ⟨parts, none⟩, .overrun consumed => .goOn ⟨parts, some ⟨max consumed 1, by omega⟩⟩ none
  | _, .systemError text => .stop (some (unreadable name text)) none
  | _, .otherError text => .stop none (some (.other text))

/-- What a reader puts into its queue under the name of its stream: a line, or the mark that the stream has
ended. -/
inductive Entry
  | line (name : String) (bytes : List UInt8)
  | ended (name : String)
  deriving DecidableEq, Repr

def Entry.bytes? : Entry → Option (List UInt8)
  | line _ bytes => some bytes
  | ended _ => none

structure Outcome where
  requests : List Request
  queue : List Entry
  warning : Option Note
  escaped : Option Escape
  deriving DecidableEq, Repr

namespace Outcome

def stopped (name : String) (warning : Option Note) (escaped : Option Escape) : Outcome :=
  ⟨[], [.ended name], warning, escaped⟩

def asks (r : Request) (o : Outcome) : Outcome := { o with requests := r :: o.requests }

def reads (name : String) (line : Option (List UInt8)) (o : Outcome) : Outcome :=
  { o with queue := line.toList.map (.line name) ++ o.queue }

def lines (o : Outcome) : List (List UInt8) := o.queue.filterMap Entry.bytes?

end Outcome

/-- A stream with no replies left is at its end. A line begun is then read as it stands; after that, and
if there is none, the next request finds nothing. -/
def drained (name : String) (place : Position) : Outcome :=
  let after := match place.take name (.incomplete []) with
    | .goOn _ line => ((Outcome.stopped name none none).asks .untilFeed).reads name line
    | .stop warning escaped => .stopped name warning escaped
  after.asks place.request

def run (name : String) : Position → List Reply → Outcome
  | place, [] => drained name place
  | place, reply :: rest =>
    let after := match place.take name reply with
      | .goOn next line => (run name next rest).reads name line
      | .stop warning escaped => .stopped name warning escaped
    after.asks place.request

end Workcell.Reader
