import Workcell.Pairs
import Workcell.Schema.Scalar

namespace Workcell.Schema

open Checked

variable {α : Type}

def list (f : Datum → Checked α) : Datum → Checked (List α)
  | .list items => allIndexed f 0 items
  | _ => fail .listType

def pair (p : Datum × Datum) : Checked (String × String) :=
  Prod.mk <$> ((text p.1).within (.name "[key]")).within p.1.keyStep <*>
    (text p.2).within p.1.keyStep

def pairs : Datum → Checked Pairs
  | .mapping entries => Pairs.ofList <$> all pair entries
  | _ => fail .dictType

/-- The entries of a record. Names that the record does not know are ignored. -/
def record (f : List (Datum × Datum) → Checked α) : Datum → Checked α
  | .mapping entries => f entries
  | _ => fail .modelType

def field (name : String) (f : Datum → Checked α) (entries : List (Datum × Datum)) : Checked α :=
  match Datum.get? name entries with
  | some d => (f d).within (.name name)
  | none => (fail .missing).within (.name name)

def fieldOr (name : String) (default : α) (f : Datum → Checked α) (entries : List (Datum × Datum)) :
    Checked α :=
  match Datum.get? name entries with
  | some d => (f d).within (.name name)
  | none => valid default

end Workcell.Schema
