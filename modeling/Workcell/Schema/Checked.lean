import Workcell.Schema.Problem

namespace Workcell

inductive Checked (α : Type)
  | valid (a : α)
  | invalid (problems : List Problem)
  deriving DecidableEq, Repr

namespace Checked

variable {α β : Type}

def map (f : α → β) : Checked α → Checked β
  | valid a => valid (f a)
  | invalid ps => invalid ps

def seq : Checked (α → β) → (Unit → Checked α) → Checked β
  | valid f, x => (x ()).map f
  | invalid ps, x => match x () with
    | valid _ => invalid ps
    | invalid qs => invalid (ps ++ qs)

instance : Applicative Checked where
  pure := valid
  map := map
  seq := seq

def fail (f : Fault) : Checked α := invalid [⟨f, []⟩]

def within (s : Step) : Checked α → Checked α
  | valid a => valid a
  | invalid ps => invalid (ps.map (Problem.within s))

/-- A check that needs the value of another; the second is not made when the first fails. -/
def andThen (x : Checked α) (f : α → Checked β) : Checked β :=
  match x with
  | valid a => f a
  | invalid ps => invalid ps

def all (f : α → Checked β) : List α → Checked (List β)
  | [] => valid []
  | a :: r => List.cons <$> f a <*> all f r

def allIndexed (f : α → Checked β) : Nat → List α → Checked (List β)
  | _, [] => valid []
  | n, a :: r => List.cons <$> (f a).within (.index n) <*> allIndexed f (n + 1) r

def toExcept : Checked α → Except (List Problem) α
  | valid a => .ok a
  | invalid ps => .error ps

end Checked

end Workcell
