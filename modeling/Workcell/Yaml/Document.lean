import Workcell.Yaml.Construction

namespace Workcell.Yaml

namespace Construction

def keyNumber? : Datum → Option (Rat ⊕ Bool)
  | .bool b => some (.inl (if b then 1 else 0))
  | .integer n => some (.inl n)
  | .double (.infinity negative) => some (.inr negative)
  | .double x => x.toRat?.map .inl
  | _ => none

/-- Whether two keys are the same: numbers and truth values are compared by value. -/
def sameKey : Datum → Datum → Bool
  | .null, .null | .double .nan, .double .nan => true
  | .text s, .text t | .moment s, .moment t => s == t
  | .bytes s, .bytes t => s == t
  | a, b => match keyNumber? a, keyNumber? b with
    | some x, some y => x == y
    | _, _ => false

def insert (key value : Datum) : List (Datum × Datum) → List (Datum × Datum)
  | [] => [(key, value)]
  | (k, v) :: r => if sameKey k key then (k, value) :: r else (k, v) :: insert key value r

variable (s : Construction) (value : Tag → Nat → Except Error Datum)

/-- The plain data of a node. A node may hold itself, so what lies below some depth is left out. -/
def unfold : (depth : Nat) → Nat → Datum
  | 0, _ => .null
  | depth + 1, id =>
    let entries (_ : Unit) : List (Datum × Datum) :=
      (s.entries id).foldl (fun table e => insert (unfold depth e.1) (unfold depth e.2) table) []
    match s.reading? id, s.tag id, s.content id with
    | some r, _, _ => (value r.tag r.leaf).toOption.getD .null
    | none, .sequence, .sequence items => .list (items.map (unfold depth))
    | none, .mapping, _ => .mapping (entries ())
    | none, .set, _ => .list ((entries ()).map (·.1))
    | none, _, .sequence items =>
      .list ((items.flatMap s.entries).map fun e => .list [unfold depth e.1, unfold depth e.2])
    | none, _, _ => .null

end Construction

namespace Graph

variable (g : Graph)

def node (id : Nat) : Node := g.nodes[id]?.getD default

def value (t : Tag) (id : Nat) : Except Error Datum :=
  match g.node id with
  | .scalar _ text => (Scalar.read t text).getD (.error .malformed)
  | _ => .error .malformed

def blank : Construction := ⟨g.nodes.map Node.tag, g.nodes.map Node.content, [], []⟩

def construct (root : Nat) : Except Error Construction := do
  let (_, s) ← (Construction.makeAll g.value root).run g.blank
  pure s

def greatestDepth : Nat := 6

def datum : Except Error Datum :=
  match g.root with
  | none => .ok .null
  | some root => do
    let s ← g.construct root
    pure (s.unfold g.value greatestDepth root)

end Graph

def isAllowed (c : Char) : Bool :=
  let n := c.toNat
  c == '\t' || c == '\n' || c == '\r' || (0x20 ≤ n && n ≤ 0x7E) || n == 0x85 ||
    (0xA0 ≤ n && n ≤ 0xFFFD) || 0x10000 ≤ n

def read (s : String) : Except Error Datum := do
  let cs := s.toList
  if cs.all isAllowed then (← Graph.ofTokens (tokens cs)).datum else .error .malformed

end Workcell.Yaml
