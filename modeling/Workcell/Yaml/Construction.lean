import Workcell.Yaml.Scalar

namespace Workcell.Yaml

inductive Content
  | scalar
  | sequence (items : List Nat)
  | mapping (entries : List (Nat × Nat))
  deriving DecidableEq, Repr

def Content.entries : Content → List (Nat × Nat)
  | mapping entries => entries
  | _ => []

def Node.content : Node → Content
  | .scalar _ _ => .scalar
  | .sequence _ items => .sequence items
  | .mapping _ entries => .mapping entries

structure Reading where
  tag : Tag
  leaf : Nat
  deriving DecidableEq, Repr

/-- The construction of data from a graph: the nodes as they stand, what was made of some of them (a collection
has no reading), and the collections whose content is still to be made. -/
structure Construction where
  tags : Array Tag
  contents : Array Content
  made : List (Nat × Option Reading)
  queue : List Nat
  deriving Repr

namespace Construction

abbrev Construct (α : Type) := StateT Construction (Except Error) α

variable (s : Construction)

def tag (id : Nat) : Tag := s.tags[id]?.getD .sequence

def content (id : Nat) : Content := s.contents[id]?.getD (.sequence [])

def entries (id : Nat) : List (Nat × Nat) := (s.content id).entries

def reading? (id : Nat) : Option Reading := (s.made.lookup id).join

def readings : List Reading := s.made.filterMap (·.2)

/-- The node whose text a node has where a scalar is expected. A mapping passes on to the value of its value key,
and for one that so comes back to itself there is no end. -/
def leaf : (fuel : Nat) → Nat → Except Error Nat
  | 0, _ => .error (.scalar .endless)
  | fuel + 1, id => match s.content id with
    | .scalar => .ok id
    | .sequence _ => .error .malformed
    | .mapping own => match own.find? fun e => s.tag e.1 = .value with
      | some (_, value) => leaf fuel value
      | none => .error .malformed

def isMerge (e : Nat × Nat) : Bool := s.tag e.1 = .merge

def sources (id : Nat) : List Nat :=
  match s.content id with
  | .sequence items => items
  | _ => [id]

def put (id : Nat) (entries : List (Nat × Nat)) : Construction :=
  { s with contents := s.contents.set! id (.mapping entries) }

def plainKeys (keys : List Nat) : Construction :=
  { s with tags := (keys.filter fun key => s.tag key = .value).foldl (·.set! · .text) s.tags }

def mergeKeys : Nat := (s.contents.toList.flatMap Content.entries).countP s.isMerge

/-- The entries of a mapping once the mappings merged into it are taken over. These come first, and of several
that a single key names the last. With each step a merge key is gone. -/
def flatten : (fuel : Nat) → (merged : List (Nat × Nat)) → Nat → Construct (List (Nat × Nat))
  | 0, _, _ => throw .malformed
  | fuel + 1, merged, id => do
    let s ← get
    match s.content id with
    | .mapping own =>
      match own.find? s.isMerge with
      | some (_, source) =>
        set (s.put id (own.eraseP s.isMerge))
        let parts ← (s.sources source).mapM (flatten fuel [])
        flatten fuel (merged ++ parts.reverse.flatten) id
      | none =>
        set ((s.plainKeys (own.map (·.1))).put id (merged ++ own))
        pure (merged ++ own)
    | _ => throw .malformed

section Make

variable (value : Tag → Nat → Except Error Datum)

/-- Makes a node unless it was made before: reads a scalar, or notes a collection for later. Whether it is a
collection. -/
def make (id : Nat) : Construct Bool := do
  let s ← get
  match s.made.lookup id with
  | some reading => pure reading.isNone
  | none =>
    if (s.tag id).isCollection then
      set { s with made := (id, none) :: s.made, queue := s.queue ++ [id] }
      pure true
    else if (s.tag id).isScalar then
      let leaf ← s.leaf s.contents.size id
      let _ ← value (s.tag id) leaf
      set { s with made := (id, some ⟨s.tag id, leaf⟩) :: s.made }
      pure false
    else throw .malformed

def makeEntry (hashed : Bool) (e : Nat × Nat) : Construct Unit := do
  let collection ← make value e.1
  if hashed && collection then throw .malformed
  let _ ← make value e.2

def makePair (id : Nat) : Construct Unit := do
  match (← get).entries id with
  | [e] => makeEntry value false e
  | _ => throw .malformed

def makeContent (id : Nat) : Construct Unit := do
  let s ← get
  match s.tag id, s.content id with
  | .sequence, .sequence items => items.forM fun item => discard (make value item)
  | .mapping, .mapping _ | .set, .mapping _ => do
    let own ← flatten (s.mergeKeys + 1) [] id
    own.forM (makeEntry value true)
  | .orderedMap, .sequence items | .pairs, .sequence items => items.forM (makePair value)
  | _, _ => throw .malformed

def finish : (fuel : Nat) → Construct Unit
  | 0 => pure ()
  | fuel + 1 => do
    let s ← get
    match s.queue with
    | [] => pure ()
    | id :: queue =>
      set { s with queue := queue }
      makeContent value id
      finish fuel

def makeAll (root : Nat) : Construct Unit := do
  let s ← get
  let _ ← make value root
  finish value (s.contents.size + 1)

end Make

end Construction

end Workcell.Yaml
