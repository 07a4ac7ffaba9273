import Workcell.Yaml.Tag
import Workcell.Yaml.Token

namespace Workcell.Yaml

inductive Node
  | scalar (tag : Tag) (text : ScalarText)
  | sequence (tag : Tag) (items : List Nat)
  | mapping (tag : Tag) (entries : List (Nat × Nat))
  deriving Repr

instance : Inhabited Node := ⟨.sequence .sequence []⟩

namespace Node

def tag : Node → Tag
  | scalar t _ | sequence t _ | mapping t _ => t

end Node

structure Properties where
  anchor : Option String
  tag : Option String
  deriving Repr

namespace Properties

/-- A lone exclamation mark is no tag of its own. -/
def tagOr (p : Properties) (t : Tag) : Tag :=
  match p.tag with
  | none | some "!" => t
  | some s => .ofString s

/-- A plain scalar without a tag, or any scalar with a lone exclamation mark, shows its tag by its form. -/
def scalarTag (p : Properties) (cs : List Char) (plain : Bool) : Tag :=
  p.tagOr (if (plain && p.tag.isNone) || p.tag == some "!" then .ofPlain cs else .text)

def isEmpty (p : Properties) : Bool := p.anchor.isNone && p.tag.isNone

end Properties

/-- A graph under construction: the tokens to come, the nodes so far, and the names in use. -/
structure Composer where
  rest : List Token
  nodes : Array Node
  anchors : List (String × Nat)
  handles : List (String × String)

namespace Composer

abbrev Compose (α : Type) := StateT Composer (Except Error) α

def refuse {α : Type} : Compose α := throw .malformed

def peek : Compose Token := do
  match (← get).rest with
  | .fault e :: _ => throw e
  | t :: _ => pure t
  | [] => refuse

def skip : Compose Unit := modify fun s => { s with rest := s.rest.drop 1 }

def add (p : Properties) (n : Node) : Compose Nat := do
  let s ← get
  let id := s.nodes.size
  let anchors := match p.anchor with
    | some name => (name, id) :: s.anchors
    | none => s.anchors
  set { s with nodes := s.nodes.push n, anchors := anchors }
  pure id

def put (id : Nat) (n : Node) : Compose Unit :=
  modify fun s => { s with nodes := s.nodes.set! id n }

def addEmpty : Compose Nat := add ⟨none, none⟩ (.scalar .null ⟨[], false⟩)

def anchor : Compose (Option String) := do
  match ← peek with
  | .anchor name => do
    skip
    pure (some name)
  | _ => pure none

def tag : Compose (Option (Option String × String)) := do
  match ← peek with
  | .tag handle suffix => do
    skip
    pure (some (handle, suffix))
  | _ => pure none

def expand : Option (Option String × String) → Compose (Option String)
  | none => pure none
  | some (none, suffix) => pure (some suffix)
  | some (some handle, suffix) => do
    match (← get).handles.lookup handle with
    | some expansion => pure (some (expansion ++ suffix))
    | none => refuse

def properties : Compose Properties := do
  match ← anchor with
  | some name => pure ⟨some name, ← expand (← tag)⟩
  | none => do
    match ← tag with
    | some t => do
      let name ← anchor
      pure ⟨name, ← expand (some t)⟩
    | none => pure ⟨none, none⟩

/-- Where a node is read: among block collections, in the place of a key or value of a block mapping, or
inside brackets. -/
inductive Context
  | block
  | entry
  | flow
  deriving DecidableEq, Repr

def endsEntry : Token → Bool
  | .key | .value | .blockEnd => true
  | _ => false

def endsFlowValue : Token → Bool
  | .flowEntry | .flowSequenceEnd | .flowMappingEnd => true
  | _ => false

def endsFlowKey : Token → Bool
  | .value => true
  | t => endsFlowValue t

mutual

def node : (fuel : Nat) → Context → Compose Nat
  | 0, _ => refuse
  | fuel + 1, ctx => do
    if let .alias name ← peek then
      skip
      match (← get).anchors.lookup name with
      | some id => pure id
      | none => refuse
    else
      let p ← properties
      let _ ← peek
      let taken := (← get).anchors
      if p.anchor.any fun name => (taken.lookup name).isSome then refuse else content fuel ctx p

def content : (fuel : Nat) → Context → Properties → Compose Nat
  | 0, _, _ => refuse
  | fuel + 1, ctx, p => do
    let sequenceTag := p.tagOr .sequence
    let mappingTag := p.tagOr .mapping
    match ← peek, ctx with
    | .blockEntry, .entry => do
      let id ← add p (.sequence sequenceTag [])
      put id (.sequence sequenceTag (← indentlessItems fuel))
      pure id
    | .scalar text plain, _ => do
      skip
      add p (.scalar (p.scalarTag text.chars plain) text)
    | .flowSequenceStart, _ => do
      skip
      let id ← add p (.sequence sequenceTag [])
      put id (.sequence sequenceTag (← flowItems fuel true))
      pure id
    | .flowMappingStart, _ => do
      skip
      let id ← add p (.mapping mappingTag [])
      put id (.mapping mappingTag (← flowEntries fuel true))
      pure id
    | .blockSequenceStart, .block | .blockSequenceStart, .entry => do
      skip
      let id ← add p (.sequence sequenceTag [])
      put id (.sequence sequenceTag (← blockItems fuel))
      pure id
    | .blockMappingStart, .block | .blockMappingStart, .entry => do
      skip
      let id ← add p (.mapping mappingTag [])
      put id (.mapping mappingTag (← blockEntries fuel))
      pure id
    | _, _ => if p.isEmpty then refuse else add p (.scalar (p.tagOr .null) ⟨[], false⟩)

def nodeUnless : (fuel : Nat) → (Token → Bool) → Context → Compose Nat
  | 0, _, _ => refuse
  | fuel + 1, missing, ctx => do
    if missing (← peek) then addEmpty else node fuel ctx

def valueOf : (fuel : Nat) → (Token → Bool) → Context → Compose Nat
  | 0, _, _ => refuse
  | fuel + 1, missing, ctx => do
    if let .value ← peek then
      skip
      nodeUnless fuel missing ctx
    else addEmpty

def indentlessItems : (fuel : Nat) → Compose (List Nat)
  | 0 => refuse
  | fuel + 1 => do
    if let .blockEntry ← peek then
      skip
      let item ← nodeUnless fuel (fun t => endsEntry t || t matches .blockEntry) .block
      pure (item :: (← indentlessItems fuel))
    else pure []

def blockItems : (fuel : Nat) → Compose (List Nat)
  | 0 => refuse
  | fuel + 1 => do
    match ← peek with
    | .blockEntry => do
      skip
      let item ← nodeUnless fuel (fun t => t matches .blockEntry | .blockEnd) .block
      pure (item :: (← blockItems fuel))
    | .blockEnd => do
      skip
      pure []
    | _ => refuse

def blockEntries : (fuel : Nat) → Compose (List (Nat × Nat))
  | 0 => refuse
  | fuel + 1 => do
    match ← peek with
    | .key => do
      skip
      let key ← nodeUnless fuel endsEntry .entry
      let value ← valueOf fuel endsEntry .entry
      pure ((key, value) :: (← blockEntries fuel))
    | .blockEnd => do
      skip
      pure []
    | _ => refuse

/-- The items between square brackets. A key makes a mapping of a single entry. -/
def flowItems : (fuel : Nat) → (first : Bool) → Compose (List Nat)
  | 0, _ => refuse
  | fuel + 1, first => do
    if let .flowSequenceEnd ← peek then
      skip
      pure []
    else
      unless first do separator
      match ← peek with
      | .key => do
        skip
        let id ← add ⟨none, none⟩ (.mapping .mapping [])
        let key ← nodeUnless fuel endsFlowKey .flow
        let value ← valueOf fuel endsFlowValue .flow
        put id (.mapping .mapping [(key, value)])
        pure (id :: (← flowItems fuel false))
      | .flowSequenceEnd => do
        skip
        pure []
      | _ => do
        let item ← node fuel .flow
        pure (item :: (← flowItems fuel false))

def flowEntries : (fuel : Nat) → (first : Bool) → Compose (List (Nat × Nat))
  | 0, _ => refuse
  | fuel + 1, first => do
    if let .flowMappingEnd ← peek then
      skip
      pure []
    else
      unless first do separator
      match ← peek with
      | .key => do
        skip
        let key ← nodeUnless fuel endsFlowKey .flow
        let value ← valueOf fuel endsFlowValue .flow
        pure ((key, value) :: (← flowEntries fuel false))
      | .flowMappingEnd => do
        skip
        pure []
      | _ => do
        let key ← node fuel .flow
        let value ← addEmpty
        pure ((key, value) :: (← flowEntries fuel false))

def separator : Compose Unit := do
  if let .flowEntry ← peek then skip else refuse

end

def defaultHandles : List (String × String) := [("!", "!"), ("!!", Tag.standard)]

def directives : (fuel : Nat) → (versioned : Bool) → (handles : List (String × String)) →
    Compose (List (String × String))
  | 0, _, _ => refuse
  | fuel + 1, versioned, handles => do
    match ← peek with
    | .directive d => do
      skip
      match d with
      | .version major =>
        if versioned || major ≠ 1 then refuse else directives fuel true handles
      | .tag handle expansion =>
        if (handles.lookup handle).isSome then refuse
        else directives fuel versioned ((handle, expansion) :: handles)
      | .other => directives fuel versioned handles
    | _ => pure handles

def skipEnds : (fuel : Nat) → Compose Unit
  | 0 => refuse
  | fuel + 1 => do
    if let .documentEnd ← peek then
      skip
      skipEnds fuel

/-- The end of the text. Of a further document the directives are read before it is refused. -/
def streamEnd (fuel : Nat) : Compose Unit := do
  if let .streamEnd ← peek then pure ()
  else
    let _ ← directives fuel false []
    let _ ← peek
    refuse

def opensDocument : Token → Bool
  | .directive _ | .documentStart => true
  | _ => false

/-- The root of the only document; none if there is no document. The marks of its start may be left out
where no directive precedes it. -/
def document (fuel : Nat) : Compose (Option Nat) := do
  match ← peek with
  | .streamEnd => pure none
  | t => do
    let root ← if opensDocument t then do
        let handles ← directives fuel false []
        modify fun s => { s with handles := handles ++ defaultHandles }
        if let .documentStart ← peek then skip else refuse
        nodeUnless fuel (fun t => opensDocument t || t matches .documentEnd | .streamEnd) .block
      else node fuel .block
    skipEnds fuel
    streamEnd fuel
    pure (some root)

end Composer

structure Graph where
  nodes : Array Node
  root : Option Nat
  deriving Repr

namespace Graph

/-- Every token leads through at most four calls before the next one is taken. -/
def ofTokens (ts : List Token) : Except Error Graph := do
  let (root, s) ← (Composer.document (4 * ts.length + 8)).run ⟨ts, #[], [], Composer.defaultHandles⟩
  pure ⟨s.nodes, root⟩

end Graph

end Workcell.Yaml
