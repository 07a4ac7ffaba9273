import Workcell.Text.Split

namespace Workcell

inductive Root
  | relative
  | single
  | double
  deriving DecidableEq, Repr

def IsComponent (s : String) : Prop :=
  s ≠ "" ∧ s ≠ "." ∧ '/' ∉ s.toList

instance (s : String) : Decidable (IsComponent s) := inferInstanceAs (Decidable (_ ∧ _ ∧ _))

def componentsOf (s : String) : List String :=
  (Text.segments '/' s).filter fun c => c ≠ "" ∧ c ≠ "."

theorem isComponent_of_mem_componentsOf {s c : String} (h : c ∈ componentsOf s) : IsComponent c := by
  simp only [componentsOf, Text.segments, List.mem_filter, List.mem_map] at h
  obtain ⟨⟨l, hl, rfl⟩, hc⟩ := h
  refine ⟨(by simpa using hc : _ ∧ _).1, (by simpa using hc : _ ∧ _).2, ?_⟩
  rw [String.toList_ofList]
  exact Text.not_mem_of_mem_split hl

structure Path where
  root : Root
  parts : List String
  isComponent : ∀ c ∈ parts, IsComponent c

namespace Path

instance : DecidableEq Path := fun a b =>
  decidable_of_iff (a.root = b.root ∧ a.parts = b.parts) (by cases a; cases b; simp)

def rootOf (s : String) : Root :=
  match s.toList with
  | '/' :: '/' :: '/' :: _ => .single
  | '/' :: '/' :: _ => .double
  | '/' :: _ => .single
  | _ => .relative

def ofString (s : String) : Path :=
  ⟨rootOf s, componentsOf s, fun _ h => isComponent_of_mem_componentsOf h⟩

instance : Inhabited Path := ⟨ofString ""⟩

def text (p : Path) : String :=
  let below := "/".intercalate p.parts
  match p.root with
  | .relative => if p.parts = [] then "." else below
  | .single => "/" ++ below
  | .double => "//" ++ below

instance : ToString Path := ⟨text⟩

def isAbsolute (p : Path) : Bool := p.root != .relative

/-- The directory that holds the path; a root, and the empty relative path, hold themselves. -/
def parent (p : Path) : Path :=
  ⟨p.root, p.parts.dropLast, fun c h => p.isComponent c (List.dropLast_subset _ h)⟩

def join (p q : Path) : Path :=
  if q.isAbsolute then q
  else ⟨p.root, p.parts ++ q.parts, fun c h =>
    (List.mem_append.1 h).elim (p.isComponent c) (q.isComponent c)⟩

def child (p : Path) (name : String) : Path := p.join (ofString name)

def ofParts (parts : List String) (h : ∀ c ∈ parts, IsComponent c) : Path := ⟨.single, parts, h⟩

def hasNul (p : Path) : Bool := p.parts.any fun c => c.toList.contains '\x00'

def before (p q : Path) : Bool := !decide (q.text < p.text)

end Path

end Workcell
