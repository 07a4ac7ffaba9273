import Workcell.Machine

namespace Workcell

inductive Unresolved
  | unreachable
  | nul
  deriving DecidableEq, Repr

namespace Filesystem

/-- The place that components lead to from the resolved place `base`, links nested at most `depth` deep. -/
def resolve (fs : Filesystem) : (depth : Nat) → (base : Place) → List String → Except Unresolved Place
  | _, base, [] => .ok base
  | depth, base, c :: rest =>
    if c = ".." then resolve fs depth base.dropLast rest
    else if '\x00' ∈ c.toList then .error .nul
    else if longestName < c.utf8ByteSize ∨ fs.entry? base ≠ some .directory then .error .unreachable
    else match fs.entry? (base ++ [c]) with
      | none => .error .unreachable
      | some (.link target) => match depth with
        | 0 => .error .unreachable
        | depth + 1 =>
          let start := if (Path.ofString target).isAbsolute then [] else base
          match resolve fs depth start (componentsOf target) with
          | .error e => .error e
          | .ok place => resolve fs (depth + 1) place rest
      | some _ => resolve fs depth (base ++ [c]) rest
  termination_by depth _ todo => (depth, todo.length)

theorem isComponent_of_resolve {fs : Filesystem} {depth : Nat} {base place : Place} {todo : List String}
    (hbase : ∀ c ∈ base, IsComponent c) (htodo : ∀ c ∈ todo, IsComponent c)
    (h : fs.resolve depth base todo = .ok place) : ∀ c ∈ place, IsComponent c := by
  fun_induction resolve fs depth base todo generalizing place with
  | case1 => cases h; exact hbase
  | case2 depth base rest ih =>
      exact ih (fun x hx => hbase x (List.dropLast_subset _ hx)) (fun x hx => htodo x (by simp [hx])) h
  | case3 | case4 | case5 | case6 => cases h
  | case7 => cases h
  | case8 =>
      rename_i start inner hinner ihInner ihRest
      refine ihRest (ihInner ?_ (fun _ hx => isComponent_of_mem_componentsOf hx) hinner)
        (fun x hx => htodo x (by simp [hx])) h
      intro x hx
      simp only [start] at hx
      split at hx
      · simp at hx
      · exact hbase x hx
  | case9 depth base c rest _ _ _ _ _ _ ih =>
      refine ih ?_ (fun x hx => htodo x (by simp [hx])) h
      intro x hx
      rcases List.mem_append.1 hx with hx | hx
      · exact hbase x hx
      · exact htodo x (by simp_all)

end Filesystem

namespace Machine

def resolve (m : Machine) (p : Path) : Except Unresolved Place :=
  m.files.resolve m.files.entries.length (if p.isAbsolute then [] else m.base) p.parts

theorem isComponent_of_resolve {m : Machine} {p : Path} {place : Place} (h : m.resolve p = .ok place) :
    ∀ c ∈ place, IsComponent c := by
  refine Filesystem.isComponent_of_resolve ?_ p.isComponent h
  split
  · simp
  · exact m.cwd.isComponent

/-- The canonical form of a path; one that leads nowhere is only made absolute. None if a NUL character is
met on the way. -/
def canonicalize? (m : Machine) (p : Path) : Option Path :=
  match h : m.resolve p with
  | .ok place => some (.ofParts place (isComponent_of_resolve h))
  | .error .unreachable => some (m.absolute p)
  | .error .nul => none

end Machine

end Workcell
