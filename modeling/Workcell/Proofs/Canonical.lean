import Workcell.Canonical
import Workcell.Proofs.Path

namespace Workcell

structure Machine.Plain (m : Machine) (p : Path) : Prop where
  root : p.root = .single
  descends : ".." ∉ p.parts
  noNul : p.hasNul = false
  noLink : ∀ place target, place <+: p.parts → m.files.entry? place ≠ some (.link target)

namespace Filesystem

variable {fs : Filesystem} {depth : Nat}

/-- Without links and `..` the components are only gathered, as far as they lead somewhere. -/
theorem resolve_of_plain {base : Place} {todo : List String} (hdescends : ".." ∉ todo)
    (hnul : ∀ c ∈ todo, '\x00' ∉ c.toList)
    (hlink : ∀ place target, place <+: base ++ todo → fs.entry? place ≠ some (.link target)) :
    fs.resolve depth base todo = .ok (base ++ todo) ∨ fs.resolve depth base todo = .error .unreachable := by
  induction todo generalizing base with
  | nil => exact .inl (by rw [resolve, List.append_nil])
  | cons c rest ih =>
      have hc : c ≠ ".." := fun h => hdescends (h ▸ List.mem_cons_self)
      have hhere : ∀ target, fs.entry? (base ++ [c]) ≠ some (.link target) := fun target =>
        hlink _ target ⟨rest, by simp⟩
      have hrest : fs.resolve depth (base ++ [c]) rest = .ok ((base ++ [c]) ++ rest) ∨
          fs.resolve depth (base ++ [c]) rest = .error .unreachable :=
        ih (fun h => hdescends (List.mem_cons_of_mem _ h)) (fun d hd => hnul d (List.mem_cons_of_mem _ hd))
          (by simpa using hlink)
      rw [resolve, if_neg hc, if_neg (hnul c List.mem_cons_self)]
      by_cases hstop : longestName < c.utf8ByteSize ∨ fs.entry? base ≠ some .directory
      · exact .inr (by rw [if_pos hstop])
      · rw [if_neg hstop]
        cases hentry : fs.entry? (base ++ [c]) with
        | none => exact .inr rfl
        | some e =>
            cases e with
            | link target => exact absurd hentry (hhere target)
            | directory => simpa using hrest
            | file => simpa using hrest
            | denied => simpa using hrest

def NulFree (fs : Filesystem) : Prop :=
  ∀ place target, fs.entry? place = some (.link target) → '\x00' ∉ target.toList

theorem nulFree_of_entries
    (h : ∀ e ∈ fs.entries, ∀ target, e.2 = .link target → '\x00' ∉ target.toList) : fs.NulFree := by
  intro place target hentry
  cases place with
  | nil => simp [ entry?] at hentry
  | cons c rest =>
      obtain ⟨before, after, hsplit, -⟩ := List.lookup_eq_some_iff.1 hentry
      exact h (c :: rest, .link target) (by simp [hsplit]) target rfl

theorem resolve_ne_nul (hfs : fs.NulFree) {base : Place} {todo : List String}
    (hnul : ∀ c ∈ todo, '\x00' ∉ c.toList) : fs.resolve depth base todo ≠ .error .nul := by
  fun_induction resolve fs depth base todo with
  | case1 => simp
  | case2 depth base rest ih => exact ih fun c hc => hnul c (List.mem_cons_of_mem _ hc)
  | case3 depth base c rest hc hhere => exact absurd hhere (hnul c List.mem_cons_self)
  | case4 => simp
  | case5 => simp
  | case6 => simp
  | case7 base c rest hc hhere hgo target hlink depth start e hinner ihInner =>
      -- the fault is that of the link's target, which is resolved before the rest
      have htarget : ∀ d ∈ componentsOf target, '\x00' ∉ d.toList := fun d hd hmem =>
        hfs _ _ hlink (subset_of_mem_componentsOf hd hmem)
      exact hinner ▸ ihInner htarget
  | case8 base c rest hc hhere hgo target hlink depth start place hinner ihInner ihRest =>
      exact ihRest fun d hd => hnul d (List.mem_cons_of_mem _ hd)
  | case9 depth base c rest hc hhere hgo e hlink hentry ih =>
      exact ih fun d hd => hnul d (List.mem_cons_of_mem _ hd)

end Filesystem

namespace Machine

variable {m : Machine} {p : Path}

theorem canonicalize_of_resolve {place : Place} (h : m.resolve p = .ok place) :
    m.canonicalize? p = some (.ofParts place (isComponent_of_resolve h)) := by
  unfold canonicalize?
  split
  · rename_i place' h'
    have hplace : place' = place := by simpa [h'] using h
    subst hplace
    rfl
  · simp_all
  · simp_all

theorem canonicalize_of_unreachable (h : m.resolve p = .error .unreachable) :
    m.canonicalize? p = some (m.absolute p) := by
  unfold canonicalize?
  split
  · simp_all
  · rfl
  · simp_all

theorem canonicalize_of_nul (h : m.resolve p = .error .nul) : m.canonicalize? p = none := by
  unfold canonicalize?
  split
  · simp_all
  · simp_all
  · rfl

theorem isAbsolute_of_canonicalize {q : Path} (hcwd : m.cwd.isAbsolute) (h : m.canonicalize? p = some q) :
    q.isAbsolute := by
  cases hresolve : m.resolve p with
  | ok place =>
      rw [canonicalize_of_resolve hresolve] at h
      cases h
      rfl
  | error e =>
      cases e with
      | nul =>
          rw [canonicalize_of_nul hresolve] at h
          cases h
      | unreachable =>
          rw [canonicalize_of_unreachable hresolve] at h
          cases h
          rw [absolute, Path.join]
          split
          · assumption
          · exact hcwd

theorem canonicalize_of_plain (h : m.Plain p) : m.canonicalize? p = some p := by
  have habsolute : p.isAbsolute = true := by simp [Path.isAbsolute, h.root]
  have hnul : ∀ c ∈ p.parts, '\x00' ∉ c.toList := by simpa [Path.hasNul] using h.noNul
  have hresolved : m.resolve p = .ok p.parts ∨ m.resolve p = .error .unreachable := by
    rw [resolve, if_pos habsolute]
    exact Filesystem.resolve_of_plain h.descends hnul h.noLink
  rcases hresolved with hresolve | hresolve
  · rw [canonicalize_of_resolve hresolve]
    exact congrArg some (by cases p; cases h.root; rfl)
  · rw [canonicalize_of_unreachable hresolve, absolute, Path.join, if_pos habsolute]

theorem exists_canonical (hfs : m.files.NulFree) (h : p.hasNul = false) :
    ∃ q, m.canonicalize? p = some q := by
  have hnul : ∀ c ∈ p.parts, '\x00' ∉ c.toList := by simpa [Path.hasNul] using h
  cases hresolve : m.resolve p with
  | ok place => exact ⟨_, canonicalize_of_resolve hresolve⟩
  | error e =>
      cases e with
      | unreachable => exact ⟨_, canonicalize_of_unreachable hresolve⟩
      | nul => exact absurd hresolve (Filesystem.resolve_ne_nul hfs hnul)

end Machine

end Workcell
