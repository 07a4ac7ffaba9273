import Workcell.Proofs.Canonical
import Workcell.Proofs.Nesting

namespace Workcell

namespace Filesystem

variable {fs : Filesystem} {depth budget : Nat} {base place : Place} {c : String} {rest todo : List String}

structure Admits (fs : Filesystem) (base : Place) (c : String) : Prop where
  directory : fs.entry? base = some .directory
  descends : c ≠ ".."
  noNul : '\x00' ∉ c.toList
  short : c.utf8ByteSize ≤ longestName

namespace Admits

variable (h : fs.Admits base c)
include h

theorem resolve_of_link {target : String} (hentry : fs.entry? (base ++ [c]) = some (.link target))
    (depth : Nat) (rest : List String) : fs.resolve depth base (c :: rest) =
      (fs.follow depth (base ++ [c])).bind fun place => fs.resolve depth place rest := by
  rw [resolve_name h.descends, if_neg h.noNul, if_neg (by simp [h.directory, h.short]), hentry]

theorem resolve_of_entry {e : Entry} (hentry : fs.entry? (base ++ [c]) = some e)
    (hlink : ∀ target, e ≠ .link target) (depth : Nat) (rest : List String) :
    fs.resolve depth base (c :: rest) = fs.resolve depth (base ++ [c]) rest := by
  rw [resolve_name h.descends, if_neg h.noNul, if_neg (by simp [h.directory, h.short]), hentry]
  cases e with
  | link target => exact absurd rfl (hlink target)
  | _ => rfl

end Admits

/-- A place where something stands, by names of directories alone. -/
inductive Settled (fs : Filesystem) : Place → Prop
  | root : Settled fs []
  | name {base : Place} {c : String} {e : Entry} : Settled fs base → fs.Admits base c →
      fs.entry? (base ++ [c]) = some e → (∀ target, e ≠ .link target) → Settled fs (base ++ [c])

namespace Settled

theorem dropLast (h : fs.Settled place) : fs.Settled place.dropLast := by
  cases h with
  | root => exact root
  | name hbase => rwa [List.dropLast_concat]

theorem directory_dropLast (h : fs.Settled place) : fs.entry? place.dropLast = some .directory := by
  cases h with
  | root => rfl
  | name _ hc => rw [List.dropLast_concat]; exact hc.directory

theorem descends (h : fs.Settled place) : ".." ∉ place := by
  induction h with
  | root => simp
  | name _ hc _ _ ih => simp [ih, Ne.symm hc.descends]

theorem noNul (h : fs.Settled place) : ∀ c ∈ place, '\x00' ∉ c.toList := by
  induction h with
  | root => simp
  | name _ hc _ _ ih =>
      intro d hd
      rcases List.mem_append.1 hd with hd | hd
      · exact ih d hd
      · rw [List.mem_singleton.1 hd]
        exact hc.noNul

theorem noLink (h : fs.Settled place) {up : Place} (hup : up <+: place) (target : String) :
    fs.entry? up ≠ some (.link target) := by
  induction h with
  | root =>
      obtain rfl := List.prefix_nil.1 hup
      simp [ entry?]
  | name _ _ hentry hlink ih =>
      rcases List.prefix_concat_iff.1 hup with rfl | hup
      · rw [hentry]
        exact fun heq => hlink target (Option.some.inj heq)
      · exact ih hup

theorem resolve_append (h : fs.Settled place) (depth : Nat) (rest : List String) :
    fs.resolve depth [] (place ++ rest) = fs.resolve depth place rest := by
  induction h generalizing rest with
  | root => rfl
  | name _ hc hentry hlink ih =>
      rw [List.append_assoc, ih, List.singleton_append, hc.resolve_of_entry hentry hlink]

/-- The names of a settled place lead there, and no link has to be followed. -/
theorem walk_append (h : fs.Settled place) (budget : Nat) {rest : List String}
    (hrest : rest ≠ [] → fs.entry? place = some .directory) :
    fs.walk budget [] (place ++ rest) = fs.walk budget place rest := by
  induction h generalizing rest with
  | root => rfl
  | @name base c e _ hc hentry hlink ih =>
      rw [List.append_assoc, ih fun _ => hc.directory, List.singleton_append, walk, if_neg hc.descends,
        if_neg (Nat.not_lt.2 hc.short), hentry]
      rw [hentry] at hrest
      cases e with
      | link target => exact absurd rfl (hlink target)
      | directory => rfl
      | _ =>
          obtain rfl : rest = [] := Decidable.byContradiction fun hne => by simpa using hrest hne
          rw [walk]
          rfl

end Settled

theorem walk_nil (fs : Filesystem) (budget : Nat) (base : Place) : fs.walk budget base [] = .ok base := by
  rw [walk]

theorem settled_of_resolve (hbase : fs.Settled base) (h : fs.resolve depth base todo = .ok place) :
    fs.Settled place := by
  fun_induction resolve fs depth base todo generalizing place with
  | case1 => cases h; exact hbase
  | case2 depth base rest ih => exact ih hbase.dropLast h
  | case3 | case4 | case5 | case6 | case7 => cases h
  | case8 =>
      rename_i start inner hinner ihInner ihRest
      refine ihRest (ihInner ?_ hinner) h
      simp only [start]
      split
      · exact .root
      · exact hbase
  | case9 depth base c rest hc hnul hgo e hlink hentry ih =>
      simp only [not_or, Nat.not_lt, ne_eq, Decidable.not_not] at hgo
      exact ih (.name hbase ⟨hgo.2, hc, hnul, hgo.1⟩ hentry hlink) h

/-- A name that leads on is that of what ends the path, of a directory, or of a link. -/
theorem walk_cases (hc : c ≠ "..") (hwalk : fs.walk budget base (c :: rest) = .ok place) :
    c.utf8ByteSize ≤ longestName ∧
      (rest = [] ∧ place = base ++ [c] ∧ (∀ target, fs.entry? (base ++ [c]) ≠ some (.link target)) ∨
        fs.entry? (base ++ [c]) = some .directory ∧ fs.walk budget (base ++ [c]) rest = .ok place ∨
        ∃ target left, fs.entry? (base ++ [c]) = some (.link target) ∧ budget = left + 1 ∧
          fs.walk left (if (Path.ofString target).isAbsolute then [] else base)
            (componentsOf target ++ rest) = .ok place) := by
  rw [walk, if_neg hc] at hwalk
  by_cases hlength : longestName < c.utf8ByteSize
  · simp [hlength] at hwalk
  · rw [if_neg hlength] at hwalk
    refine ⟨Nat.not_lt.1 hlength, ?_⟩
    cases hentry : fs.entry? (base ++ [c]) with
    | none =>
        simp only [hentry] at hwalk
        split at hwalk
        · next hrest =>
          cases hwalk
          exact .inl ⟨hrest, rfl, by simp⟩
        · cases hwalk
    | some e =>
        cases e with
        | directory =>
            simp only [hentry] at hwalk
            exact .inr (.inl ⟨rfl, hwalk⟩)
        | link target =>
            simp only [hentry] at hwalk
            cases budget with
            | zero => cases hwalk
            | succ left => exact .inr (.inr ⟨target, left, rfl, rfl, hwalk⟩)
        | _ =>
            simp only [hentry] at hwalk
            split at hwalk
            · next hrest =>
              cases hwalk
              exact .inl ⟨hrest, rfl, by simp⟩
            · cases hwalk

theorem Settled.linkStart (hbase : fs.Settled base) (hhere : fs.entry? base = some .directory) (p : Path) :
    fs.Settled (if p.isAbsolute then [] else base) ∧
      fs.entry? (if p.isAbsolute then [] else base) = some .directory := by
  split
  · exact ⟨.root, rfl⟩
  · exact ⟨hbase, hhere⟩

/-- The first names of a path that leads somewhere, with any names after them, are resolved to the place where
the walk takes up the others. Each link that the walk follows is nested less deep than its budget. -/
theorem exists_resolved_of_walk (hfs : fs.NulFree) (htodo : ∀ c ∈ todo, '\x00' ∉ c.toList)
    (hbase : fs.Settled base) (hdirectory : todo ++ rest ≠ [] → fs.entry? base = some .directory)
    (hwalk : fs.walk budget base (todo ++ rest) = .ok place) (hplace : fs.entry? place ≠ none) :
    ∃ mid left, left ≤ budget ∧ (∀ depth, budget ≤ depth → fs.resolve depth base todo = .ok mid) ∧
      fs.walk left mid rest = .ok place ∧ (rest ≠ [] → fs.entry? mid = some .directory) := by
  induction budget using Nat.strongRecOn generalizing base todo rest with
  | ind budget ihBudget =>
      induction todo generalizing base with
      | nil => exact ⟨base, budget, Nat.le_refl _, fun _ _ => resolve_nil _ _ _, hwalk, hdirectory⟩
      | cons c todo ih =>
          obtain ⟨hnul, htodo⟩ := List.forall_mem_cons.1 htodo
          have hhere : fs.entry? base = some .directory := hdirectory (by simp)
          rw [List.cons_append] at hwalk
          by_cases hc : c = ".."
          · rw [walk, if_pos hc] at hwalk
            obtain ⟨mid, left, hleft, hresolve, hmid⟩ :=
              ih htodo hbase.dropLast (fun _ => hbase.directory_dropLast) hwalk
            exact ⟨mid, left, hleft, fun depth hdepth => by rw [hc, resolve_up, hresolve depth hdepth], hmid⟩
          · obtain ⟨hlength, ⟨hend, rfl, hlink⟩ | ⟨hentry, hnext⟩ | ⟨target, left, hentry, rfl, hnext⟩⟩ :=
              walk_cases hc hwalk
            · obtain ⟨rfl, rfl⟩ := List.append_eq_nil_iff.1 hend
              obtain ⟨e, hentry⟩ := Option.ne_none_iff_exists'.1 hplace
              refine ⟨base ++ [c], budget, Nat.le_refl _, fun depth _ => ?_, walk_nil _ _ _,
                fun h => absurd rfl h⟩
              rw [Admits.resolve_of_entry ⟨hhere, hc, hnul, hlength⟩ hentry
                fun target heq => hlink target (heq ▸ hentry), resolve_nil]
            · have hadmits : fs.Admits base c := ⟨hhere, hc, hnul, hlength⟩
              have hlink : ∀ target, Entry.directory ≠ .link target := fun _ => Entry.noConfusion
              obtain ⟨mid, left, hleft, hresolve, hmid⟩ :=
                ih htodo (.name hbase hadmits hentry hlink) (fun _ => hentry) hnext
              refine ⟨mid, left, hleft, fun depth hdepth => ?_, hmid⟩
              rw [hadmits.resolve_of_entry hentry hlink, hresolve depth hdepth]
            · -- first to what the link names, and from there on with the names after the link
              obtain ⟨hsettled, hstarts⟩ := hbase.linkStart hhere (Path.ofString target)
              have hnames : ∀ d ∈ componentsOf target, '\x00' ∉ d.toList := fun d hd hmem =>
                hfs _ _ hentry (subset_of_mem_componentsOf hd hmem)
              obtain ⟨inner, later, hlater, hinner, hafter, hinnerDirectory⟩ :=
                ihBudget left (Nat.lt_succ_self _) hnames hsettled (fun _ => hstarts) hnext
              obtain ⟨mid, last, hlast, hresolve, hmid⟩ := ihBudget later (by omega) htodo
                (settled_of_resolve hsettled (hinner left (Nat.le_refl _))) hinnerDirectory hafter
              refine ⟨mid, last, by omega, fun depth hdepth => ?_, hmid⟩
              obtain ⟨depth, rfl⟩ : ∃ d, depth = d + 1 := ⟨depth - 1, by omega⟩
              have hfollow : fs.follow (depth + 1) (base ++ [c]) = .ok inner := by
                simp only [follow, hentry, List.dropLast_concat]
                exact hinner depth (by omega)
              rw [Admits.resolve_of_link ⟨hhere, hc, hnul, hlength⟩ hentry, hfollow]
              exact hresolve (depth + 1) (by omega)

end Filesystem

namespace Machine

variable {m : Machine} {p q : Path} {place : Place} {e : Entry} {budget : Nat}

/-- The current directory is a directory, and its path meets no link. -/
structure Grounded (m : Machine) : Prop where
  absolute : m.cwd.isAbsolute
  settled : m.files.Settled m.base
  directory : m.files.entry? m.base = some .directory

def startOf (m : Machine) (p : Path) : Place := if p.isAbsolute then [] else m.base

/-- An entry stands at the place that a path leads to, with at most `budget` links followed. -/
def LeadsTo (m : Machine) (budget : Nat) (p : Path) (place : Place) (e : Entry) : Prop :=
  m.files.walk budget (m.startOf p) p.parts = .ok place ∧ m.files.entry? place = some e

theorem lookup_eq_ok_iff : m.files.lookup m.base p = .ok (place, e) ↔ m.LeadsTo linkBudget p place e := by
  rw [Filesystem.lookup, Filesystem.locate, LeadsTo, startOf]
  split
  · next h => simp [h]
  · next found h =>
    rw [h, Except.ok.injEq]
    constructor
    · intro hentry
      split at hentry
      · cases hentry
      · next e' he' =>
        cases hentry
        exact ⟨rfl, he'⟩
    · rintro ⟨rfl, hentry⟩
      rw [hentry]

theorem Grounded.settled_startOf (h : m.Grounded) (p : Path) : m.files.Settled (m.startOf p) := by
  rw [startOf]
  split
  · exact .root
  · exact h.settled

theorem Grounded.directory_startOf (h : m.Grounded) (p : Path) :
    m.files.entry? (m.startOf p) = some .directory := by
  rw [startOf]
  split
  · rfl
  · exact h.directory

theorem settled_of_resolve (hcwd : m.Grounded) (h : m.resolve p = .ok place) : m.files.Settled place :=
  Filesystem.settled_of_resolve (hcwd.settled_startOf p) h

theorem resolve_of_deep (m : Machine) (p : Path) {depth : Nat} (hdepth : m.files.entries.length ≤ depth) :
    m.files.resolve depth (m.startOf p) p.parts = m.resolve p :=
  Filesystem.resolve_of_deep hdepth _ _

/-- What a path leads to is what it is resolved to. -/
theorem resolve_of_leadsTo (hfiles : m.files.NulFree) (hcwd : m.Grounded) (hp : p.hasNul = false)
    (h : m.LeadsTo budget p place e) : m.resolve p = .ok place := by
  have hnul : ∀ c ∈ p.parts, '\x00' ∉ c.toList := by simpa [Path.hasNul] using hp
  have hwalk : m.files.walk budget (m.startOf p) (p.parts ++ []) = .ok place := by
    rw [List.append_nil]
    exact h.1
  obtain ⟨mid, left, -, hresolve, hend, -⟩ := Filesystem.exists_resolved_of_walk hfiles hnul
    (hcwd.settled_startOf p) (fun _ => hcwd.directory_startOf p) hwalk (by simp [h.2])
  rw [Filesystem.walk_nil] at hend
  obtain rfl := Except.ok.inj hend
  rw [← m.resolve_of_deep p (Nat.le_max_left _ budget), hresolve _ (Nat.le_max_right _ _)]

theorem resolve_ofParts (h : m.files.Settled place) (hparts : ∀ c ∈ place, IsComponent c) :
    m.resolve (.ofParts place hparts) = .ok place := by
  have hresolve := h.resolve_append m.files.entries.length []
  rwa [List.append_nil, Filesystem.resolve_nil] at hresolve

theorem leadsTo_ofParts (h : m.files.Settled place) (hentry : m.files.entry? place = some e)
    (hparts : ∀ c ∈ place, IsComponent c) (budget : Nat) : m.LeadsTo budget (.ofParts place hparts) place e := by
  have hwalk := h.walk_append budget (fun h => absurd rfl h)
  rw [List.append_nil, Filesystem.walk_nil] at hwalk
  exact ⟨hwalk, hentry⟩

theorem resolve_absolute (hcwd : m.Grounded) (p : Path) : m.resolve (m.absolute p) = m.resolve p := by
  rw [absolute, Path.join]
  split
  · rfl
  · next hp =>
    have habsolute : (⟨m.cwd.root, m.cwd.parts ++ p.parts, fun c h => (List.mem_append.1 h).elim
        (m.cwd.isComponent c) (p.isComponent c)⟩ : Path).isAbsolute := hcwd.absolute
    rw [resolve, resolve, if_pos habsolute, if_neg hp]
    exact hcwd.settled.resolve_append _ _

theorem isAbsolute_absolute (hcwd : m.cwd.isAbsolute) (p : Path) : (m.absolute p).isAbsolute := by
  rw [absolute, Path.join]
  split
  · assumption
  · exact hcwd

theorem absolute_absolute (hcwd : m.cwd.isAbsolute) (p : Path) : m.absolute (m.absolute p) = m.absolute p := by
  rw [absolute, Path.join, if_pos (isAbsolute_absolute hcwd p)]

theorem canonicalize_canonical (hcwd : m.Grounded) (h : m.canonicalize? p = some q) :
    m.canonicalize? q = some q := by
  cases hresolve : m.resolve p with
  | ok place =>
      rw [canonicalize_of_resolve hresolve] at h
      cases h
      exact canonicalize_of_resolve (resolve_ofParts (settled_of_resolve hcwd hresolve) _)
  | error fault =>
      cases fault with
      | nul =>
          rw [canonicalize_of_nul hresolve] at h
          cases h
      | unreachable =>
          rw [canonicalize_of_unreachable hresolve] at h
          cases h
          rw [canonicalize_of_unreachable ((resolve_absolute hcwd p).trans hresolve),
            absolute_absolute hcwd.absolute]

end Machine

/-- Every path has an absolute canonical form, whatever links it meets, and this is its own canonical form. The
bound on nested links does not show. A path that leads to an entry has a canonical form without links and `..`
that leads there as well, and so does every other path to that entry. -/
theorem canonicalize_normal {m : Machine} (hfiles : m.files.NulFree) (hcwd : m.Grounded) {p : Path}
    (hp : p.hasNul = false) :
    (∀ depth, m.files.entries.length ≤ depth →
      m.files.resolve depth (m.startOf p) p.parts = m.resolve p) ∧
    ∃ q, m.canonicalize? p = some q ∧ q.isAbsolute ∧ m.canonicalize? q = some q ∧
      ∀ budget place e, m.LeadsTo budget p place e →
        ".." ∉ q.parts ∧ (∀ up target, up <+: q.parts → m.files.entry? up ≠ some (.link target)) ∧
        m.files.lookup m.base q = .ok (place, e) ∧
        ∀ budget' p', p'.hasNul = false → m.LeadsTo budget' p' place e → m.canonicalize? p' = some q := by
  obtain ⟨q, hq⟩ := Machine.exists_canonical hfiles hp
  refine ⟨fun depth => m.resolve_of_deep p, q, hq, Machine.isAbsolute_of_canonicalize hcwd.absolute hq,
    Machine.canonicalize_canonical hcwd hq, fun budget place e hleads => ?_⟩
  have hresolve := Machine.resolve_of_leadsTo hfiles hcwd hp hleads
  have hsettled := Machine.settled_of_resolve hcwd hresolve
  rw [Machine.canonicalize_of_resolve hresolve] at hq
  cases hq
  refine ⟨hsettled.descends, fun up target hup => hsettled.noLink hup target,
    Machine.lookup_eq_ok_iff.2 (Machine.leadsTo_ofParts hsettled hleads.2 _ _), fun budget' p' hp' hleads' => ?_⟩
  exact Machine.canonicalize_of_resolve (Machine.resolve_of_leadsTo hfiles hcwd hp' hleads')

def Machine.tangled : Machine := { Machine.bare with
  files := ⟨[(["data"], .directory), (["data", "real"], .directory), (["w"], .directory),
    (["w", "up"], .link "../data/real"), (["w", "loop"], .link "loop")]⟩
  cwd := .ofString "/w" }

namespace Machine

theorem tangled_nulFree : tangled.files.NulFree := by
  have htargets : '\x00' ∉ "../data/real".toList ∧ '\x00' ∉ "loop".toList := by decide
  refine Filesystem.nulFree_of_entries fun e he target hlink => ?_
  simp only [tangled, List.mem_cons, List.not_mem_nil, or_false] at he
  rcases he with rfl | rfl | rfl | rfl | rfl <;> cases hlink
  · exact htargets.1
  · exact htargets.2

theorem tangled_grounded : tangled.Grounded := by
  have hbase : tangled.base = [] ++ ["w"] := by decide
  have hadmits : tangled.files.Admits [] "w" := ⟨rfl, by decide, by decide, by decide⟩
  refine ⟨by decide, ?_, by decide⟩
  rw [hbase]
  exact .name .root hadmits (e := .directory) (by decide) fun _ => Entry.noConfusion

theorem tangled_leads : tangled.LeadsTo 1 (.ofString "up/..") ["data"] .directory := by
  have hentries : tangled.files.entry? ["data"] = some .directory ∧
      tangled.files.entry? ["data", "real"] = some .directory ∧
      tangled.files.entry? ["w", "up"] = some (.link "../data/real") := by decide
  have hnames : componentsOf "../data/real" = ["..", "data", "real"] ∧
      (Path.ofString "../data/real").isAbsolute = false := by decide
  have hlengths : ¬longestName < "up".utf8ByteSize ∧ ¬longestName < "data".utf8ByteSize ∧
      ¬longestName < "real".utf8ByteSize := by decide
  refine ⟨?_, hentries.1⟩
  rw [show tangled.startOf (.ofString "up/..") = ["w"] by decide,
    show (Path.ofString "up/..").parts = ["up", ".."] by decide]
  simp [Filesystem.walk, hentries, hnames, hlengths]

end Machine

theorem canonicalize_normal_tangled :
    Machine.tangled.files.NulFree ∧ Machine.tangled.Grounded ∧ (Path.ofString "up/..").hasNul = false ∧
      (Path.ofString "/data").hasNul = false ∧
      Machine.tangled.LeadsTo 1 (.ofString "up/..") ["data"] .directory ∧
      Machine.tangled.canonicalize? (.ofString "up/..") = Machine.tangled.canonicalize? (.ofString "/data") ∧
      ∃ q, Machine.tangled.canonicalize? (.ofString "up/..") = some q ∧
        Machine.tangled.files.lookup Machine.tangled.base q = .ok (["data"], .directory) := by
  have hp : (Path.ofString "up/..").hasNul = false := by decide
  have hp' : (Path.ofString "/data").hasNul = false := by decide
  have hother : Machine.tangled.LeadsTo 0 (.ofString "/data") ["data"] .directory :=
    Machine.leadsTo_ofParts (.name .root ⟨rfl, by decide, by decide, by decide⟩ (e := .directory) (by decide)
      fun _ => Entry.noConfusion) (by decide) (by decide) 0
  obtain ⟨-, q, hq, -, -, hleads⟩ := canonicalize_normal Machine.tangled_nulFree Machine.tangled_grounded hp
  obtain ⟨-, -, hlookup, hsame⟩ := hleads 1 _ _ Machine.tangled_leads
  exact ⟨Machine.tangled_nulFree, Machine.tangled_grounded, hp, hp', Machine.tangled_leads,
    hq.trans (hsame 0 _ hp' hother).symm, q, hq, hlookup⟩

end Workcell
