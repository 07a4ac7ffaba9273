import Mathlib.Data.List.Induction
import Workcell.Mount
import Workcell.Proofs.Canonical
import Workcell.Proofs.Pairs

namespace Workcell.Mount

def writes (requests : List Mount) (p : Path) : Bool :=
  requests.any fun r => r.mode == .readWrite && p ∈ r.exposed

def labelOf (requests : List Mount) (p : Path) : Option String :=
  (requests.filter (·.path = p)).findSome? shownLabel

variable {m : Machine} {asked resolved : List Mount} {p q : Path} {mode : AccessMode}

section Gathering

variable {modes : List (Path × AccessMode)}

theorem lookup_grant : (grant mode modes p).lookup q =
    if q = p then some (if modes.lookup p = some .readWrite then .readWrite else mode)
    else modes.lookup q := by
  by_cases hopen : modes.lookup p = some .readWrite
  · rw [grant, if_pos hopen, if_pos hopen]
    split
    · next hq => rw [hq, hopen]
    · rfl
  · rw [grant, if_neg hopen, if_neg hopen, lookup_putPair]

theorem nodup_grant (h : (modes.map Prod.fst).Nodup) : ((grant mode modes p).map Prod.fst).Nodup := by
  rw [grant]
  split
  · exact h
  · exact nodup_putPair p mode h

theorem lookup_foldl_grant (paths : List Path) : (paths.foldl (grant mode) modes).lookup q =
    if q ∈ paths then some (if modes.lookup q = some .readWrite then .readWrite else mode)
    else modes.lookup q := by
  induction paths generalizing modes with
  | nil => simp
  | cons p rest ih =>
      rw [List.foldl_cons, ih, lookup_grant]
      by_cases hq : q = p
      · subst hq
        by_cases hopen : modes.lookup q = some .readWrite
        · simp [hopen]
        · cases mode <;> simp [hopen]
      · simp [hq]

theorem nodup_foldl_grant (h : (modes.map Prod.fst).Nodup) (paths : List Path) :
    ((paths.foldl (grant mode) modes).map Prod.fst).Nodup := by
  induction paths generalizing modes with
  | nil => exact h
  | cons p rest ih => exact ih (nodup_grant h)

theorem lookup_putLabel (r : Mount) (labels : List (Path × String)) : (r.putLabel labels).lookup q =
    (labels.lookup q).or (if r.path = q then r.shownLabel else none) := by
  rw [putLabel]
  cases hshown : r.shownLabel with
  | none => simp
  | some l =>
      cases hlabel : labels.lookup r.path with
      | some l' =>
          by_cases hq : r.path = q
          · simp [← hq, hlabel]
          · simp [hq]
      | none =>
          by_cases hq : r.path = q
          · simp [← hq, hlabel, lookup_putPair]
          · simp [hq, Ne.symm hq, lookup_putPair]

end Gathering

theorem gather_concat (asked : List Mount) (r : Mount) : gather (asked ++ [r]) = (gather asked).add r := by
  simp [gather]

theorem writes_concat (asked : List Mount) (r : Mount) (p : Path) :
    writes (asked ++ [r]) p = (writes asked p || (r.mode == .readWrite && p ∈ r.exposed)) := by
  simp [writes]

theorem mem_exposed_of_writes (h : writes asked p = true) : p ∈ asked.flatMap exposed := by
  obtain ⟨r, hr, hwrites⟩ := List.any_eq_true.1 h
  exact List.mem_flatMap.2 ⟨r, hr, of_decide_eq_true (Bool.and_eq_true_iff.1 hwrites).2⟩

theorem lookup_modes_gather (asked : List Mount) (p : Path) : (gather asked).modes.lookup p =
    if p ∈ asked.flatMap exposed then some (if writes asked p then .readWrite else .readOnly) else none := by
  -- from the last request, which is granted over what the others come to
  induction asked using List.reverseRecOn with
  | nil => rfl
  | append_singleton asked r ih =>
      have hopen : (gather asked).modes.lookup p = some .readWrite ↔ writes asked p = true := by
        rw [ih]
        constructor
        · intro h
          by_contra hwrites
          simp [hwrites] at h
        · intro h
          rw [if_pos (mem_exposed_of_writes h), if_pos h]
      have hexposed : p ∈ (asked ++ [r]).flatMap exposed ↔ p ∈ asked.flatMap exposed ∨ p ∈ r.exposed := by
        rw [List.flatMap_append, List.mem_append, List.flatMap_singleton]
      rw [gather_concat, Gathered.add, lookup_foldl_grant, writes_concat]
      by_cases hp : p ∈ r.exposed
      · rw [if_pos hp, if_pos (hexposed.2 (.inr hp))]
        simp only [hopen, hp]
        cases r.mode <;> cases writes asked p <;> rfl
      · simp [hp, ih]

theorem nodup_modes_gather (asked : List Mount) : ((gather asked).modes.map Prod.fst).Nodup := by
  induction asked using List.reverseRecOn with
  | nil => exact List.nodup_nil
  | append_singleton asked r ih =>
      rw [gather_concat]
      exact nodup_foldl_grant ih r.exposed

theorem lookup_labels_gather (asked : List Mount) (p : Path) :
    (gather asked).labels.lookup p = labelOf asked p := by
  induction asked using List.reverseRecOn with
  | nil => rfl
  | append_singleton asked r ih =>
      rw [gather_concat, Gathered.add, lookup_putLabel, ih, labelOf, labelOf, List.filter_append,
        List.findSome?_append]
      by_cases hp : r.path = p <;> simp [hp]

theorem mem_canonical_iff (h : canonical? m asked = some resolved) {r' : Mount} :
    r' ∈ resolved ↔ ∃ r ∈ asked, ∃ p, m.canonicalize? r.path = some p ∧ r' = { r with path := p } := by
  induction asked generalizing resolved with
  | nil =>
      have hnil : resolved = [] := by simpa [canonical?, eq_comm] using h
      simp [hnil]
  | cons r rest ih =>
      simp only [canonical?, List.mapM_cons, bind, Option.bind_eq_some_iff, Option.map_eq_some_iff, pure,
        Option.some.injEq] at h
      obtain ⟨-, ⟨p, hp, rfl⟩, tail, htail, rfl⟩ := h
      simp only [List.mem_cons, ih htail, exists_eq_or_imp, hp, Option.some.injEq, exists_eq_left']

theorem exists_canonical_workDir {workDir : Path} {extra mounts : List Mount}
    (h : resolve? m workDir extra = some mounts) : ∃ q, m.canonicalize? workDir = some q := by
  simp only [resolve?, canonical?, requests, List.mapM_cons, bind, Option.map_eq_some_iff,
    Option.bind_eq_some_iff] at h
  obtain ⟨-, ⟨-, ⟨q, hq, -⟩, -⟩, -⟩ := h
  exact ⟨q, hq⟩

theorem exists_canonicals (hfs : m.files.NulFree) (h : ∀ r ∈ asked, r.path.hasNul = false) :
    ∃ resolved, canonical? m asked = some resolved := by
  induction asked with
  | nil => exact ⟨[], rfl⟩
  | cons r rest ih =>
      obtain ⟨q, hq⟩ := Machine.exists_canonical hfs (h r List.mem_cons_self)
      obtain ⟨resolved, hresolved⟩ := ih fun r hr => h r (List.mem_cons_of_mem _ hr)
      rw [canonical?] at hresolved
      exact ⟨{ r with path := q } :: resolved, by simp [canonical?, hq, hresolved]⟩

/-- Paths that calls accept can be resolved, whether or not they lead anywhere. -/
theorem exists_resolved (hfs : m.files.NulFree) {workDir : Path} {extra : List Mount}
    (hdir : workDir.hasNul = false) (hextra : ∀ r ∈ extra, r.path.hasNul = false) :
    ∃ mounts, resolve? m workDir extra = some mounts := by
  have hasked : ∀ r ∈ requests workDir extra, r.path.hasNul = false :=
    List.forall_mem_cons.2 ⟨hdir, hextra⟩
  obtain ⟨resolved, hresolved⟩ := exists_canonicals hfs hasked
  exact ⟨combine resolved, by rw [resolve?, hresolved]; rfl⟩

theorem writes_iff :
    writes asked p = true ↔ ∃ r ∈ asked, r.mode = .readWrite ∧ (p = r.path ∨ p = r.path.parent) := by
  simp [writes, exposed]

theorem mem_combine_iff {mount : Mount} :
    mount ∈ combine asked ↔
      (∃ r ∈ asked, mount.path = r.path ∨ mount.path = r.path.parent) ∧
      mount.mode = (if writes asked mount.path then .readWrite else .readOnly) ∧
      mount.label = labelOf asked mount.path := by
  have hmode : (mount.path, mount.mode) ∈ (gather asked).modes ↔
      mount.path ∈ asked.flatMap exposed ∧
        mount.mode = (if writes asked mount.path then .readWrite else .readOnly) := by
    rw [← lookup_eq_some_iff (nodup_modes_gather asked), lookup_modes_gather]
    by_cases hp : mount.path ∈ asked.flatMap exposed
    · rw [if_pos hp, Option.some.injEq, eq_comm]
      exact (and_iff_right hp).symm
    · simp [hp]
  have hexposed : mount.path ∈ asked.flatMap exposed ↔
      ∃ r ∈ asked, mount.path = r.path ∨ mount.path = r.path.parent := by
    simp [exposed]
  rw [← hexposed, ← and_assoc, ← hmode, ← lookup_labels_gather]
  simp only [combine, List.mem_map, List.mem_mergeSort]
  constructor
  · rintro ⟨entry, hentry, rfl⟩
    exact ⟨hentry, rfl⟩
  · rintro ⟨hentry, hlabel⟩
    exact ⟨_, hentry, by rw [← hlabel]⟩

theorem exists_readWrite_iff {workDir : Path} {extra mounts : List Mount}
    (h : resolve? m workDir extra = some mounts) {p : Path} :
    (∃ mount ∈ mounts, mount.path = p ∧ mount.mode = .readWrite) ↔
      ∃ r ∈ requests workDir extra, r.mode = .readWrite ∧
        ∃ q, m.canonicalize? r.path = some q ∧ (p = q ∨ p = q.parent) := by
  simp only [resolve?, Option.map_eq_some_iff] at h
  obtain ⟨resolved, hresolved, rfl⟩ := h
  have hwrites : (∃ mount ∈ combine resolved, mount.path = p ∧ mount.mode = .readWrite) ↔
      writes resolved p = true := by
    constructor
    · rintro ⟨mount, hmount, rfl, hmode⟩
      rw [(mem_combine_iff.1 hmount).2.1] at hmode
      cases hp : writes resolved mount.path with
      | true => rfl
      | false => simp [hp] at hmode
    · intro hp
      obtain ⟨r, hr, -, hexposed⟩ := writes_iff.1 hp
      exact ⟨⟨p, .readWrite, labelOf resolved p⟩,
        mem_combine_iff.2 ⟨⟨r, hr, hexposed⟩, (if_pos hp).symm, rfl⟩, rfl, rfl⟩
  rw [hwrites, writes_iff]
  constructor
  · rintro ⟨r', hr', hmode, hexposed⟩
    obtain ⟨r, hr, q, hq, rfl⟩ := (mem_canonical_iff hresolved).1 hr'
    exact ⟨r, hr, hmode, q, hq, hexposed⟩
  · rintro ⟨r, hr, hmode, q, hq, hexposed⟩
    exact ⟨_, (mem_canonical_iff hresolved).2 ⟨r, hr, q, hq, rfl⟩, hmode, hexposed⟩

end Workcell.Mount
