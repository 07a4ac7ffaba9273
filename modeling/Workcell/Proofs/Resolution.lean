import Mathlib.Data.List.Sort
import Workcell.Proofs.Selection

namespace Workcell

namespace Mount

/-- The request `r` is one for `p`: this is its canonical form, or the directory that holds that. -/
def AsksFor (m : Machine) (r : Mount) (p : Path) : Prop :=
  ∃ q, m.canonicalize? r.path = some q ∧ (p = q ∨ p = q.parent)

/-- The first request that labels what is canonically `p` calls it `l`. -/
def FirstLabel (m : Machine) (asked : List Mount) (p : Path) (l : String) : Prop :=
  ∃ before r after, asked = before ++ r :: after ∧ m.canonicalize? r.path = some p ∧
    r.shownLabel = some l ∧ ∀ r' ∈ before, m.canonicalize? r'.path = some p → r'.shownLabel = none

variable {m : Machine} {asked resolved mounts : List Mount} {workDir : Path} {extra : List Mount}
  {p : Path} {l : String}

theorem firstLabel_cons_iff {r : Mount} : FirstLabel m (r :: asked) p l ↔
    m.canonicalize? r.path = some p ∧ r.shownLabel = some l ∨
      (m.canonicalize? r.path = some p → r.shownLabel = none) ∧ FirstLabel m asked p l := by
  constructor
  · rintro ⟨before, r', after, hasked, hp, hl, hbefore⟩
    cases before with
    | nil =>
        obtain ⟨rfl, rfl⟩ := List.cons.inj hasked
        exact .inl ⟨hp, hl⟩
    | cons first before =>
        obtain ⟨rfl, rfl⟩ := List.cons.inj hasked
        obtain ⟨hfirst, hbefore⟩ := List.forall_mem_cons.1 hbefore
        exact .inr ⟨hfirst, before, r', after, rfl, hp, hl, hbefore⟩
  · rintro (⟨hp, hl⟩ | ⟨hfirst, before, r', after, rfl, hp, hl, hbefore⟩)
    · exact ⟨[], r, asked, rfl, hp, hl, by simp⟩
    · exact ⟨r :: before, r', after, rfl, hp, hl, List.forall_mem_cons.2 ⟨hfirst, hbefore⟩⟩

theorem labelOf_cons (r : Mount) (rest : List Mount) (p : Path) : labelOf (r :: rest) p =
    if r.path = p then r.shownLabel.or (labelOf rest p) else labelOf rest p := by
  by_cases hp : r.path = p
  · rw [if_pos hp, labelOf, List.filter_cons_of_pos (by simpa using hp), List.findSome?_cons]
    cases r.shownLabel <;> rfl
  · rw [if_neg hp, labelOf, List.filter_cons_of_neg (by simpa using hp)]
    rfl

theorem labelOf_eq_some_iff (h : canonical? m asked = some resolved) :
    labelOf resolved p = some l ↔ FirstLabel m asked p l := by
  induction asked generalizing resolved with
  | nil =>
      obtain rfl : resolved = [] := by simpa [canonical?, eq_comm] using h
      simp [labelOf, FirstLabel]
  | cons r rest ih =>
      simp only [canonical?, List.mapM_cons, bind, Option.bind_eq_some_iff, Option.map_eq_some_iff, pure,
        Option.some.injEq] at h
      obtain ⟨-, ⟨q, hq, rfl⟩, tail, htail, rfl⟩ := h
      have hlabel : ({ r with path := q } : Mount).shownLabel = r.shownLabel := rfl
      rw [firstLabel_cons_iff, ← ih htail, labelOf_cons, hlabel, hq, Option.some.injEq]
      by_cases hp : q = p
      · cases hl : r.shownLabel with
        | none => simp [hp]
        | some l' => simp [hp]
      · simp [hp]

theorem mem_of_firstLabel (h : FirstLabel m asked p l) :
    ∃ r ∈ asked, m.canonicalize? r.path = some p ∧ r.shownLabel = some l := by
  obtain ⟨before, r, after, rfl, hp, hl, -⟩ := h
  exact ⟨r, by simp, hp, hl⟩

theorem exists_firstLabel {r : Mount} (hr : r ∈ asked) (hp : m.canonicalize? r.path = some p)
    (hl : r.shownLabel = some l) : ∃ l', FirstLabel m asked p l' := by
  induction asked with
  | nil => cases hr
  | cons first rest ih =>
      by_cases hfirst : m.canonicalize? first.path = some p ∧ first.shownLabel ≠ none
      · obtain ⟨l', hl'⟩ := Option.ne_none_iff_exists'.1 hfirst.2
        exact ⟨l', firstLabel_cons_iff.2 (.inl ⟨hfirst.1, hl'⟩)⟩
      · have hnone : m.canonicalize? first.path = some p → first.shownLabel = none := by
          simpa using hfirst
        rcases List.mem_cons.1 hr with rfl | hr
        · rw [hnone hp] at hl
          cases hl
        · obtain ⟨l', hrest⟩ := ih hr
          exact ⟨l', firstLabel_cons_iff.2 (.inr ⟨hnone, hrest⟩)⟩

theorem combine_pairwise (asked : List Mount) :
    (combine asked).Pairwise fun a b => a.path.text < b.path.text := by
  rw [combine, List.pairwise_map]
  let sorted := (gather asked).modes.mergeSort fun a b => a.1.before b.1
  have hsorted : sorted.Pairwise fun a b => a.1.before b.1 = true := by
    apply List.pairwise_mergeSort
    · intro a b c hab hbc
      simp only [Path.before, Bool.not_eq_true', decide_eq_false_iff_not, String.not_lt] at hab hbc ⊢
      exact String.le_trans hab hbc
    · intro a b
      simp only [Path.before, Bool.or_eq_true, Bool.not_eq_true', decide_eq_false_iff_not, String.not_lt]
      exact String.le_total _ _
  have hnodup : (sorted.map Prod.fst).Nodup :=
    ((List.mergeSort_perm _ _).map Prod.fst).nodup_iff.2 (nodup_modes_gather asked)
  apply (hsorted.and (List.pairwise_map.1 hnodup)).imp
  rintro a b ⟨hbefore, hne⟩
  simp only [Path.before, Bool.not_eq_true', decide_eq_false_iff_not, String.not_lt] at hbefore
  apply Decidable.byContradiction
  intro hlt
  exact hne (Path.text_inj.1 (String.le_antisymm hbefore (String.not_lt.1 hlt)))

section Resolved

variable (h : resolve? m workDir extra = some mounts)
include h

theorem exists_resolved_combine : ∃ resolved, canonical? m (requests workDir extra) = some resolved ∧
    combine resolved = mounts :=
  Option.map_eq_some_iff.1 h

theorem exists_mount_iff :
    (∃ mount ∈ mounts, mount.path = p) ↔ ∃ r ∈ requests workDir extra, AsksFor m r p := by
  obtain ⟨resolved, hresolved, rfl⟩ := exists_resolved_combine h
  constructor
  · rintro ⟨mount, hmount, rfl⟩
    obtain ⟨r', hr', hexposed⟩ := (mem_combine_iff.1 hmount).1
    obtain ⟨r, hr, q, hq, rfl⟩ := (mem_canonical_iff hresolved).1 hr'
    exact ⟨r, hr, q, hq, hexposed⟩
  · rintro ⟨r, hr, q, hq, hexposed⟩
    have hr' := (mem_canonical_iff hresolved).2 ⟨r, hr, q, hq, rfl⟩
    exact ⟨⟨p, if writes resolved p then .readWrite else .readOnly, labelOf resolved p⟩,
      mem_combine_iff.2 ⟨⟨_, hr', hexposed⟩, rfl, rfl⟩, rfl⟩

theorem eq_of_path_eq {a b : Mount} (ha : a ∈ mounts) (hb : b ∈ mounts) (hpath : a.path = b.path) :
    a = b := by
  obtain ⟨resolved, -, rfl⟩ := exists_resolved_combine h
  obtain ⟨-, hamode, halabel⟩ := mem_combine_iff.1 ha
  obtain ⟨-, hbmode, hblabel⟩ := mem_combine_iff.1 hb
  cases a
  cases b
  simp_all

theorem readWrite_iff {mount : Mount} (hmount : mount ∈ mounts) :
    mount.mode = .readWrite ↔
      ∃ r ∈ requests workDir extra, r.mode = .readWrite ∧ AsksFor m r mount.path := by
  refine Iff.trans ?_ (exists_readWrite_iff h)
  constructor
  · exact fun hmode => ⟨mount, hmount, rfl, hmode⟩
  · rintro ⟨other, hother, hpath, hmode⟩
    rwa [eq_of_path_eq h hmount hother hpath.symm]

theorem label_iff {mount : Mount} (hmount : mount ∈ mounts) :
    mount.label = some l ↔ FirstLabel m (requests workDir extra) mount.path l := by
  obtain ⟨resolved, hresolved, rfl⟩ := exists_resolved_combine h
  rw [(mem_combine_iff.1 hmount).2.2, labelOf_eq_some_iff hresolved]

theorem exists_place_iff {mode : AccessMode} : (∃ mount ∈ mounts, mount.path = p ∧ mount.mode = mode) ↔
    (∃ r ∈ requests workDir extra, AsksFor m r p) ∧
      (mode = .readWrite ↔ ∃ r ∈ requests workDir extra, r.mode = .readWrite ∧ AsksFor m r p) := by
  constructor
  · rintro ⟨mount, hmount, rfl, rfl⟩
    exact ⟨(exists_mount_iff h).1 ⟨mount, hmount, rfl⟩, readWrite_iff h hmount⟩
  · rintro ⟨hasked, hmode⟩
    obtain ⟨mount, hmount, rfl⟩ := (exists_mount_iff h).2 hasked
    rw [← readWrite_iff h hmount] at hmode
    refine ⟨mount, hmount, rfl, ?_⟩
    cases mode <;> cases hwrites : mount.mode <;> simp_all

theorem exists_of_label {mount : Mount} (hmount : mount ∈ mounts) (hl : mount.label = some l) :
    ∃ r ∈ extra, m.canonicalize? r.path = some mount.path ∧ r.shownLabel = some l := by
  obtain ⟨r, hr, hp, hlabel⟩ := mem_of_firstLabel ((label_iff h hmount).1 hl)
  rcases List.mem_cons.1 hr with rfl | hr
  · cases hlabel
  · exact ⟨r, hr, hp, hlabel⟩

theorem label_isSome_iff {mount : Mount} (hmount : mount ∈ mounts) : mount.label.isSome ↔
    ∃ r ∈ extra, m.canonicalize? r.path = some mount.path ∧ r.shownLabel.isSome := by
  constructor
  · intro hlabel
    obtain ⟨l, hl⟩ := Option.isSome_iff_exists.1 hlabel
    obtain ⟨r, hr, hp, hr'⟩ := exists_of_label h hmount hl
    exact ⟨r, hr, hp, by simp [hr']⟩
  · rintro ⟨r, hr, hp, hlabel⟩
    obtain ⟨l, hl⟩ := Option.isSome_iff_exists.1 hlabel
    obtain ⟨l', hfirst⟩ := exists_firstLabel (List.mem_cons_of_mem _ hr) hp hl
    rw [(label_iff h hmount).2 hfirst]
    rfl

theorem isAbsolute_of_mem (hcwd : m.cwd.isAbsolute) {mount : Mount} (hmount : mount ∈ mounts) :
    mount.path.isAbsolute := by
  obtain ⟨r, -, q, hq, hpath⟩ := (exists_mount_iff h).1 ⟨mount, hmount, rfl⟩
  have hq := Machine.isAbsolute_of_canonicalize hcwd hq
  rcases hpath with hpath | hpath
  · rwa [hpath]
  · rwa [hpath]

theorem text_pairwise : mounts.Pairwise fun a b => a.path.text < b.path.text := by
  obtain ⟨resolved, -, rfl⟩ := exists_resolved_combine h
  exact combine_pairwise resolved

end Resolved

theorem places_eq {a b : List Mount}
    (ha : a.Pairwise fun x y => x.path.text < y.path.text)
    (hb : b.Pairwise fun x y => x.path.text < y.path.text)
    (h : ∀ p mode, (∃ x ∈ a, x.path = p ∧ x.mode = mode) ↔ ∃ x ∈ b, x.path = p ∧ x.mode = mode) :
    a.map (fun x => (x.path, x.mode)) = b.map fun x => (x.path, x.mode) := by
  let before := fun x y : Path × AccessMode => x.1.text < y.1.text
  have hirrefl : Std.Irrefl before := ⟨fun x => String.lt_irrefl _⟩
  have hantisymm : Std.Antisymm before :=
    ⟨fun x y hxy hyx => absurd (String.lt_trans hxy hyx) (String.lt_irrefl _)⟩
  have hfirst : (a.map fun x => (x.path, x.mode)).Pairwise before := List.pairwise_map.2 ha
  have hsecond : (b.map fun x => (x.path, x.mode)).Pairwise before := List.pairwise_map.2 hb
  apply hfirst.eq_of_mem_iff hsecond
  rintro ⟨p, mode⟩
  simpa only [List.mem_map, Prod.mk.injEq] using h p mode

section Reordered

variable {extra' mounts' : List Mount} (hperm : extra'.Perm extra)
  (h : resolve? m workDir extra = some mounts) (h' : resolve? m workDir extra' = some mounts')
include hperm h h'

theorem places_of_perm : mounts'.map (fun mount => (mount.path, mount.mode)) =
    mounts.map fun mount => (mount.path, mount.mode) := by
  apply places_eq (text_pairwise h') (text_pairwise h)
  intro p mode
  simp only [exists_place_iff h, exists_place_iff h', (hperm.cons _).mem_iff, requests]

theorem labels_of_perm {mount mount' : Mount} (hmount : mount ∈ mounts) (hmount' : mount' ∈ mounts')
    (hpath : mount'.path = mount.path) (hne : mount'.label ≠ mount.label) :
    ∃ r ∈ extra, ∃ r' ∈ extra, m.canonicalize? r.path = some mount.path ∧
      m.canonicalize? r'.path = some mount.path ∧ r.shownLabel.isSome ∧ r'.shownLabel.isSome ∧
      r.shownLabel ≠ r'.shownLabel := by
  have hlabelled : mount'.label.isSome ↔ mount.label.isSome := by
    simp only [label_isSome_iff h hmount, label_isSome_iff h' hmount', hpath, hperm.mem_iff]
  cases hl : mount.label with
  | none =>
      cases hl' : mount'.label with
      | none => exact absurd (hl'.trans hl.symm) hne
      | some l' => simp [hl, hl'] at hlabelled
  | some l =>
      cases hl' : mount'.label with
      | none => simp [hl, hl'] at hlabelled
      | some l' =>
          obtain ⟨r, hr, hp, hr'⟩ := exists_of_label h hmount hl
          obtain ⟨r', hr'extra, hp', hr''⟩ := exists_of_label h' hmount' hl'
          rw [hpath] at hp'
          refine ⟨r, hr, r', hperm.mem_iff.1 hr'extra, hp, hp', by simp [hr'], by simp [hr''], ?_⟩
          rw [hr', hr'', ← hl, ← hl']
          exact hne.symm

end Reordered

end Mount

/-- Mounts resolve to the canonical forms of the requests and the directories that hold these, and to nothing
else, each once and in the order of their texts, so that a directory stands before what lies in it. A mount is
for writing if some request for it is, and has the label that the first labelled request for itself gives. In
another order the same requests give the same paths and modes; a label is another one only if two requests
label the same path differently. -/
theorem mounts_resolved {m : Machine} (hfiles : m.files.NulFree) (hcwd : m.cwd.isAbsolute)
    {workDir : Path} (hdir : workDir.hasNul = false) {extra : List Mount}
    (hextra : ∀ r ∈ extra, r.path.hasNul = false) :
    ∃ mounts, Mount.resolve? m workDir extra = some mounts ∧
      (∀ mount ∈ mounts, mount.path.isAbsolute) ∧
      mounts.Pairwise (fun a b => a.path.text < b.path.text ∧ a.path ≠ b.path ∧ ¬b.path.Above a.path) ∧
      (∀ p, (∃ mount ∈ mounts, mount.path = p) ↔
        ∃ r ∈ Mount.requests workDir extra, Mount.AsksFor m r p) ∧
      (∀ mount ∈ mounts, mount.mode = .readWrite ↔
        ∃ r ∈ Mount.requests workDir extra, r.mode = .readWrite ∧ Mount.AsksFor m r mount.path) ∧
      (∀ mount ∈ mounts, ∀ l, mount.label = some l ↔
        Mount.FirstLabel m (Mount.requests workDir extra) mount.path l) ∧
      ∀ extra', extra'.Perm extra → ∃ mounts', Mount.resolve? m workDir extra' = some mounts' ∧
        mounts'.map (fun mount => (mount.path, mount.mode)) =
          mounts.map (fun mount => (mount.path, mount.mode)) ∧
        ∀ mount ∈ mounts, ∀ mount' ∈ mounts', mount'.path = mount.path → mount'.label ≠ mount.label →
          ∃ r ∈ extra, ∃ r' ∈ extra, m.canonicalize? r.path = some mount.path ∧
            m.canonicalize? r'.path = some mount.path ∧ r.shownLabel.isSome ∧ r'.shownLabel.isSome ∧
            r.shownLabel ≠ r'.shownLabel := by
  obtain ⟨mounts, hmounts⟩ := Mount.exists_resolved hfiles hdir hextra
  refine ⟨mounts, hmounts, fun mount => Mount.isAbsolute_of_mem hmounts hcwd, ?_,
    fun p => Mount.exists_mount_iff hmounts, fun mount => Mount.readWrite_iff hmounts,
    fun mount hmount l => Mount.label_iff hmounts hmount, fun extra' hperm => ?_⟩
  · apply (Mount.text_pairwise hmounts).imp_of_mem
    intro a b _ hb hlt
    refine ⟨hlt, fun heq => ?_, fun habove => ?_⟩
    · rw [heq] at hlt
      exact String.lt_irrefl _ hlt
    · have hgt := habove.text_lt (Mount.isAbsolute_of_mem hmounts hcwd hb)
      exact String.lt_irrefl _ (String.lt_trans hlt hgt)
  · have hextra' : ∀ r ∈ extra', r.path.hasNul = false := fun r hr => hextra r (hperm.mem_iff.1 hr)
    obtain ⟨mounts', hmounts'⟩ := Mount.exists_resolved hfiles hdir hextra'
    exact ⟨mounts', hmounts', Mount.places_of_perm hperm hmounts hmounts',
      fun mount hmount mount' hmount' => Mount.labels_of_perm hperm hmounts hmounts' hmount hmount'⟩

def Mount.relabelled : List Mount :=
  [⟨.ofString "/link", .readOnly, some "sources"⟩, ⟨.ofString "/data/real", .readOnly, some "build"⟩]

theorem mounts_resolved_relabelled :
    Machine.linked.files.NulFree ∧ Machine.linked.cwd.isAbsolute ∧
      (Path.ofString "/data/real").hasNul = false ∧ (∀ r ∈ Mount.relabelled, r.path.hasNul = false) ∧
      ∃ mounts, Mount.resolve? .linked (.ofString "/data/real") Mount.relabelled = some mounts ∧
        ⟨.ofString "/data/real", .readWrite, some "sources"⟩ ∈ mounts ∧
        ⟨.ofString "/data", .readWrite, none⟩ ∈ mounts := by
  have hcwd : Machine.linked.cwd.isAbsolute := by decide
  have hdir : (Path.ofString "/data/real").hasNul = false := by decide
  have hextra : ∀ r ∈ Mount.relabelled, r.path.hasNul = false := by decide
  obtain ⟨mounts, hmounts, -, -, hpaths, hmodes, hlabels, -⟩ :=
    mounts_resolved Machine.linked_nulFree hcwd hdir hextra
  refine ⟨Machine.linked_nulFree, hcwd, hdir, hextra, mounts, hmounts, ?_, ?_⟩
  · have hasked : Mount.AsksFor .linked ⟨.ofString "/data/real", .readWrite, none⟩ (.ofString "/data/real") :=
      ⟨_, Machine.linked_canonical (.inl rfl), .inl rfl⟩
    obtain ⟨⟨path, mode, label⟩, hmount, rfl⟩ := (hpaths _).2 ⟨_, List.mem_cons_self, hasked⟩
    have hmode : mode = .readWrite := (hmodes _ hmount).2 ⟨_, List.mem_cons_self, rfl, hasked⟩
    have hlabel : label = some "sources" := by
      refine (hlabels _ hmount _).2 ⟨[⟨.ofString "/data/real", .readWrite, none⟩], _, _, rfl,
        Machine.linked_canonical (.inr rfl), rfl, ?_⟩
      simp [Mount.shownLabel]
    rwa [hmode, hlabel] at hmount
  · have hparent : (Path.ofString "/data/real").parent = .ofString "/data" := by decide
    have hasked : Mount.AsksFor .linked ⟨.ofString "/data/real", .readWrite, none⟩ (.ofString "/data") :=
      ⟨_, Machine.linked_canonical (.inl rfl), .inr hparent.symm⟩
    obtain ⟨⟨path, mode, label⟩, hmount, rfl⟩ := (hpaths _).2 ⟨_, List.mem_cons_self, hasked⟩
    have hmode : mode = .readWrite := (hmodes _ hmount).2 ⟨_, List.mem_cons_self, rfl, hasked⟩
    cases label with
    | none => rwa [hmode] at hmount
    | some l =>
        obtain ⟨r, hr, hp, -⟩ := Mount.mem_of_firstLabel ((hlabels _ hmount l).1 rfl)
        have hother : Machine.linked.canonicalize? r.path = some (.ofString "/data/real") := by
          simp only [Mount.requests, Mount.relabelled, List.mem_cons, List.not_mem_nil, or_false] at hr
          rcases hr with rfl | rfl | rfl
          · exact Machine.linked_canonical (.inl rfl)
          · exact Machine.linked_canonical (.inr rfl)
          · exact Machine.linked_canonical (.inl rfl)
        have hne : Path.ofString "/data/real" ≠ .ofString "/data" := by decide
        exact absurd (Option.some.inj (hother.symm.trans hp)) hne

end Workcell
