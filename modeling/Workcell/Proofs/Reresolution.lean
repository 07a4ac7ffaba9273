import Workcell.Proofs.NormalForm
import Workcell.Proofs.Resolution

namespace Workcell

namespace Machine

variable {m : Machine} {p q : Path}

theorem hasNul_canonical (hcwd : m.Grounded) (hp : p.hasNul = false) (h : m.canonicalize? p = some q) :
    q.hasNul = false := by
  have hbase : ∀ c ∈ m.cwd.parts, '\x00' ∉ c.toList := hcwd.settled.noNul
  have hnul : ∀ c ∈ p.parts, '\x00' ∉ c.toList := by simpa [Path.hasNul] using hp
  cases hresolve : m.resolve p with
  | ok place =>
      rw [canonicalize_of_resolve hresolve] at h
      cases h
      have hplace := (settled_of_resolve hcwd hresolve).noNul
      simpa [Path.hasNul, Path.ofParts] using hplace
  | error fault =>
      cases fault with
      | nul =>
          rw [canonicalize_of_nul hresolve] at h
          cases h
      | unreachable =>
          rw [canonicalize_of_unreachable hresolve] at h
          cases h
          rw [absolute, Path.join]
          split
          · exact hp
          · have hparts : ∀ c ∈ m.cwd.parts ++ p.parts, '\x00' ∉ c.toList := fun c hc =>
              (List.mem_append.1 hc).elim (hbase c) (hnul c)
            simpa only [Path.hasNul, List.any_eq_false, List.contains_iff_mem] using hparts

end Machine

theorem Path.hasNul_parent {p : Path} (h : p.hasNul = false) : p.parent.hasNul = false := by
  simp only [hasNul, parent, List.any_eq_false] at h ⊢
  exact fun c hc => h c (List.dropLast_subset _ hc)

namespace Mount

variable {m : Machine} {workDir : Path} {extra first second : List Mount} {p : Path} {l : String}

/-- What the mounts ask for is among them, for writing if they ask for that. -/
def Closed (m : Machine) (mounts : List Mount) : Prop :=
  ∀ mount ∈ mounts, ∀ p, AsksFor m mount p →
    ∃ other ∈ mounts, other.path = p ∧ (mount.mode = .readWrite → other.mode = .readWrite)

theorem hasNul_of_mem (hcwd : m.Grounded) (hdir : workDir.hasNul = false)
    (hextra : ∀ r ∈ extra, r.path.hasNul = false) (h : resolve? m workDir extra = some first)
    {mount : Mount} (hmount : mount ∈ first) : mount.path.hasNul = false := by
  obtain ⟨r, hr, q, hq, hpath⟩ := (exists_mount_iff h).1 ⟨mount, hmount, rfl⟩
  have hrequests : ∀ r ∈ requests workDir extra, r.path.hasNul = false :=
    List.forall_mem_cons.2 ⟨hdir, hextra⟩
  have hq := Machine.hasNul_canonical hcwd (hrequests r hr) hq
  rcases hpath with hpath | hpath
  · rwa [hpath]
  · rw [hpath]
    exact Path.hasNul_parent hq

section First

variable (hcwd : m.Grounded) (h : resolve? m workDir extra = some first)
include hcwd h

/-- What a request asks for, a mount of its canonical form asks for as well. -/
theorem exists_mount_of_asksFor {r : Mount} (hr : r ∈ requests workDir extra) (hasks : AsksFor m r p) :
    ∃ mount ∈ first, AsksFor m mount p ∧ (r.mode = .readWrite → mount.mode = .readWrite) := by
  obtain ⟨q, hq, hp⟩ := hasks
  have hself : AsksFor m r q := ⟨q, hq, .inl rfl⟩
  obtain ⟨mount, hmount, rfl⟩ := (exists_mount_iff h).2 ⟨r, hr, hself⟩
  exact ⟨mount, hmount, ⟨_, Machine.canonicalize_canonical hcwd hq, hp⟩,
    fun hmode => (readWrite_iff h hmount).2 ⟨r, hr, hmode, hself⟩⟩

theorem exists_mount_of_request {r : Mount} (hr : r ∈ requests workDir first) (hasks : AsksFor m r p) :
    ∃ mount ∈ first, AsksFor m mount p ∧ (r.mode = .readWrite → mount.mode = .readWrite) := by
  rcases List.mem_cons.1 hr with rfl | hr
  · exact exists_mount_of_asksFor hcwd h List.mem_cons_self hasks
  · exact ⟨r, hr, hasks, id⟩

theorem exists_mount_of_mem {mount : Mount} (hmount : mount ∈ first) :
    ∃ other ∈ first, AsksFor m other mount.path ∧ (mount.mode = .readWrite → other.mode = .readWrite) := by
  obtain ⟨r, hr, hasks⟩ := (exists_mount_iff h).1 ⟨mount, hmount, rfl⟩
  by_cases hmode : mount.mode = .readWrite
  · obtain ⟨r, hr, hwrites, hasks⟩ := (readWrite_iff h hmount).1 hmode
    obtain ⟨other, hother, hasks, hreadWrite⟩ := exists_mount_of_asksFor hcwd h hr hasks
    exact ⟨other, hother, hasks, fun _ => hreadWrite hwrites⟩
  · obtain ⟨other, hother, hasks, -⟩ := exists_mount_of_asksFor hcwd h hr hasks
    exact ⟨other, hother, hasks, fun h => absurd h hmode⟩

theorem canonicalize_of_label {mount : Mount} (hmount : mount ∈ first) (hl : mount.label = some l) :
    m.canonicalize? mount.path = some mount.path ∧ mount.shownLabel = some l := by
  obtain ⟨r, -, hr, hlabel⟩ := exists_of_label h hmount hl
  refine ⟨Machine.canonicalize_canonical hcwd hr, ?_⟩
  rw [shownLabel, Option.filter_eq_some_iff] at hlabel ⊢
  exact ⟨hl, hlabel.2⟩

end First

section Second

variable (hcwd : m.Grounded) (h : resolve? m workDir extra = some first)
  (h' : resolve? m workDir first = some second)
include hcwd h h'

theorem exists_second_iff :
    (∃ mount ∈ second, mount.path = p) ↔ ∃ mount ∈ first, AsksFor m mount p := by
  rw [exists_mount_iff h']
  constructor
  · rintro ⟨r, hr, hasks⟩
    obtain ⟨mount, hmount, hasks, -⟩ := exists_mount_of_request hcwd h hr hasks
    exact ⟨mount, hmount, hasks⟩
  · rintro ⟨mount, hmount, hasks⟩
    exact ⟨mount, List.mem_cons_of_mem _ hmount, hasks⟩

theorem readWrite_second_iff {mount : Mount} (hmount : mount ∈ second) : mount.mode = .readWrite ↔
    ∃ asking ∈ first, asking.mode = .readWrite ∧ AsksFor m asking mount.path := by
  rw [readWrite_iff h' hmount]
  constructor
  · rintro ⟨r, hr, hmode, hasks⟩
    obtain ⟨asking, hasking, hasks, hreadWrite⟩ := exists_mount_of_request hcwd h hr hasks
    exact ⟨asking, hasking, hreadWrite hmode, hasks⟩
  · rintro ⟨asking, hasking, hmode, hasks⟩
    exact ⟨asking, List.mem_cons_of_mem _ hasking, hmode, hasks⟩

theorem label_second {mount mount' : Mount} (hmount : mount ∈ first) (hmount' : mount' ∈ second)
    (hpath : mount'.path = mount.path) : mount'.label = mount.label := by
  have hback {l : String} (hl : mount'.label = some l) : mount.label = some l := by
    obtain ⟨r, hr, hcanonical, hlabel⟩ := exists_of_label h' hmount' hl
    have hr' : r.label = some l := (Option.filter_eq_some_iff.1 hlabel).1
    have hself := (canonicalize_of_label hcwd h hr hr').1
    rw [hself, hpath, Option.some.injEq] at hcanonical
    rwa [← eq_of_path_eq h hr hmount hcanonical]
  cases hl' : mount'.label with
  | some l => exact (hback hl').symm
  | none =>
      cases hl : mount.label with
      | none => rfl
      | some l =>
          obtain ⟨hself, hshown⟩ := canonicalize_of_label hcwd h hmount hl
          have hsome := (label_isSome_iff h' hmount').2 ⟨mount, hmount, by rw [hself, hpath], by simp [hshown]⟩
          simp [hl'] at hsome

theorem exists_kept {mount : Mount} (hmount : mount ∈ first) : ∃ mount' ∈ second,
    mount'.path = mount.path ∧ mount'.label = mount.label ∧
      (mount.mode = .readWrite → mount'.mode = .readWrite) := by
  obtain ⟨other, hother, hasks, hmode⟩ := exists_mount_of_mem hcwd h hmount
  obtain ⟨mount', hmount', hpath⟩ := (exists_second_iff hcwd h h').2 ⟨other, hother, hasks⟩
  refine ⟨mount', hmount', hpath, label_second hcwd h h' hmount hmount' hpath, fun hwrites => ?_⟩
  exact (readWrite_second_iff hcwd h h' hmount').2 ⟨other, hother, hmode hwrites, hpath ▸ hasks⟩

theorem mem_second_iff (hclosed : Closed m first) {mount : Mount} : mount ∈ second ↔ mount ∈ first := by
  have hkept {mount : Mount} (hmount : mount ∈ first) : mount ∈ second := by
    obtain ⟨mount', hmount', hpath, hlabel, hmode⟩ := exists_kept hcwd h h' hmount
    have hback : mount'.mode = .readWrite → mount.mode = .readWrite := by
      intro hwrites
      obtain ⟨asking, hasking, hasks⟩ := (readWrite_second_iff hcwd h h' hmount').1 hwrites
      obtain ⟨other, hother, hotherPath, hotherMode⟩ := hclosed asking hasking _ hasks.2
      rw [← eq_of_path_eq h hother hmount (hotherPath.trans hpath)]
      exact hotherMode hasks.1
    have heq : mount' = mount := by
      cases mount
      cases mount'
      simp only at hpath hlabel hmode hback
      rename_i mode _ _ mode' _
      cases mode <;> cases mode' <;> simp_all
    exact heq ▸ hmount'
  refine ⟨fun hmount => ?_, hkept⟩
  obtain ⟨asking, hasking, hasks⟩ := (exists_second_iff hcwd h h').1 ⟨mount, hmount, rfl⟩
  obtain ⟨other, hother, hpath, -⟩ := hclosed asking hasking _ hasks
  rwa [eq_of_path_eq h' hmount (hkept hother) hpath.symm]

theorem second_eq_iff : second = first ↔ Closed m first := by
  constructor
  · rintro rfl mount hmount p hasks
    obtain ⟨other, hother, rfl⟩ := (exists_second_iff hcwd h h').2 ⟨mount, hmount, hasks⟩
    exact ⟨other, hother, rfl, fun hmode =>
      (readWrite_second_iff hcwd h h' hother).2 ⟨mount, hmount, hmode, hasks⟩⟩
  · intro hclosed
    let before := fun a b : Mount => a.path.text < b.path.text
    have hirrefl : Std.Irrefl before := ⟨fun a => String.lt_irrefl _⟩
    have hantisymm : Std.Antisymm before :=
      ⟨fun a b hab hba => absurd (String.lt_trans hab hba) (String.lt_irrefl _)⟩
    have hsecond : second.Pairwise before := text_pairwise h'
    have hfirst : first.Pairwise before := text_pairwise h
    exact hsecond.eq_of_mem_iff hfirst fun mount => mem_second_iff hcwd h h' hclosed

end Second

end Mount

/-- Mounts resolve again, with the same working directory: each one is kept with its label, and stays open for
writing. What is mounted then, and what of it can be written, the first mounts ask for. So a second resolution
gives the first mounts back if they already hold what they ask for, and only then. -/
theorem resolved_again {m : Machine} (hfiles : m.files.NulFree) (hcwd : m.Grounded)
    {workDir : Path} (hdir : workDir.hasNul = false) {extra : List Mount}
    (hextra : ∀ r ∈ extra, r.path.hasNul = false) :
    ∃ first second, Mount.resolve? m workDir extra = some first ∧
      Mount.resolve? m workDir first = some second ∧
      (∀ mount ∈ first, ∃ mount' ∈ second, mount'.path = mount.path ∧ mount'.label = mount.label ∧
        (mount.mode = .readWrite → mount'.mode = .readWrite)) ∧
      (∀ p, (∃ mount ∈ second, mount.path = p) ↔ ∃ mount ∈ first, Mount.AsksFor m mount p) ∧
      (∀ mount ∈ second, mount.mode = .readWrite ↔
        ∃ asking ∈ first, asking.mode = .readWrite ∧ Mount.AsksFor m asking mount.path) ∧
      (second = first ↔ Mount.Closed m first) := by
  obtain ⟨first, hfirst⟩ := Mount.exists_resolved hfiles hdir hextra
  have hnul : ∀ r ∈ first, r.path.hasNul = false := fun r hr =>
    Mount.hasNul_of_mem hcwd hdir hextra hfirst hr
  obtain ⟨second, hsecond⟩ := Mount.exists_resolved hfiles hdir hnul
  exact ⟨first, second, hfirst, hsecond, fun mount => Mount.exists_kept hcwd hfirst hsecond,
    fun p => Mount.exists_second_iff hcwd hfirst hsecond,
    fun mount => Mount.readWrite_second_iff hcwd hfirst hsecond, Mount.second_eq_iff hcwd hfirst hsecond⟩

namespace Machine

theorem tangled_plain {s : String} (h : s ∈ ["/", "/data", "/a", "/a/b", "/a/b/c", "/a/b/c/d"]) :
    tangled.Plain (.ofString s) := by
  have hform : (Path.ofString s).root = .single ∧ ".." ∉ (Path.ofString s).parts ∧
      (Path.ofString s).hasNul = false := by
    revert s
    decide
  have hentries : ∀ place ∈ (Path.ofString s).parts.inits,
      tangled.files.entry? place = none ∨ tangled.files.entry? place = some .directory := by
    revert s
    decide
  refine ⟨hform.1, hform.2.1, hform.2.2, fun place target hplace => ?_⟩
  rcases hentries place ((List.mem_inits _ _).2 hplace) with hentry | hentry
  · simp [hentry]
  · simp [hentry]

theorem tangled_canonical {s : String} (h : s ∈ ["/", "/data", "/a", "/a/b", "/a/b/c", "/a/b/c/d"]) :
    tangled.canonicalize? (.ofString s) = some (.ofString s) :=
  canonicalize_of_plain (tangled_plain h)

end Machine

theorem resolved_again_shallow :
    Machine.tangled.files.NulFree ∧ Machine.tangled.Grounded ∧ (Path.ofString "/data").hasNul = false ∧
      ∃ mounts, Mount.resolve? .tangled (.ofString "/data") [] = some mounts ∧
        Mount.resolve? .tangled (.ofString "/data") mounts = some mounts := by
  have hdir : (Path.ofString "/data").hasNul = false := by decide
  have hextra : ∀ r ∈ ([] : List Mount), r.path.hasNul = false := by simp
  obtain ⟨first, second, hfirst, hsecond, -, -, -, hsame⟩ :=
    resolved_again Machine.tangled_nulFree Machine.tangled_grounded hdir hextra
  have hparents : (Path.ofString "/data").parent = .ofString "/" ∧
      (Path.ofString "/").parent = .ofString "/" := by decide
  have hasked : ∀ p, (∃ mount ∈ first, mount.path = p) ↔ p = .ofString "/data" ∨ p = .ofString "/" := by
    intro p
    rw [Mount.exists_mount_iff hfirst]
    simp [Mount.requests, Mount.AsksFor, Machine.tangled_canonical, hparents]
  have hmode {mount : Mount} (hmount : mount ∈ first) : mount.mode = .readWrite := by
    rw [Mount.readWrite_iff hfirst hmount]
    have hpath := (hasked _).1 ⟨mount, hmount, rfl⟩
    simpa [Mount.requests, Mount.AsksFor, Machine.tangled_canonical, hparents] using hpath
  have hclosed : Mount.Closed .tangled first := by
    intro mount hmount p hasks
    have hp : p = .ofString "/data" ∨ p = .ofString "/" := by
      rcases (hasked _).1 ⟨mount, hmount, rfl⟩ with hpath | hpath
      · simpa [Mount.AsksFor, hpath, Machine.tangled_canonical, hparents] using hasks
      · right
        simpa [Mount.AsksFor, hpath, Machine.tangled_canonical, hparents] using hasks
    obtain ⟨other, hother, hpath⟩ := (hasked p).2 hp
    exact ⟨other, hother, hpath, fun _ => hmode hother⟩
  exact ⟨Machine.tangled_nulFree, Machine.tangled_grounded, hdir, first, hfirst,
    hsame.2 hclosed ▸ hsecond⟩

/-- Further down it exposes the root, and opens what was mounted to be read only for writing. -/
theorem resolved_again_deep :
    ∃ first second,
      Mount.resolve? .tangled (.ofString "/a/b/c/d") [⟨.ofString "/a/b", .readOnly, none⟩] = some first ∧
      Mount.resolve? .tangled (.ofString "/a/b/c/d") first = some second ∧ second ≠ first ∧
      (¬∃ mount ∈ first, mount.path = .ofString "/") ∧ (∃ mount ∈ second, mount.path = .ofString "/") ∧
      (∀ mount ∈ first, mount.path = .ofString "/a/b" → mount.mode = .readOnly) ∧
      ∃ mount ∈ second, mount.path = .ofString "/a/b" ∧ mount.mode = .readWrite := by
  have hfiles := Machine.tangled_nulFree
  have hdir : (Path.ofString "/a/b/c/d").hasNul = false := by decide
  have hextra : ∀ r ∈ [(⟨.ofString "/a/b", .readOnly, none⟩ : Mount)], r.path.hasNul = false := by decide
  obtain ⟨first, hfirst⟩ := Mount.exists_resolved hfiles hdir hextra
  have hnul : ∀ r ∈ first, r.path.hasNul = false := fun r hr =>
    Mount.hasNul_of_mem Machine.tangled_grounded hdir hextra hfirst hr
  obtain ⟨second, hsecond⟩ := Mount.exists_resolved hfiles hdir hnul
  have hparents : (Path.ofString "/a/b/c/d").parent = .ofString "/a/b/c" ∧
      (Path.ofString "/a/b/c").parent = .ofString "/a/b" ∧ (Path.ofString "/a/b").parent = .ofString "/a" ∧
      (Path.ofString "/a").parent = .ofString "/" := by decide
  have hdistinct : Path.ofString "/" ∉ ["/a/b/c/d", "/a/b/c", "/a/b", "/a"].map Path.ofString ∧
      Path.ofString "/a/b" ∉ ["/a/b/c/d", "/a/b/c"].map Path.ofString := by decide
  simp only [List.map_cons, List.map_nil, List.mem_cons, List.not_mem_nil, or_false, not_or] at hdistinct
  have hfirstRoot : ¬∃ mount ∈ first, mount.path = .ofString "/" := by
    rw [Mount.exists_mount_iff hfirst]
    simp [Mount.requests, Mount.AsksFor, Machine.tangled_canonical, hparents, hdistinct]
  have hreadOnly : ∀ mount ∈ first, mount.path = .ofString "/a/b" → mount.mode = .readOnly := by
    intro mount hmount hpath
    have hmode : mount.mode ≠ .readWrite := by
      rw [ne_eq, Mount.readWrite_iff hfirst hmount]
      simp [Mount.requests, Mount.AsksFor, hpath, Machine.tangled_canonical, hparents, hdistinct]
    cases h : mount.mode with
    | readOnly => rfl
    | readWrite => exact absurd h hmode
  -- What the requests exposed is now requested, and asks for what is above it.
  have hsecondRoot : ∃ mount ∈ second, mount.path = .ofString "/" := by
    obtain ⟨mount, hmount, hpath⟩ : ∃ mount ∈ first, mount.path = .ofString "/a" := by
      rw [Mount.exists_mount_iff hfirst]
      simp [Mount.requests, Mount.AsksFor, Machine.tangled_canonical, hparents]
    refine (Mount.exists_second_iff Machine.tangled_grounded hfirst hsecond).2 ⟨mount, hmount, ?_⟩
    exact ⟨_, hpath ▸ Machine.tangled_canonical (by simp), .inr hparents.2.2.2.symm⟩
  obtain ⟨holder, hholder, hpath⟩ : ∃ mount ∈ first, mount.path = .ofString "/a/b/c" := by
    rw [Mount.exists_mount_iff hfirst]
    simp [Mount.requests, Mount.AsksFor, Machine.tangled_canonical, hparents]
  have hwrites : holder.mode = .readWrite := by
    rw [Mount.readWrite_iff hfirst hholder]
    simp [Mount.requests, Mount.AsksFor, hpath, Machine.tangled_canonical, hparents]
  have hasks : Mount.AsksFor .tangled holder (.ofString "/a/b") :=
    ⟨_, hpath ▸ Machine.tangled_canonical (by simp), .inr hparents.2.1.symm⟩
  obtain ⟨opened, hopened, hopenedPath⟩ :=
    (Mount.exists_second_iff Machine.tangled_grounded hfirst hsecond).2 ⟨holder, hholder, hasks⟩
  have hopenedMode : opened.mode = .readWrite :=
    (Mount.readWrite_second_iff Machine.tangled_grounded hfirst hsecond hopened).2
      ⟨holder, hholder, hwrites, hopenedPath ▸ hasks⟩
  refine ⟨first, second, hfirst, hsecond, ?_, hfirstRoot, hsecondRoot, hreadOnly, opened, hopened,
    hopenedPath, hopenedMode⟩
  rintro rfl
  exact hfirstRoot hsecondRoot

end Workcell
