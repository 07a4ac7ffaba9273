import Mathlib.Tactic.ByContra
import Mathlib.Tactic.SplitIfs
import Workcell.Display.Environment
import Workcell.Session

namespace Workcell

/-- Each part of a draft goes with its kind. A container configuration is asked for by one kind, and not
refused by the others. -/
structure Draft.Fits (d : Draft) : Prop where
  serves : d.kind = .sandbox → d.policy.any PolicyOffer.serves
  policy : d.policy.isSome → d.kind = .sandbox
  hostConfig : d.hostConfig → d.kind = .host
  container : d.kind = .container → d.container.isSome
  mounts : d.mounts ≠ [] → d.kind = .container

theorem Draft.inconsistency_eq_none_iff {d : Draft} : d.inconsistency? = none ↔ d.Fits := by
  constructor
  · intro h
    simp only [inconsistency?] at h
    split_ifs at h with hserves hpolicy hhost hcontainer hmounts
    constructor
    · intro hkind
      by_contra hnot
      exact hserves ⟨hkind, by simpa using hnot⟩
    · intro hsome
      by_contra hkind
      exact hpolicy ⟨hkind, hsome⟩
    · intro hgiven
      by_contra hkind
      exact hhost ⟨hkind, hgiven⟩
    · intro hkind
      by_contra hnone
      exact hcontainer ⟨hkind, by simpa using hnone⟩
    · intro hne
      by_contra hkind
      exact hmounts ⟨hkind, hne⟩
  · rintro ⟨hserves, hpolicy, hhost, hcontainer, hmounts⟩
    rw [inconsistency?, if_neg, if_neg, if_neg, if_neg, if_neg]
    · rintro ⟨hkind, hne⟩
      exact hkind (hmounts hne)
    · rintro ⟨hkind, hnone⟩
      simp [Option.isNone_iff_eq_none.1 hnone] at hcontainer
      exact hcontainer hkind
    · rintro ⟨hkind, hgiven⟩
      exact hkind (hhost hgiven)
    · rintro ⟨hkind, hsome⟩
      exact hkind (hpolicy hsome)
    · rintro ⟨hkind, hnot⟩
      simp [hserves hkind] at hnot

def Prepared.table (p : Prepared) : Display.Table :=
  match p.backend with
  | .host => Display.runnerTable .host none
  | .sandbox description _ => Display.runnerTable .sandbox (some (.custom description none))
  | .container c => Display.containerTable c p.mounts

namespace Configuration

variable (c : Configuration)

theorem fits : c.toDraft.Fits := Draft.inconsistency_eq_none_iff.1 c.consistent

theorem ofDraft_eq_valid_iff {d : Draft} {c : Configuration} :
    ofDraft d = .valid c ↔ c.toDraft = d := by
  obtain ⟨d', h'⟩ := c
  constructor
  · intro h
    unfold ofDraft at h
    split at h
    · cases h; rfl
    · cases h
  · rintro rfl
    unfold ofDraft
    split
    · rfl
    · rename_i hsome
      rw [h'] at hsome
      cases hsome

variable {c}

theorem table_of_host (hkind : c.kind = .host) : c.prepare.table = Display.runnerTable .host none := by
  simp [prepare, Prepared.table, backend, hkind]

theorem exists_policy (hkind : c.kind = .sandbox) :
    ∃ offer render, c.policy = some offer ∧ offer.render? = some render := by
  obtain ⟨offer, hpolicy, hserves⟩ := (Option.any_eq_true _ _).1 (c.fits.serves hkind)
  obtain ⟨render, hrender⟩ := Option.isSome_iff_exists.1 hserves
  exact ⟨offer, render, hpolicy, hrender⟩

theorem table_of_sandbox (hkind : c.kind = .sandbox) :
    ∃ offer, c.policy = some offer ∧ c.prepare.table = Display.runnerTable .sandbox (some offer) := by
  obtain ⟨offer, render, hpolicy, hrender⟩ := exists_policy hkind
  refine ⟨offer, hpolicy, ?_⟩
  simp [prepare, Prepared.table, backend, hkind, hpolicy, hrender, Display.runnerTable,
    PolicyOffer.description]

theorem table_of_container {box : Container} (hkind : c.kind = .container)
    (hcontainer : c.container = some box) :
    c.prepare.table = Display.containerTable box c.mounts := by
  simp [prepare, Prepared.table, backend, hkind, hcontainer]

theorem policy_isSome_iff : c.policy.isSome ↔ c.kind = .sandbox := by
  refine ⟨c.fits.policy, fun hkind => ?_⟩
  obtain ⟨offer, -, hpolicy, -⟩ := exists_policy hkind
  rw [hpolicy]
  rfl

theorem configurationTable_of_no_container (hcontainer : c.container = none) :
    Display.configurationTable c = c.prepare.table := by
  simp only [Display.configurationTable, hcontainer]
  cases hkind : c.kind with
  | host =>
      have hpolicy : c.policy = none := by
        rw [← Option.not_isSome_iff_eq_none, policy_isSome_iff, hkind]
        simp
      rw [table_of_host hkind, hpolicy]
  | sandbox =>
      obtain ⟨offer, hpolicy, htable⟩ := table_of_sandbox hkind
      rw [htable, hpolicy]
  | container =>
      simpa [hcontainer] using c.fits.container hkind

theorem table_congr {c' : Configuration} (hkind : c'.kind = c.kind) (hpolicy : c'.policy = c.policy)
    (hne : c.kind ≠ .container) : c'.prepare.table = c.prepare.table := by
  cases h : c.kind with
  | host => rw [table_of_host h, table_of_host (hkind.trans h)]
  | sandbox =>
      obtain ⟨offer, hoffer, htable⟩ := table_of_sandbox h
      obtain ⟨offer', hoffer', htable'⟩ := table_of_sandbox (hkind.trans h)
      have hsame : offer' = offer := Option.some.inj (hoffer'.symm.trans (hpolicy.trans hoffer))
      rw [htable, htable', hsame]
  | container => exact absurd h hne

theorem title_of_not_container (hkind : c.kind ≠ .container) :
    c.prepare.table.title = "Build Environment" := by
  cases h : c.kind with
  | host => rw [table_of_host h]; rfl
  | sandbox =>
      obtain ⟨offer, -, htable⟩ := table_of_sandbox h
      rw [htable]
      rfl
  | container => exact absurd h hkind

theorem configurationTable_eq_iff :
    Display.configurationTable c = c.prepare.table ↔ (c.container.isSome → c.kind = .container) := by
  cases hcontainer : c.container with
  | none => simpa using configurationTable_of_no_container hcontainer
  | some box =>
      have hshown : Display.configurationTable c = Display.containerTable box c.mounts := by
        simp only [Display.configurationTable, hcontainer]
      rw [hshown]
      constructor
      · intro heq _
        by_contra hkind
        have htitle := title_of_not_container hkind
        rw [← heq] at htitle
        simp [Display.containerTable] at htitle
      · intro hkind
        rw [table_of_container (hkind rfl) hcontainer]

theorem inContainer_eq_ok_iff {m : Machine} {box : Container} {workDir : Path} {extra : List Mount} :
    inContainer m box workDir extra = .ok c ↔
      ∃ mounts, Mount.resolve? m workDir extra = some mounts ∧ containerWith box mounts = c := by
  simp only [inContainer]
  cases Mount.resolve? m workDir extra <;> simp

theorem kind_of_ofSettings {m : Machine} {s : Settings} {workDir : Path}
    (h : ofSettings m s workDir = .ok c) : c.container.isSome → c.kind = .container := by
  intro hcontainer
  simp only [ofSettings] at h
  split_ifs at h with hboth hbox himage hsandbox
  · cases hread : containerOf s (s.containerImage.getD "") himage with
    | invalid ps => simp [hread] at h
    | valid box =>
        simp only [hread, inContainer_eq_ok_iff] at h
        obtain ⟨mounts, -, rfl⟩ := h
        rfl
  · cases h
    simp [sandbox] at hcontainer
  · cases h
    simp [host] at hcontainer

end Configuration

/-- The parts of a configuration and the environments it stands for. All parts but the container
configuration occur with their own kind only; the table that is shown is that of the backend unless there is
a container configuration beside another kind, and each configuration of another kind can be given one.
Settings never choose one like that. -/
theorem configuration_tagged (c : Configuration) :
    (c.policy.isSome ↔ c.kind = .sandbox) ∧ (c.kind = .container → c.container.isSome) ∧
    (c.hostConfig → c.kind = .host) ∧ (c.mounts ≠ [] → c.kind = .container) ∧
    (Display.configurationTable c = c.prepare.table ↔ (c.container.isSome → c.kind = .container)) ∧
    (c.kind ≠ .container → ∀ stray : Container, ∃ c' : Configuration,
      Configuration.ofDraft { c.toDraft with container := some stray } = .valid c' ∧
      c'.prepare.table = c.prepare.table ∧ Display.configurationTable c' ≠ c'.prepare.table) ∧
    ∀ (m : Machine) (s : Settings) (workDir : Path), Configuration.ofSettings m s workDir = .ok c →
      Display.configurationTable c = c.prepare.table := by
  refine ⟨Configuration.policy_isSome_iff, c.fits.container, c.fits.hostConfig, c.fits.mounts,
    Configuration.configurationTable_eq_iff, fun hkind stray => ?_, fun m s workDir h =>
    Configuration.configurationTable_eq_iff.2 (Configuration.kind_of_ofSettings h)⟩
  have hfits : Draft.Fits { c.toDraft with container := some stray } :=
    ⟨c.fits.serves, c.fits.policy, c.fits.hostConfig, fun _ => rfl, c.fits.mounts⟩
  refine ⟨⟨_, Draft.inconsistency_eq_none_iff.2 hfits⟩, Configuration.ofDraft_eq_valid_iff.2 rfl, ?_, ?_⟩
  · exact Configuration.table_congr (c := c) rfl rfl hkind
  · rw [Ne, Configuration.configurationTable_eq_iff]
    exact fun h => hkind (h rfl)

def Container.isolated : Container := ⟨"ubuntu:24.04", false, defaultEngine, by decide, defaultEngine_ne⟩

def Draft.strayContainer : Draft := ⟨.host, false, none, some .isolated, []⟩

theorem stray_container_shown :
    ∃ c : Configuration, Configuration.ofDraft .strayContainer = .valid c ∧ c.container.isSome ∧
      c.kind ≠ .container ∧ c.prepare.table = Display.runnerTable .host none ∧
      (Display.configurationTable c).title = "Container Build Environment" ∧
      Display.configurationTable c ≠ c.prepare.table := by
  have hconsistent : Draft.strayContainer.inconsistency? = none := by decide
  have hkind : Draft.strayContainer.kind ≠ .container := by decide
  refine ⟨⟨_, hconsistent⟩, Configuration.ofDraft_eq_valid_iff.2 rfl, rfl, hkind, rfl, rfl, ?_⟩
  rw [Ne, Configuration.configurationTable_eq_iff]
  exact fun h => hkind (h rfl)

end Workcell
