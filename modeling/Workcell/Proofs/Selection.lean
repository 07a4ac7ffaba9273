import Workcell.Proofs.Container

namespace Workcell

/-- A container with an image is asked for, but the engine to run it has no name. -/
structure Settings.LacksEngine (s : Settings) : Prop where
  sandbox : s.sandbox = false
  container : s.container
  image : s.containerImage.getD "" ≠ ""
  engine : s.containerEngine = ""

namespace Configuration

variable {m : Machine} {s : Settings} {workDir : Path} {image : String}

theorem ofSettings_of_both (hsandbox : s.sandbox) (hcontainer : s.container) :
    ofSettings m s workDir = .error (.runner (.configuration bothChosen)) := by
  rw [ofSettings, if_pos ⟨hsandbox, hcontainer⟩]

theorem ofSettings_of_no_image (hsandbox : s.sandbox = false) (hcontainer : s.container)
    (himage : s.containerImage.getD "" = "") :
    ofSettings m s workDir = .error (.runner (.configuration noImage)) := by
  simp only [ofSettings, hsandbox, hcontainer, himage, Bool.false_eq_true, false_and, if_false, if_true,
    dif_pos]

theorem containerOf_of_engine (himage : image ≠ "") (hengine : s.containerEngine ≠ "") :
    containerOf s image himage = .valid ⟨image, s.containerNetwork, s.containerEngine, himage, hengine⟩ := by
  have hread : Schema.someText (.text s.containerEngine) = .valid ⟨s.containerEngine, hengine⟩ := by
    simp [Schema.someText, Schema.text, Schema.textual?, Checked.andThen, hengine]
  rw [containerOf, hread]
  rfl

theorem containerOf_of_no_engine (himage : image ≠ "") (hengine : s.containerEngine = "") :
    containerOf s image himage = .invalid [⟨.stringTooShort, [.name "engine"]⟩] := by
  rw [containerOf, hengine]
  rfl

theorem ofSettings_of_lacksEngine (h : s.LacksEngine) :
    ofSettings m s workDir = .error (.invalid [⟨.stringTooShort, [.name "engine"]⟩]) := by
  simp only [ofSettings, h.sandbox, h.container, Bool.false_eq_true, false_and, if_false, if_true,
    dif_neg h.image, containerOf_of_no_engine h.image h.engine]

theorem ofSettings_of_container (hsandbox : s.sandbox = false) (hcontainer : s.container)
    (himage : s.containerImage.getD "" ≠ "") (hengine : s.containerEngine ≠ "") {mounts : List Mount}
    (hmounts : Mount.resolve? m workDir (s.extraMounts.map MountSetting.toMount) = some mounts) :
    ofSettings m s workDir = .ok (containerWith
      ⟨s.containerImage.getD "", s.containerNetwork, s.containerEngine, himage, hengine⟩ mounts) := by
  simp only [ofSettings, hsandbox, hcontainer, Bool.false_eq_true, false_and, if_false, if_true,
    dif_neg himage, containerOf_of_engine himage hengine]
  exact inContainer_eq_ok_iff.2 ⟨mounts, hmounts, rfl⟩

theorem ofSettings_of_no_container (hcontainer : s.container = false) :
    ofSettings m s workDir = .ok (if s.sandbox then sandbox (policyOf s) else host) := by
  simp only [ofSettings, hcontainer, Bool.false_eq_true, and_false, if_false]
  split <;> rfl

end Configuration

/-- Settings for both kinds of isolation are refused, and those for a container without an image. All others
give the configuration of their kind, made of what they say and of the mounts resolved, except for those that
ask for a container by an engine without a name. They are found to be at fault only here. -/
theorem settings_choice {m : Machine} {s : Settings} {workDir : Path} (hfiles : m.files.NulFree)
    (hdir : workDir.hasNul = false) (hextra : ∀ e ∈ s.extraMounts, '\x00' ∉ e.path.toList) :
    let choice := Configuration.ofSettings m s workDir
    (s.sandbox → s.container → choice = .error (.runner (.configuration Configuration.bothChosen))) ∧
    (s.sandbox = false → s.container → s.containerImage.getD "" = "" →
      choice = .error (.runner (.configuration Configuration.noImage))) ∧
    (s.sandbox = false → s.container →
      ∀ (himage : s.containerImage.getD "" ≠ "") (hengine : s.containerEngine ≠ ""), ∃ mounts,
        Mount.resolve? m workDir (s.extraMounts.map MountSetting.toMount) = some mounts ∧
        choice = .ok (.containerWith
          ⟨s.containerImage.getD "", s.containerNetwork, s.containerEngine, himage, hengine⟩ mounts)) ∧
    (s.sandbox → s.container = false → choice = .ok (.sandbox ⟨s.sandboxNetwork,
      s.sandboxRead.map Path.ofString, s.sandboxReadExecute.map Path.ofString,
      s.sandboxReadWrite.map Path.ofString⟩)) ∧
    (s.sandbox = false → s.container = false → choice = .ok .host) ∧
    (s.LacksEngine → choice = .error (.invalid [⟨.stringTooShort, [.name "engine"]⟩])) ∧
    (((∃ c, choice = .ok c) ∨ ∃ detail, choice = .error (.runner (.configuration detail))) ↔
      ¬s.LacksEngine) := by
  intro choice
  obtain ⟨mounts, hmounts⟩ :
      ∃ mounts, Mount.resolve? m workDir (s.extraMounts.map MountSetting.toMount) = some mounts :=
    Mount.exists_resolved hfiles hdir (List.forall_mem_map.2 fun e he => Path.hasNul_ofString (hextra e he))
  have hother : s.container = false →
      choice = .ok (if s.sandbox then .sandbox (Configuration.policyOf s) else .host) :=
    Configuration.ofSettings_of_no_container
  have hlacks : s.LacksEngine → choice = .error (.invalid [⟨.stringTooShort, [.name "engine"]⟩]) :=
    Configuration.ofSettings_of_lacksEngine
  refine ⟨Configuration.ofSettings_of_both, Configuration.ofSettings_of_no_image,
    fun hsandbox hcontainer himage hengine => ⟨mounts, hmounts,
      Configuration.ofSettings_of_container hsandbox hcontainer himage hengine hmounts⟩,
    fun hsandbox hcontainer => ?_, fun hsandbox hcontainer => ?_, hlacks, fun h hl => ?_, fun hnot => ?_⟩
  · rw [hother hcontainer, if_pos hsandbox]
    rfl
  · rw [hother hcontainer, if_neg (by simp [hsandbox])]
  · rw [hlacks hl] at h
    simp at h
  · cases hcontainer : s.container with
    | false => exact .inl ⟨_, hother hcontainer⟩
    | true =>
        cases hsandbox : s.sandbox with
        | true => exact .inr ⟨_, Configuration.ofSettings_of_both hsandbox hcontainer⟩
        | false =>
            by_cases himage : s.containerImage.getD "" = ""
            · exact .inr ⟨_, Configuration.ofSettings_of_no_image hsandbox hcontainer himage⟩
            · have hengine : s.containerEngine ≠ "" := fun hengine =>
                hnot ⟨hsandbox, hcontainer, himage, hengine⟩
              exact .inl ⟨_, Configuration.ofSettings_of_container hsandbox hcontainer himage hengine hmounts⟩

theorem Machine.linked_nulFree : linked.files.NulFree := by
  have htarget : '\x00' ∉ "/data/real".toList := by decide
  refine Filesystem.nulFree_of_entries fun e he target hlink => ?_
  simp only [linked, List.mem_cons, List.not_mem_nil, or_false] at he
  rcases he with rfl | rfl | rfl | rfl <;> cases hlink
  exact htarget

def Settings.boxed : Settings :=
  { Settings.default with container := true, containerImage := some "ubuntu:24.04" }

theorem settings_choice_boxed :
    Machine.linked.files.NulFree ∧ (Path.ofString "/data/real").hasNul = false ∧
      (∀ e ∈ Settings.boxed.extraMounts, '\x00' ∉ e.path.toList) ∧
      Configuration.ofSettings .linked .boxed (.ofString "/data/real") =
        .ok (.containerWith .isolated Mount.linked) := by
  have hdir : (Path.ofString "/data/real").hasNul = false := by decide
  have hextra : ∀ e ∈ Settings.boxed.extraMounts, '\x00' ∉ e.path.toList := by decide
  obtain ⟨-, -, hbox, -⟩ := settings_choice Machine.linked_nulFree hdir hextra
  obtain ⟨mounts, hmounts, hchoice⟩ := hbox rfl rfl (by decide) (by decide)
  obtain rfl : Mount.linked = mounts :=
    Option.some.inj ((Machine.linked_mounts (.inl rfl)).symm.trans hmounts)
  exact ⟨Machine.linked_nulFree, hdir, hextra, hchoice⟩

/-- Settings that are accepted when they are read, and give neither a configuration nor a reason. -/
theorem engine_refused_late :
    Schema.settings (.mapping [(.text "container", .bool true),
      (.text "container_image", .text "ubuntu:24.04"), (.text "container_engine", .text "")]) =
        .valid { Settings.boxed with containerEngine := "" } ∧
    Configuration.ofSettings .linked { Settings.boxed with containerEngine := "" } (.ofString "/data/real") =
      .error (.invalid [⟨.stringTooShort, [.name "engine"]⟩]) :=
  ⟨by decide, Configuration.ofSettings_of_lacksEngine ⟨rfl, rfl, by decide, rfl⟩⟩

end Workcell
