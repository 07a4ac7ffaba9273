import Mathlib.Data.List.Infix
import Workcell.Proofs.Canonical
import Workcell.Proofs.Configuration
import Workcell.Proofs.Filesystem
import Workcell.Proofs.Machine
import Workcell.Proofs.Mount

namespace Workcell

structure EngineOptions where
  mounts : List String
  workDir : Option String

namespace EngineOptions

/-- Reads the options in front of the image. The working directory is the last of them. -/
def read : List String → EngineOptions
  | "-v" :: mount :: r => { read r with mounts := mount :: (read r).mounts }
  | "-w" :: directory :: _ => ⟨[], some directory⟩
  | "--user" :: _ :: r => read r
  | _ :: r => read r
  | [] => ⟨[], none⟩

/-- A directory is mounted under its own name, for reading and writing. -/
def Exposes (o : EngineOptions) (directory : String) : Prop := s!"{directory}:{directory}" ∈ o.mounts

end EngineOptions

namespace Backend

variable {m : Machine} {c : Container} {i : Invocation}

theorem read_mounts (mounts : List Mount) (r : List String) :
    EngineOptions.read (mounts.flatMap (fun mount => ["-v", mountOption mount]) ++ r) =
      { EngineOptions.read r with
        mounts := mounts.map mountOption ++ (EngineOptions.read r).mounts } := by
  induction mounts with
  | nil => rfl
  | cons mount rest ih =>
      simp only [List.flatMap_cons, List.cons_append, List.nil_append, EngineOptions.read, ih,
        List.map_cons]

theorem read_engineArguments :
    EngineOptions.read (engineArguments m c i) = ⟨i.mounts.map mountOption, some i.workDir.text⟩ := by
  have hend : EngineOptions.read (["-w", i.workDir.text, c.image] ++ i.words) =
      ⟨[], some i.workDir.text⟩ := by
    simp [EngineOptions.read]
  have hmounts := read_mounts i.mounts (["-w", i.workDir.text, c.image] ++ i.words)
  rw [hend, List.append_nil] at hmounts
  have hnetwork : ∀ r, EngineOptions.read ((if c.network then [] else ["--network=none"]) ++ r) =
      EngineOptions.read r := by
    intro r
    cases c.network <;> simp [EngineOptions.read]
  have huser : ∀ r, EngineOptions.read
      ((if m.posix then ["--user", s!"{m.user}:{m.group}"] else []) ++ r) = EngineOptions.read r := by
    intro r
    cases m.posix <;> simp [EngineOptions.read]
  calc EngineOptions.read (engineArguments m c i)
      = EngineOptions.read (i.mounts.flatMap (fun mount => ["-v", mountOption mount]) ++
          (["-w", i.workDir.text, c.image] ++ i.words)) := by
        simp only [engineArguments, List.append_assoc]
        rw [show ∀ r, EngineOptions.read (["run", "--rm"] ++ r) = EngineOptions.read r from
          fun r => by simp [EngineOptions.read], huser, hnetwork]
    _ = ⟨i.mounts.map mountOption, some i.workDir.text⟩ := hmounts

theorem mountOption_eq_iff {mount : Mount} {d : String} :
    mountOption mount = s!"{d}:{d}" ↔ mount.path.text = d ∧ mount.mode = .readWrite := by
  constructor
  · intro h
    have hchars := congrArg String.toList h
    cases hmode : mount.mode with
    | readOnly =>
        -- a mount for reading is written with an even number of characters, the other side with an odd one
        have hlength := congrArg List.length hchars
        simp [mountOption, hmode, toString] at hlength
        omega
    | readWrite =>
        have hhalves : mount.path.text.toList ++ ':' :: mount.path.text.toList =
            d.toList ++ ':' :: d.toList := by
          simpa [mountOption, hmode, toString] using hchars
        have hlength := congrArg List.length hhalves
        simp only [List.length_append, List.length_cons] at hlength
        exact ⟨String.toList_inj.1 (List.append_inj_left hhalves (by omega)), rfl⟩
  · rintro ⟨rfl, hmode⟩
    simp only [mountOption, hmode]

theorem buildContainer_eq_ok_iff {command : Command} :
    (buildContainer m c i).result = .ok command ↔
      m.windows = false ∧ (m.findExecutable c.engine).isSome ∧
      engineComplaint? c.engine m.engineCheck = none ∧
      (∃ lines, (Display.containerTable c i.mounts).lines m.console.forLog = .ok lines) ∧
      commandOf c.engine (engineArguments m c i) i = command := by
  simp only [buildContainer]
  cases hwindows : m.windows with
  | true => simp
  | false =>
      cases htool : m.findExecutable c.engine with
      | none => simp
      | some tool =>
          cases hcheck : engineComplaint? c.engine m.engineCheck with
          | some complaint => simp
          | none =>
              cases (Display.containerTable c i.mounts).lines m.console.forLog <;> simp

end Backend

namespace Configuration

variable {m : Machine} {c : Container} {mounts : List Mount} {words : List String} {workDir : Path}
  {bindings : Pairs} {command : Command}

theorem build_containerWith
    (h : ((containerWith c mounts).prepare.build m words workDir bindings).result = .ok command) :
    ∃ program arguments, words = program :: arguments ∧
      Backend.commandOf c.engine (Backend.engineArguments m c ⟨program, arguments, workDir, bindings, mounts⟩)
        ⟨program, arguments, workDir, bindings, mounts⟩ = command := by
  cases words with
  | nil => simp [Prepared.build] at h
  | cons program arguments =>
      obtain ⟨-, -, -, -, hcommand⟩ := Backend.buildContainer_eq_ok_iff.1 h
      exact ⟨program, arguments, rfl, hcommand⟩

theorem read_of_build_containerWith
    (h : ((containerWith c mounts).prepare.build m words workDir bindings).result = .ok command) :
    EngineOptions.read command.arguments = ⟨mounts.map Backend.mountOption, some workDir.text⟩ := by
  obtain ⟨program, arguments, -, rfl⟩ := build_containerWith h
  exact Backend.read_engineArguments

theorem exposes_iff {extra : List Mount} (h : Mount.resolve? m workDir extra = some mounts)
    {o : EngineOptions} (ho : o.mounts = mounts.map Backend.mountOption) {d : String} :
    o.Exposes d ↔ ∃ r ∈ Mount.requests workDir extra, r.mode = .readWrite ∧
      ∃ q, m.canonicalize? r.path = some q ∧ (q.text = d ∨ q.parent.text = d) := by
  simp only [EngineOptions.Exposes, ho, List.mem_map, Backend.mountOption_eq_iff]
  constructor
  · rintro ⟨mount, hmount, rfl, hmode⟩
    obtain ⟨r, hr, hwrites, q, hq, hexposed⟩ :=
      (Mount.exists_readWrite_iff h).1 ⟨mount, hmount, rfl, hmode⟩
    refine ⟨r, hr, hwrites, q, hq, ?_⟩
    exact hexposed.imp (fun h => by rw [h]) (fun h => by rw [h])
  · rintro ⟨r, hr, hwrites, q, hq, hexposed⟩
    obtain ⟨p, hp, htext⟩ : ∃ p, (p = q ∨ p = q.parent) ∧ p.text = d := by
      rcases hexposed with h | h
      · exact ⟨q, .inl rfl, h⟩
      · exact ⟨q.parent, .inr rfl, h⟩
    obtain ⟨mount, hmount, rfl, hmode⟩ :=
      (Mount.exists_readWrite_iff h).2 ⟨r, hr, hwrites, q, hq, hp⟩
    exact ⟨mount, hmount, htext, hmode⟩

end Configuration

/-- The engine is told to start a command in its working directory as it is written, and gets the canonical
form of it mounted. So the directory that it starts in is mounted if a request for writing exposes it, and
always if it is written without links and `..`. -/
theorem workDir_exposed {m : Machine} {c : Container} {workDir : Path} {extra : List Mount}
    {cfg : Configuration} (hcfg : Configuration.inContainer m c workDir extra = .ok cfg)
    {words : List String} {bindings : Pairs} {command : Command}
    (hbuilt : (cfg.prepare.build m words workDir bindings).result = .ok command) :
    let o := EngineOptions.read command.arguments
    o.workDir = some workDir.text ∧
    (∃ q, m.canonicalize? workDir = some q ∧ o.Exposes q.text) ∧
    (o.Exposes workDir.text ↔ ∃ r ∈ Mount.requests workDir extra, r.mode = .readWrite ∧
      ∃ q, m.canonicalize? r.path = some q ∧ (q.text = workDir.text ∨ q.parent.text = workDir.text)) ∧
    (m.Plain workDir → o.Exposes workDir.text) := by
  intro o
  obtain ⟨mounts, hmounts, rfl⟩ := Configuration.inContainer_eq_ok_iff.1 hcfg
  have ho := Configuration.read_of_build_containerWith hbuilt
  have hexposes : ∀ d, o.Exposes d ↔ _ := fun d =>
    Configuration.exposes_iff hmounts (congrArg EngineOptions.mounts ho)
  have hfirst : (⟨workDir, .readWrite, none⟩ : Mount) ∈ Mount.requests workDir extra := List.mem_cons_self
  obtain ⟨q, hq⟩ := Mount.exists_canonical_workDir hmounts
  have hcanonical : o.Exposes q.text := (hexposes _).2 ⟨_, hfirst, rfl, q, hq, .inl rfl⟩
  refine ⟨congrArg EngineOptions.workDir ho, ⟨q, hq, hcanonical⟩, hexposes _, fun hplain => ?_⟩
  exact (hexposes _).2 ⟨_, hfirst, rfl, workDir, Machine.canonicalize_of_plain hplain, .inl rfl⟩

def Machine.linked : Machine := { Machine.bare with
  files := ⟨[(["data"], .directory), (["data", "real"], .directory), (["link"], .link "/data/real"),
    (["docker"], .file [] true)]⟩
  environ := .ofList [("PATH", "/")]
  user := 1000
  group := 1000
  engineCheck := .exits 0 [] [] }

def Mount.linked : List Mount :=
  [⟨.ofString "/data", .readWrite, none⟩, ⟨.ofString "/data/real", .readWrite, none⟩]

namespace Machine

theorem linked_entries : linked.files.entry? [] = some .directory ∧
    linked.files.entry? ["data"] = some .directory ∧ linked.files.entry? ["data", "real"] = some .directory ∧
    linked.files.entry? ["link"] = some (.link "/data/real") ∧
    linked.files.entry? ["docker"] = some (.file [] true) := by
  decide

theorem linked_names : (Path.ofString "/data/real").parts = ["data", "real"] ∧
    (Path.ofString "/link").parts = ["link"] ∧ componentsOf "/data/real" = ["data", "real"] ∧
    (Path.ofString "/data/real").isAbsolute = true ∧ (Path.ofString "/link").isAbsolute = true := by
  decide

theorem linked_lengths : ¬longestName < "data".utf8ByteSize ∧ ¬longestName < "real".utf8ByteSize ∧
    ¬longestName < "link".utf8ByteSize ∧ '\x00' ∉ "data".toList ∧ '\x00' ∉ "real".toList ∧
    '\x00' ∉ "link".toList := by
  decide

theorem linked_link_leads :
    linked.files.lookup linked.base (.ofString "/link") = .ok (["data", "real"], .directory) := by
  have hwalk : linked.files.walk (39 + 1) [] ["link"] = .ok ["data", "real"] := by
    simp [Filesystem.walk, linked_entries, linked_names, linked_lengths]
  rw [Filesystem.lookup, Filesystem.locate, linked_names.2.1, linked_names.2.2.2.2, if_pos rfl,
    show linkBudget = 39 + 1 from rfl, hwalk]
  simp only [linked_entries]

theorem linked_canonical {d : String} (hd : d = "/data/real" ∨ d = "/link") :
    linked.canonicalize? (.ofString d) = some (.ofString "/data/real") := by
  have hresolve : linked.resolve (.ofString d) = .ok ["data", "real"] := by
    rcases hd with rfl | rfl
    · simp [Machine.resolve, Filesystem.resolve, linked_entries, linked_names, linked_lengths]
    · rw [Machine.resolve, show linked.files.entries.length = 3 + 1 from rfl]
      simp [Filesystem.resolve, linked_entries, linked_names, linked_lengths]
  have hpath : Path.ofParts ["data", "real"] (by decide) = Path.ofString "/data/real" := by decide
  rw [canonicalize_of_resolve hresolve]
  exact congrArg some hpath

theorem linked_mounts {d : String} (hd : d = "/data/real" ∨ d = "/link") :
    Mount.resolve? linked (.ofString d) [] = some Mount.linked := by
  have hgathered : Mount.gather [⟨.ofString "/data/real", .readWrite, none⟩] =
      ⟨[(.ofString "/data/real", .readWrite), (.ofString "/data", .readWrite)], []⟩ := by decide
  have hbefore : Path.before (.ofString "/data/real") (.ofString "/data") = false := by decide
  have hcombine : Mount.combine [⟨.ofString "/data/real", .readWrite, none⟩] = Mount.linked := by
    simp [Mount.combine, hgathered, List.mergeSort, List.MergeSort.Internal.splitInTwo, hbefore,
      Mount.linked]
  simp [Mount.resolve?, Mount.canonical?, Mount.requests, linked_canonical hd, hcombine]

theorem linked_engine : (linked.findExecutable defaultEngine).isSome := by
  have hrun : linked.isExecutable "/docker" = true :=
    isExecutable_of_entry (by decide) rfl (by decide) (by decide +kernel) (by decide) linked_entries.2.2.2.2
  rw [findExecutable_of_candidates (by decide) (show linked.environ.get? "PATH" = some "/" by decide)
    (by decide) (by decide) hrun]
  rfl

theorem linked_builds {d : String} (hd : d = "/data/real" ∨ d = "/link") :
    ∃ cfg command, Configuration.inContainer linked .isolated (.ofString d) [] = .ok cfg ∧
      (cfg.prepare.build linked ["make"] (.ofString d) .empty).result = .ok command := by
  have htable : ∃ lines, (Display.containerTable .isolated Mount.linked).lines linked.console.forLog =
      .ok lines := by
    have hshown :
        ((Display.containerTable .isolated Mount.linked).lines linked.console.forLog).toOption.isSome := by
      decide +kernel
    generalize (Display.containerTable .isolated Mount.linked).lines linked.console.forLog = shown at hshown
    cases shown with
    | error e => cases hshown
    | ok lines => exact ⟨lines, rfl⟩
  exact ⟨_, _, Configuration.inContainer_eq_ok_iff.2 ⟨_, linked_mounts hd, rfl⟩,
    Backend.buildContainer_eq_ok_iff.2 ⟨rfl, linked_engine, by decide, htable, rfl⟩⟩

theorem linked_plain : linked.Plain (.ofString "/data/real") := by
  refine ⟨by decide, by decide, by decide, fun place target hplace => ?_⟩
  rw [linked_names.1, ← List.mem_inits] at hplace
  simp only [List.inits, List.map_cons, List.map_nil, List.mem_cons, List.not_mem_nil, or_false] at hplace
  rcases hplace with rfl | rfl | rfl
  · simp [linked_entries]
  · simp [linked_entries]
  · simp [linked_entries]

end Machine

theorem workDir_exposed_linked :
    Machine.linked.Plain (.ofString "/data/real") ∧
      ∃ cfg command, Configuration.inContainer .linked .isolated (.ofString "/data/real") [] = .ok cfg ∧
        (cfg.prepare.build .linked ["make"] (.ofString "/data/real") .empty).result = .ok command ∧
        (EngineOptions.read command.arguments).workDir = some "/data/real" ∧
        (EngineOptions.read command.arguments).Exposes "/data/real" := by
  obtain ⟨cfg, command, hcfg, hbuilt⟩ := Machine.linked_builds (.inl rfl)
  obtain ⟨hdirectory, -, -, hplain⟩ := workDir_exposed hcfg hbuilt
  have htext : (Path.ofString "/data/real").text = "/data/real" := by decide
  rw [htext] at hdirectory hplain
  exact ⟨Machine.linked_plain, cfg, command, hcfg, hbuilt, hdirectory, hplain Machine.linked_plain⟩

/-- A command that is started in a directory that its container does not see. -/
theorem link_not_exposed :
    Machine.linked.files.lookup Machine.linked.base (.ofString "/link") = .ok (["data", "real"], .directory) ∧
      ∃ cfg command, Configuration.inContainer .linked .isolated (.ofString "/link") [] = .ok cfg ∧
        (cfg.prepare.build .linked ["make"] (.ofString "/link") .empty).result = .ok command ∧
        EngineOptions.read command.arguments =
          ⟨["/data:/data", "/data/real:/data/real"], some "/link"⟩ ∧
        ¬(EngineOptions.read command.arguments).Exposes "/link" := by
  obtain ⟨cfg, command, hcfg, hbuilt⟩ := Machine.linked_builds (.inr rfl)
  obtain ⟨mounts, hmounts, rfl⟩ := Configuration.inContainer_eq_ok_iff.1 hcfg
  have hread : EngineOptions.read command.arguments =
      ⟨["/data:/data", "/data/real:/data/real"], some "/link"⟩ := by
    have htexts : Mount.linked.map Backend.mountOption = ["/data:/data", "/data/real:/data/real"] := by decide
    have hdirectory : (Path.ofString "/link").text = "/link" := by decide
    obtain rfl : Mount.linked = mounts :=
      Option.some.inj ((Machine.linked_mounts (.inr rfl)).symm.trans hmounts)
    rw [Configuration.read_of_build_containerWith hbuilt, htexts, hdirectory]
  refine ⟨Machine.linked_link_leads, _, command, hcfg, hbuilt, hread, ?_⟩
  rw [hread]
  simp only [EngineOptions.Exposes]
  decide

end Workcell
