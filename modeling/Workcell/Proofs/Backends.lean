import Workcell.Proofs.Pairs
import Workcell.Proofs.Preflight
import Workcell.Proofs.Run.Execute

namespace Workcell

namespace Invocation

variable (i : Invocation)

theorem get?_environment (k : String) :
    i.environment.get? k = (i.bindings.get? k).or (if k = "PWD" then some i.workDir.text else none) := by
  rw [environment, Pairs.get?_overlay, Pairs.get?_insert]
  rfl

theorem keys_environment : i.environment.keys = "PWD" :: i.bindings.keys.filter (· ≠ "PWD") := by
  have hfirst : (Pairs.empty.insert "PWD" i.workDir.text).keys = ["PWD"] := rfl
  rw [environment, Pairs.keys_overlay, hfirst]
  simp only [List.mem_singleton, List.singleton_append, ne_eq]

end Invocation

namespace Backend

variable {m : Machine} {i : Invocation} {b : Backend} {command : Command}

theorem exists_commandOf (h : (b.build m i).result = .ok command) :
    ∃ program arguments, command = commandOf program arguments i ∧ i.words <:+ program :: arguments := by
  cases b with
  | host =>
      have hcommand : commandOf i.program i.arguments i = command := Except.ok.inj h
      exact ⟨_, _, hcommand.symm, List.suffix_refl _⟩
  | sandbox description render =>
      simp only [build, buildSandbox] at h
      cases htool : m.findExecutable sandboxTool with
      | none => simp [htool] at h
      | some tool =>
          rw [htool] at h
          refine ⟨tool.text, render i.workDir ++ i.words, (Except.ok.inj h).symm, ?_⟩
          apply List.IsSuffix.trans (List.suffix_append _ _)
          apply List.suffix_cons
  | container c =>
      obtain ⟨-, -, -, -, rfl⟩ := buildContainer_eq_ok_iff.1 h
      refine ⟨c.engine, engineArguments m c i, rfl, ?_⟩
      apply List.IsSuffix.trans (List.suffix_append _ _)
      apply List.suffix_cons

end Backend

namespace Machine

variable (m : Machine) (c : Command)

theorem nodup_childOf_environment : ((m.childOf c).environment.map Prod.fst).Nodup :=
  (m.environ.overlay c.environment).keys_nodup

theorem mem_childOf_environment_iff (k : String) :
    k ∈ (m.childOf c).environment.map Prod.fst ↔ k ∈ m.environ.keys ∨ k ∈ c.environment.keys :=
  Pairs.mem_keys_overlay_iff

theorem lookup_childOf_environment (k : String) :
    (m.childOf c).environment.lookup k = (c.environment.get? k).or (m.environ.get? k) :=
  Pairs.get?_overlay ..

end Machine

/-- A command built of an invocation by any backend, on any machine, has the working directory and the bindings
of the invocation, `PWD` first, and ends with its words; a command of the host is made of these words alone. A
child is given each variable once: as its command binds it, and otherwise as the parent process has it. -/
theorem backends_interchangeable (i : Invocation) :
    (∀ (m : Machine) (b : Backend) (command : Command), (b.build m i).result = .ok command →
      command.cwd = i.workDir ∧ command.environment = i.environment ∧ i.words <:+ command.argv) ∧
    (∀ (m : Machine) (command : Command), (Backend.host.build m i).result = .ok command →
      command.argv = i.words) ∧
    (∀ k, i.environment.get? k =
      (i.bindings.get? k).or (if k = "PWD" then some i.workDir.text else none)) ∧
    i.environment.keys = "PWD" :: i.bindings.keys.filter (· ≠ "PWD") ∧
    ∀ (m : Machine) (command : Command) (workDir : Path) (redactions : Pairs) (timeout : Option Number)
      (script : Script), ∀ child ∈ (execute m command workDir redactions timeout script).1.spawned,
        (child.environment.map Prod.fst).Nodup ∧
        (∀ k, k ∈ child.environment.map Prod.fst ↔ k ∈ m.environ.keys ∨ k ∈ command.environment.keys) ∧
        ∀ k, child.environment.lookup k = (command.environment.get? k).or (m.environ.get? k) := by
  refine ⟨?_, ?_, i.get?_environment, i.keys_environment, ?_⟩
  · intro m b command h
    obtain ⟨program, arguments, rfl, hwords⟩ := Backend.exists_commandOf h
    exact ⟨rfl, rfl, hwords⟩
  · intro m command h
    obtain rfl : Backend.commandOf i.program i.arguments i = command := Except.ok.inj h
    rfl
  · intro m command workDir redactions timeout script child hchild
    obtain rfl : child = m.childOf command := eq_childOf_of_mem_spawned _ _ _ _ hchild
    exact ⟨m.nodup_childOf_environment command, m.mem_childOf_environment_iff command,
      m.lookup_childOf_environment command⟩

def Invocation.shadowing : Invocation :=
  ⟨"make", ["all"], .ofString "/data/real", .ofList [("CC", "gcc"), ("PWD", "/elsewhere")], []⟩

theorem backends_interchangeable_shadowing :
    ∃ command, (Backend.build .linked .shadowing (.container .isolated)).result = .ok command ∧
      command.cwd = .ofString "/data/real" ∧ ["make", "all"] <:+ command.argv ∧
      command.environment.keys = ["PWD", "CC"] ∧ command.environment.get? "PWD" = some "/elsewhere" := by
  have hready : Backend.Ready .linked .isolated := Backend.ready_linked _ rfl
  have hplain : ∀ x ∈ Display.Inset.all .isolated [], '[' ∉ x.text.toList := by decide
  have hbuilt := hready.result_of_tagless (i := .shadowing) fun x hx =>
    Display.tagless_of_not_mem (hplain x hx)
  obtain ⟨hcommand, -, hget, hkeys, -⟩ := backends_interchangeable .shadowing
  obtain ⟨hcwd, henv, hwords⟩ := hcommand .linked (.container .isolated) _ hbuilt
  refine ⟨_, hbuilt, hcwd, hwords, ?_, ?_⟩
  · rw [henv, hkeys]
    decide
  · rw [henv, hget]
    decide

end Workcell
