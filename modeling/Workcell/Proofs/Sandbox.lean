import Workcell.Proofs.Machine
import Workcell.Proofs.Policy
import Workcell.Proofs.Session

namespace Workcell

namespace LauncherArguments

variable {words command : List String} {grants : List (Access × Path)} {p : Policy}

theorem length_of_readGrants (h : readGrants words = some (grants, command)) :
    words.length = 2 * grants.length + command.length := by
  fun_induction readGrants words generalizing grants with
  | case1 =>
      cases h
      rfl
  | case2 word hnone =>
      cases h
      rfl
  | case3 word a hsome => cases h
  | case4 word path r hnone =>
      cases h
      simp
  | case5 word path r a hsome ih =>
      simp only [Option.map_eq_some_iff, Prod.mk.injEq] at h
      obtain ⟨⟨more, rest⟩, hread, rfl, hrest⟩ := h
      obtain rfl : rest = command := hrest
      have hlength := ih hread
      simp only [List.length_cons]
      omega

theorem readGrants_whole_iff :
    (∃ grants, readGrants words = some (grants, words)) ↔ ∀ a : Access, words.head? ≠ some a.option := by
  constructor
  · rintro ⟨grants, hread⟩ a ha
    have hlength := length_of_readGrants hread
    obtain rfl : grants = [] := List.eq_nil_of_length_eq_zero (by omega)
    obtain ⟨r, rfl⟩ := List.head?_eq_some_iff.1 ha
    cases r with
    | nil => simp [readGrants, Access.ofOption_option] at hread
    | cons path r => simp [readGrants, Access.ofOption_option] at hread
  · intro h
    exact ⟨[], readGrants_of_command h⟩

/-- The arguments are read as the policy and the command if the command does not begin with an option. -/
theorem read_whole_iff (hne : p.granted ≠ []) :
    (∃ r, read (p.arguments ++ words) = some r ∧ r.policy = p ∧ r.command = words) ↔
      ∀ a : Access, words.head? ≠ some a.option := by
  rw [← readGrants_whole_iff, read_arguments hne]
  constructor
  · rintro ⟨r, hread, -, hcommand⟩
    obtain ⟨⟨grants, command⟩, hgrants, rfl⟩ := Option.map_eq_some_iff.1 hread
    obtain rfl : command = words := hcommand
    exact ⟨grants, hgrants⟩
  · rintro ⟨grants, hgrants⟩
    have hlength := length_of_readGrants hgrants
    obtain rfl : grants = [] := List.eq_nil_of_length_eq_zero (by omega)
    refine ⟨_, by rw [hgrants, Option.map_some], ?_, rfl⟩
    rw [policy, List.append_nil, Policy.ofGrants_granted]

end LauncherArguments

namespace Configuration

variable {p : Policy} {m : Machine} {words : List String} {workDir : Path} {bindings : Pairs}
  {command : Command}

theorem build_sandbox_eq_ok_iff :
    ((sandbox p).prepare.build m words workDir bindings).result = .ok command ↔
      ∃ program arguments tool, words = program :: arguments ∧
        m.findExecutable Backend.sandboxTool = some tool ∧
        Backend.commandOf tool.text ((p.withDirectory workDir).arguments ++ words)
          ⟨program, arguments, workDir, bindings, []⟩ = command := by
  cases words with
  | nil => simp [Prepared.build]
  | cons program arguments =>
      have hbuild : (sandbox p).prepare.build m (program :: arguments) workDir bindings =
          Backend.buildSandbox m p.description (fun d => (p.withDirectory d).arguments)
            ⟨program, arguments, workDir, bindings, []⟩ := rfl
      rw [hbuild, Backend.buildSandbox]
      cases m.findExecutable Backend.sandboxTool with
      | none => simp
      | some tool => simp [Invocation.words]

theorem arguments_of_build_sandbox
    (h : ((sandbox p).prepare.build m words workDir bindings).result = .ok command) :
    command.arguments = (p.withDirectory workDir).arguments ++ words := by
  obtain ⟨program, arguments, tool, -, -, rfl⟩ := build_sandbox_eq_ok_iff.1 h
  rfl

end Configuration

/-- What the launcher reads from a command of a sandbox: the network and the grants of the policy with the
working directory, all of them, and then those that the command itself begins with. This is the policy and
the command as they were given if and only if the command begins with no option that grants something. -/
theorem launcher_reads_policy (p : Policy) {m : Machine} {tool : Path} {words : List String}
    (workDir : Path) (bindings : Pairs) (htool : m.findExecutable Backend.sandboxTool = some tool)
    (hwords : words ≠ []) :
    ∃ command,
      ((Configuration.sandbox p).prepare.build m words workDir bindings).result = .ok command ∧
      LauncherArguments.read command.arguments = (LauncherArguments.readGrants words).map
        (fun x => ⟨p.network, (p.withDirectory workDir).granted ++ x.1, x.2⟩) ∧
      ((∃ r, LauncherArguments.read command.arguments = some r ∧ r.policy = p.withDirectory workDir ∧
        r.command = words) ↔ ∀ a : Access, words.head? ≠ some a.option) := by
  obtain ⟨program, arguments, rfl⟩ := List.exists_cons_of_ne_nil hwords
  have hne : (p.withDirectory workDir).granted ≠ [] := Policy.granted_withDirectory_ne_nil
  refine ⟨_, Configuration.build_sandbox_eq_ok_iff.2 ⟨program, arguments, tool, rfl, htool, rfl⟩, ?_, ?_⟩
  · rw [Backend.commandOf, LauncherArguments.read_arguments hne, Policy.network_withDirectory]
  · exact LauncherArguments.read_whole_iff hne

def Machine.launching : Machine := { Machine.bare with
  files := ⟨[(["rattler-sandbox"], .file [] true)]⟩
  environ := .ofList [("PATH", "/")] }

theorem Machine.launching_tool :
    launching.findExecutable Backend.sandboxTool = some (.ofString "/rattler-sandbox") := by
  have hrun : launching.isExecutable "/rattler-sandbox" = true :=
    isExecutable_of_entry (by decide) rfl (by decide) (by decide +kernel) (by decide)
      (show launching.files.entry? ["rattler-sandbox"] = some (.file [] true) by decide)
  exact findExecutable_of_candidates (by decide)
    (show launching.environ.get? "PATH" = some "/" by decide) (by decide) (by decide) hrun

def Policy.reader : Policy := ⟨false, [.ofString "/usr"], [], []⟩

theorem launcher_reads_policy_make :
    Machine.launching.findExecutable Backend.sandboxTool = some (.ofString "/rattler-sandbox") ∧
      ["make", "--fs-read", "/etc"] ≠ [] ∧ ∃ command,
        ((Configuration.sandbox .reader).prepare.build .launching ["make", "--fs-read", "/etc"]
          (.ofString "/w") .empty).result = .ok command ∧
        LauncherArguments.read command.arguments = some ⟨false,
          [(.readWrite, .ofString "/w"), (.read, .ofString "/usr")], ["make", "--fs-read", "/etc"]⟩ := by
  have hwords : ["make", "--fs-read", "/etc"] ≠ [] := by decide
  obtain ⟨command, hbuilt, hread, -⟩ :=
    launcher_reads_policy .reader (.ofString "/w") .empty Machine.launching_tool hwords
  refine ⟨Machine.launching_tool, hwords, command, hbuilt, hread.trans ?_⟩
  decide

/-- A command that lets itself read more than its policy allows. -/
theorem command_widens_policy :
    ∃ command,
      ((Configuration.sandbox .reader).prepare.build .launching ["--fs-read", "/etc", "sh"]
        (.ofString "/w") .empty).result = .ok command ∧
      LauncherArguments.read command.arguments = some ⟨false,
        [(.readWrite, .ofString "/w"), (.read, .ofString "/usr"), (.read, .ofString "/etc")], ["sh"]⟩ ∧
      ¬∃ r, LauncherArguments.read command.arguments = some r ∧
        r.policy = Policy.reader.withDirectory (.ofString "/w") ∧
        r.command = ["--fs-read", "/etc", "sh"] := by
  have hread : LauncherArguments.read ((Policy.reader.withDirectory (.ofString "/w")).arguments ++
      ["--fs-read", "/etc", "sh"]) = some ⟨false,
        [(.readWrite, .ofString "/w"), (.read, .ofString "/usr"), (.read, .ofString "/etc")], ["sh"]⟩ := by
    decide
  refine ⟨_, Configuration.build_sandbox_eq_ok_iff.2
    ⟨"--fs-read", ["/etc", "sh"], _, rfl, Machine.launching_tool, rfl⟩, hread, ?_⟩
  rintro ⟨r, hr, -, hcommand⟩
  cases hread.symm.trans hr
  exact absurd hcommand (by decide)

/-- Least privilege over a session. Whatever the steps before it were, the arguments of a step are a policy in
front of its words: with the network as the policy has it, and with all that the policy grants, as often as
it does, and its own working directory for writing, once if the policy does not grant that. The directory of
another step is granted only as the policy grants it. What an answer shows to be run is this command. Adding
directories one after the other leaves the new ones, in the order in which they came first. -/
theorem session_confined (p : Policy) (m : Machine) (steps : List SessionStep) :
    let prepared := (Configuration.sandbox p).prepare
    (∀ (i : Nat) (s : SessionStep), steps[i]? = some s → ∀ command,
      (prepared.build (prepared.session m (steps.take i)).2 s.words s.workDir s.bindings).result =
        .ok command →
      ∃ part grants, command.arguments = part ++ s.words ∧
        LauncherArguments.read part = some ⟨p.network, grants, []⟩ ∧
        (∀ g, grants.count g =
          if g = (.readWrite, s.workDir) then max 1 (p.granted.count g) else p.granted.count g) ∧
        ∀ other ∈ steps, other.workDir ≠ s.workDir → ∀ a, (a, other.workDir) ∈ grants →
          (a, other.workDir) ∈ p.granted) ∧
    (∀ (i : Nat) (s : SessionStep), steps[i]? = some s →
      ∀ answer, (prepared.session m steps).1[i]? = some answer → ∀ argv ∈ answer.argvs, ∃ command,
        (prepared.build (prepared.session m (steps.take i)).2 s.words s.workDir s.bindings).result =
          .ok command ∧ command.argv = argv) ∧
    ∀ directories : List Path, directories.foldl Policy.withDirectory p =
      { p with readWrite := p.readWrite ++ (directories.filter (· ∉ p.readWrite)).eraseDups } := by
  intro prepared
  refine ⟨fun i s _ command hbuilt => ?_, fun i s hs answer hanswer argv hargv => ?_,
    Policy.foldl_withDirectory⟩
  · have hread := LauncherArguments.read_arguments
      (Policy.granted_withDirectory_ne_nil : (p.withDirectory s.workDir).granted ≠ []) []
    rw [List.append_nil, Policy.network_withDirectory] at hread
    refine ⟨(p.withDirectory s.workDir).arguments, (p.withDirectory s.workDir).granted,
      Configuration.arguments_of_build_sandbox hbuilt,
      by simpa [LauncherArguments.readGrants] using hread, Policy.count_granted_withDirectory,
      fun other _ hne a hgranted => ?_⟩
    rw [← List.count_pos_iff, Policy.count_granted_withDirectory, if_neg (by simp [hne])] at hgranted
    exact List.count_pos_iff.1 hgranted
  · rw [Prepared.session_getElem?, hs, Option.map_some, Option.some.injEq] at hanswer
    subst hanswer
    exact Prepared.argvs_perform hargv

def SessionStep.inTurn : List SessionStep :=
  [⟨["make"], .ofString "/a", .empty, none⟩, ⟨["make"], .ofString "/b", .empty, none⟩]

theorem session_confined_inTurn :
    let prepared := (Configuration.sandbox .reader).prepare
    SessionStep.inTurn[1]? = some ⟨["make"], .ofString "/b", .empty, none⟩ ∧ ∃ command part grants,
      (prepared.build (prepared.session .launching (SessionStep.inTurn.take 1)).2 ["make"]
        (.ofString "/b") .empty).result = .ok command ∧ command.arguments = part ++ ["make"] ∧
      LauncherArguments.read part = some ⟨false, grants, []⟩ ∧
      grants.count (.readWrite, .ofString "/b") = 1 ∧ (.readWrite, .ofString "/a") ∉ grants := by
  intro prepared
  have hstep : SessionStep.inTurn[1]? = some ⟨["make"], .ofString "/b", .empty, none⟩ := rfl
  have hbuilt : (prepared.build (prepared.session .launching (SessionStep.inTurn.take 1)).2 ["make"]
      (.ofString "/b") .empty).result = .ok _ :=
    Configuration.build_sandbox_eq_ok_iff.2 ⟨"make", [], _, rfl, Machine.launching_tool, rfl⟩
  obtain ⟨part, grants, harguments, hread, hcount, hother⟩ :=
    (session_confined .reader .launching SessionStep.inTurn).1 1 _ hstep _ hbuilt
  refine ⟨hstep, _, part, grants, hbuilt, harguments, hread, ?_, fun ha => ?_⟩
  · rw [hcount, if_pos rfl]
    decide
  · have hgranted := hother _ List.mem_cons_self (by decide) _ ha
    exact absurd hgranted (by decide)

end Workcell
