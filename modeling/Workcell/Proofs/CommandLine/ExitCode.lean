import Workcell.Proofs.CommandLine.Stages

namespace Workcell

open History

section Run

variable (limit : Nat) {m : Machine} (c : Command) {workDir : Path} (redactions : Pairs)
  (timeout : Option Number) {script : Script}

theorem spawned_cases :
    (executeWithin limit m c workDir redactions timeout script).1.spawned = [] ∨
      (executeWithin limit m c workDir redactions timeout script).1.spawned = [m.childOf c] := by
  cases hopen : m.openLog workDir with
  | error failure =>
      rw [executeWithin_of_unopened _ _ _ _ hopen]
      exact .inl rfl
  | ok opened =>
      cases hspawn : script.spawn with
      | some e =>
          rw [executeWithin_of_unspawned _ _ _ _ hopen hspawn]
          exact .inr rfl
      | none =>
          rw [executeWithin_of_spawn _ _ _ _ hopen hspawn]
          exact .inr rfl

theorem exited_of_result {r : Result}
    (h : (executeWithin limit m c workDir redactions timeout script).1.result = .ok r) :
    (executeWithin limit m c workDir redactions timeout script).1.spawned = [m.childOf c] ∧
      script.spawn = none ∧ (executeWithin limit m c workDir redactions timeout script).1.kills = [] ∧
      exitCode? script.events = some r.exitCode := by
  rcases @idle_or_spawned limit m c workDir redactions timeout script with
    ⟨⟨failure, hfailure⟩, -⟩ | ⟨log, files, hopen, hspawn⟩
  · rw [hfailure] at h
    cases h
  · have hresult := h
    rw [executeWithin_of_spawn _ _ _ _ hopen hspawn] at hresult
    obtain ⟨past, ⟨rest, hrest⟩, hcompletes⟩ := completes_of_result hresult
    have hlife : past <+: RunState.played (m.terms limit timeout script) script.events :=
      (List.prefix_append_of_prefix ⟨rest, hrest⟩)
    obtain ⟨hkills, r', hr', hcode⟩ :=
      report_of_completes limit c redactions timeout hopen hspawn hlife hcompletes
    obtain rfl : r = r' := Except.ok.inj (h.symm.trans hr')
    refine ⟨?_, hspawn, hkills, ?_⟩
    · rw [executeWithin_of_spawn _ _ _ _ hopen hspawn]
    · rw [exitCode?] at hcode ⊢
      rw [← hrest, List.findSome?_append, hcode, Option.some_or]

end Run

namespace Prepared

variable {p : Prepared} {m : Machine} {words : List String} {workDir : Path} {bindings : Pairs}
  (redactions : Pairs) (timeout : Option Number) (script : Script)

theorem length_spawned_le :
    (p.execute m words workDir bindings redactions timeout script).1.spawned.length ≤ 1 := by
  cases hbuilt : (p.build m words workDir bindings).result with
  | error failure => simp [(execute_of_unbuilt redactions timeout script hbuilt).2.2]
  | ok c =>
      rw [(execute_of_built redactions timeout script hbuilt).2.2, Workcell.execute]
      rcases @spawned_cases lineLimit m c workDir redactions timeout script with
        hnone | hchild
      · simp [hnone]
      · simp [hchild]

theorem execute_report_of_built {c : Command} (h : (p.build m words workDir bindings).result = .ok c) :
    ∃ notes spans, (p.execute m words workDir bindings redactions timeout script).1 =
      { (Workcell.execute m c workDir redactions timeout script).1 with notes, spans } := by
  simp only [execute, h]
  exact ⟨_, _, rfl⟩

theorem exited_of_execute {r : Result}
    (h : (p.execute m words workDir bindings redactions timeout script).1.result = .ok r) :
    ∃ command, (p.build m words workDir bindings).result = .ok command ∧
      (p.execute m words workDir bindings redactions timeout script).1.spawned = [m.childOf command] ∧
      script.spawn = none ∧ (p.execute m words workDir bindings redactions timeout script).1.kills = [] ∧
      exitCode? script.events = some r.exitCode := by
  cases hbuilt : (p.build m words workDir bindings).result with
  | error failure => simp [execute, hbuilt] at h
  | ok c =>
      obtain ⟨notes, spans, hreport⟩ := execute_report_of_built redactions timeout script hbuilt
      rw [hreport] at h ⊢
      exact ⟨c, rfl, exited_of_result lineLimit c redactions timeout h⟩

end Prepared

namespace CommandLine

namespace Order

variable {order : Order} {m : Machine} {o : Outcome}

def ran (order : Order) (m : Machine) (script : Script) (o : Outcome) : Outcome :=
  let (r, files) := order.executed m script
  { o with
    steps := r.steps, spawned := r.spawned, kills := r.kills, notes := o.notes ++ r.notes,
    log := if r.spawned = [] then none
      else (files.locate m.base (order.task.workDir.child logName)).toOption,
    files }

variable {script : Script} {lines : List String}

theorem run_of_error {f : Failure} (h : (order.executed m script).1.result = .error f) :
    order.task.run m order.configuration script o = (order.ran m script o).fail m.console f := by
  rw [executed] at h
  simp only [Task.run, h]
  rfl

theorem run_of_ok {r : Result} (h : (order.executed m script).1.result = .ok r) : ∃ output,
    order.task.run m order.configuration script o =
      { order.ran m script o with exitCode := exitCodeOf r.exitCode, output } := by
  rw [executed] at h
  simp only [Task.run, h, ran, executed, Outcome.write]
  split
  · exact ⟨_, rfl⟩
  · exact ⟨_, rfl⟩

def tabled (order : Order) (m : Machine) (lines : List String) (o : Outcome) : Outcome :=
  { o.write (unlines lines) with notes := o.notes ++ (order.built m).notes }

theorem preview_of_fault {e : MarkupError} (h : order.table m = .error e) :
    order.task.preview m order.configuration o = o.escape (.failure (.markup e)) := by
  rw [table] at h
  rw [Task.preview, h]
  rfl

theorem preview_of_unbuilt {f : Failure} (htable : order.table m = .ok lines)
    (h : (order.built m).result = .error f) :
    order.task.preview m order.configuration o = (order.tabled m lines o).fail m.console f := by
  rw [table] at htable
  rw [built] at h
  rw [Task.preview, htable]
  simp only [Outcome.display, h, tabled, built]
  rfl

theorem preview_of_built {command : Command} {printed : List String} (htable : order.table m = .ok lines)
    (h : (order.built m).result = .ok command) (hprinted : m.console.printCommand command = .ok printed) :
    order.task.preview m order.configuration o = (order.tabled m lines o).write (unlines printed) := by
  rw [table] at htable
  rw [built] at h
  rw [Task.preview, htable]
  simp only [Outcome.display, h, hprinted, tabled, built]
  rfl

end Order

variable {m : Machine} {words : List String} {script : Script}

/-- An invocation ends at one of its stages, for a reason. -/
inductive Fails (m : Machine) (words : List String) (script : Script) : Halt → Prop
  | request {h : Halt} : request m words = .error h → Fails m words script h
  | arrange {h : Halt} {r : Request} : request m words = .ok r → r.arrange m = .error h →
      Fails m words script h
  | table {r : Request} {order : Order} {e : MarkupError} : request m words = .ok r →
      r.arrange m = .ok order → r.options.dryRun → order.table m = .error e →
      Fails m words script (.failure (.markup e))
  | build {r : Request} {order : Order} {lines : List String} {f : Failure} : request m words = .ok r →
      r.arrange m = .ok order → r.options.dryRun → order.table m = .ok lines →
      (order.built m).result = .error f → Fails m words script (.failure f)
  | run {r : Request} {order : Order} {f : Failure} : request m words = .ok r → r.arrange m = .ok order →
      r.options.dryRun = false → (order.executed m script).1.result = .error f →
      Fails m words script (.failure f)

structure Previews (m : Machine) (words : List String) (r : Request) (order : Order)
    (command : Command) (lines printed : List String) : Prop where
  request : request m words = .ok r
  arrange : r.arrange m = .ok order
  dryRun : r.options.dryRun
  table : order.table m = .ok lines
  built : (order.built m).result = .ok command
  printed : m.console.printCommand command = .ok printed

structure Runs (m : Machine) (words : List String) (script : Script) (r : Request) (order : Order)
    (result : Result) : Prop where
  request : request m words = .ok r
  arrange : r.arrange m = .ok order
  dryRun : r.options.dryRun = false
  result : (order.executed m script).1.result = .ok result

theorem fails_or_ends (m : Machine) (words : List String) (script : Script) :
    (∃ h, Fails m words script h) ∨
    (∃ r order command lines printed, Previews m words r order command lines printed) ∨
    ∃ r order result, Runs m words script r order result := by
  cases hrequest : request m words with
  | error h => exact .inl ⟨h, .request hrequest⟩
  | ok r =>
      cases harrange : r.arrange m with
      | error h => exact .inl ⟨h, .arrange hrequest harrange⟩
      | ok order =>
          cases hdry : r.options.dryRun with
          | false =>
              cases hresult : (order.executed m script).1.result with
              | error f => exact .inl ⟨_, .run hrequest harrange hdry hresult⟩
              | ok result => exact .inr (.inr ⟨r, order, result, hrequest, harrange, hdry, hresult⟩)
          | true =>
              cases htable : order.table m with
              | error e => exact .inl ⟨_, .table hrequest harrange hdry htable⟩
              | ok lines =>
                  cases hbuilt : (order.built m).result with
                  | error f => exact .inl ⟨_, .build hrequest harrange hdry htable hbuilt⟩
                  | ok command =>
                      obtain ⟨printed, hprinted⟩ := exists_printCommand m.console command
                      exact .inr (.inl ⟨r, order, command, lines, printed, hrequest, harrange, hdry, htable,
                        hbuilt, hprinted⟩)

/-- Where an invocation ends, it has written no complaint and let no failure escape before, and spawned one
child at most. -/
structure Outcome.Unharmed (o : Outcome) : Prop where
  exitCode : o.exitCode = 0
  complaint : o.complaint = none
  escaped : o.escaped = none
  spawned : o.spawned.length ≤ 1

theorem Outcome.start_unharmed (m : Machine) : (Outcome.start m).Unharmed := ⟨rfl, rfl, rfl, Nat.zero_le 1⟩

theorem Request.outset_unharmed (r : Request) (m : Machine) : (r.outset m).Unharmed :=
  ⟨rfl, rfl, rfl, Nat.zero_le 1⟩

theorem Order.ran_unharmed (order : Order) (m : Machine) (script : Script) {o : Outcome}
    (h : o.Unharmed) : (order.ran m script o).Unharmed :=
  ⟨h.exitCode, h.complaint, h.escaped, Prepared.length_spawned_le _ _ _⟩

theorem Order.tabled_unharmed (order : Order) (m : Machine) (lines : List String) {o : Outcome}
    (h : o.Unharmed) : (order.tabled m lines o).Unharmed :=
  ⟨h.exitCode, h.complaint, h.escaped, h.spawned⟩

theorem execWords_of_fails {h : Halt} (hfails : Fails m words script h) :
    ∃ o : Outcome, o.Unharmed ∧ execWords m words script = o.halt m.console h := by
  cases hfails with
  | request hrequest => exact ⟨_, Outcome.start_unharmed m, execWords_of_refused hrequest⟩
  | @arrange h r hrequest harrange =>
      exact ⟨_, r.outset_unharmed m, execWords_of_halted hrequest harrange⟩
  | @table r order e hrequest harrange hdry htable =>
      refine ⟨_, r.outset_unharmed m, ?_⟩
      rw [execWords_of_dryRun hrequest harrange hdry, Order.preview_of_fault htable]
      rfl
  | @build r order lines f hrequest harrange hdry htable hbuilt =>
      refine ⟨_, order.tabled_unharmed m lines (r.outset_unharmed m), ?_⟩
      rw [execWords_of_dryRun hrequest harrange hdry, Order.preview_of_unbuilt htable hbuilt]
      rfl
  | @run r order f hrequest harrange hdry hresult =>
      refine ⟨_, order.ran_unharmed m script (r.outset_unharmed m), ?_⟩
      rw [execWords_of_run hrequest harrange hdry, Order.run_of_error hresult]
      rfl

theorem execWords_of_previews {r : Request} {order : Order} {command : Command} {lines printed : List String}
    (h : Previews m words r order command lines printed) :
    execWords m words script = (order.tabled m lines (r.outset m)).write (unlines printed) := by
  rw [execWords_of_dryRun h.request h.arrange h.dryRun, Order.preview_of_built h.table h.built h.printed]

theorem execWords_of_runs {r : Request} {order : Order} {result : Result}
    (h : Runs m words script r order result) : ∃ output, execWords m words script =
      { order.ran m script (r.outset m) with exitCode := exitCodeOf result.exitCode, output } := by
  rw [execWords_of_run h.request h.arrange h.dryRun]
  exact Order.run_of_ok h.result

def Halt.exitCode : Halt → Int
  | .help => 0
  | .usage _ => 2
  | .telemetry _ | .load _ | .failure _ => 1

theorem Halt.exitCode_eq_zero_iff {h : Halt} : h.exitCode = 0 ↔ h = .help := by
  cases h <;> simp [exitCode]

theorem exitCodeOf_eq_zero_iff {code : Int} : exitCodeOf code = 0 ↔ code = 0 := by
  rw [exitCodeOf]
  split <;> omega

theorem Outcome.Unharmed.exitCode_halt {o : Outcome} (ho : o.Unharmed) (k : Display.Console) (h : Halt) :
    (o.halt k h).exitCode = h.exitCode := by
  cases h with
  | help => exact ho.exitCode
  | usage e => rfl
  | telemetry e => rfl
  | load f =>
      cases f with
      | settings e =>
          obtain ⟨lines, -, heq⟩ := o.exists_settings k e
          rw [heq]
          rfl
      | _ => rfl
  | failure f =>
      obtain ⟨output, escaped, heq⟩ := o.exists_fail k f
      rw [Outcome.halt, heq]
      rfl

theorem spawned_halt (o : Outcome) (k : Display.Console) (h : Halt) : (o.halt k h).spawned = o.spawned := by
  cases h with
  | load f =>
      cases f with
      | settings e =>
          obtain ⟨lines, -, heq⟩ := o.exists_settings k e
          rw [heq]
          rfl
      | _ => rfl
  | failure f =>
      obtain ⟨output, escaped, heq⟩ := o.exists_fail k f
      rw [Outcome.halt, heq]
  | _ => rfl

theorem request_eq_help_iff : request m words = .error .help ↔
    ∃ ws, readWords execOptions true words = .ok ws ∧ ∃ g ∈ ws.given, g.1 = .help := by
  rw [request]
  cases readWords execOptions true words with
  | error e => simp
  | ok ws =>
      dsimp only
      by_cases hhelp : ws.given.any fun g => g.1 = .help
      · rw [if_pos hhelp]
        simpa using hhelp
      · rw [if_neg hhelp]
        have hnone : ¬∃ g ∈ ws.given, g.1 = .help := by simpa using hhelp
        refine iff_of_false (fun heq => ?_) ?_
        · split at heq
          · cases heq
          · cases heq
          · split at heq <;> cases heq
        · rintro ⟨ws', hws, hgiven⟩
          exact hnone (Except.ok.inj hws ▸ hgiven)

theorem arrange_ne_help (r : Request) : r.arrange m ≠ .error .help := by
  rw [Request.arrange]
  cases startTracing m r.options with
  | error e => simp
  | ok provider =>
      cases loadSettings m r.options with
      | error f => simp
      | ok loaded =>
          cases assignments r.options with
          | error e => simp
          | ok pairs =>
              dsimp only
              split <;> simp

theorem request_of_fails_help (h : Fails m words script .help) : request m words = .error .help := by
  cases h with
  | request hrequest => exact hrequest
  | @arrange h r hrequest harrange => exact absurd harrange (arrange_ne_help r)

theorem length_spawned_execWords_le (m : Machine) (words : List String) (script : Script) :
    (execWords m words script).spawned.length ≤ 1 := by
  rcases fails_or_ends m words script with ⟨h, hfails⟩ | ⟨r, order, command, lines, printed, hpreviews⟩ |
    ⟨r, order, result, hruns⟩
  · obtain ⟨o, ho, heq⟩ := execWords_of_fails hfails
    rw [heq, spawned_halt]
    exact ho.spawned
  · rw [execWords_of_previews hpreviews]
    exact (order.tabled_unharmed m lines (r.outset_unharmed m)).spawned
  · obtain ⟨output, heq⟩ := execWords_of_runs hruns
    rw [heq]
    exact (order.ran_unharmed m script (r.outset_unharmed m)).spawned

end CommandLine

open CommandLine in
/-- An invocation that is not asked for help ends with zero only if a dry run was shown to its end, or if its
one child exited with zero by itself. The exit code of a child is handed on, that of one that a signal ended
as shells do. Every mistake in the use of the program ends with two and is complained of, every error of the
settings and of the run ends with one and is reported; a package that tracing lacks ends it with one as well. -/
theorem exit_code_honest (m : Machine) {line words : List String} (hnames : Names line words)
    (hhelp : ∀ ws, readWords execOptions true words = .ok ws → ∀ g ∈ ws.given, g.1 ≠ .help)
    (script : Script) :
    let o := run m line script
    o.spawned.length ≤ 1 ∧
    (o.exitCode = 0 →
      (∃ r order command lines printed, Previews m words r order command lines printed ∧ o.spawned = [] ∧
        o.complaint = none ∧ o.escaped = none ∧ o.output = unlines lines ++ unlines printed) ∨
      ∃ child, o.spawned = [child] ∧ script.spawn = none ∧ o.kills = [] ∧
        exitCode? script.events = some 0) ∧
    (∀ r order result, Runs m words script r order result →
      (0 ≤ result.exitCode → o.exitCode = result.exitCode) ∧
      (result.exitCode < 0 → o.exitCode = 128 - result.exitCode ∧ 128 < o.exitCode) ∧
      o.complaint = none ∧ o.escaped = none) ∧
    (∀ e, Fails m words script (.failure (.runner e)) →
      o.exitCode = 1 ∧ o.complaint = none ∧ o.escaped = none) ∧
    (∀ e, Fails m words script (.load (.settings e)) →
      o.exitCode = 1 ∧ o.complaint = none ∧ o.escaped = none) ∧
    (∀ e, Fails m words script (.usage e) →
      o.exitCode = 2 ∧ o.complaint = some e.text ∧ o.escaped = none) ∧
    ∀ e, Fails m words script (.telemetry e) →
      o.exitCode = 1 ∧ o.complaint = none ∧ o.escaped = some (.telemetry e) := by
  intro o
  have hrun : o = execWords m words script := hnames.run_eq m script
  have hfailed (h : Halt) (hfails : Fails m words script h) : ∃ o' : Outcome, o'.Unharmed ∧
      o = o'.halt m.console h := by
    rw [hrun]
    exact execWords_of_fails hfails
  refine ⟨?_, fun hzero => ?_, fun r order result hruns => ?_, fun e hfails => ?_, fun e hfails => ?_,
    fun e hfails => ?_, fun e hfails => ?_⟩
  · rw [hrun]
    exact length_spawned_execWords_le m words script
  · rcases fails_or_ends m words script with ⟨h, hfails⟩ | ⟨r, order, command, lines, printed, hpreviews⟩ |
      ⟨r, order, result, hruns⟩
    · obtain ⟨o', ho', heq⟩ := hfailed h hfails
      rw [heq, ho'.exitCode_halt] at hzero
      obtain rfl : h = .help := h.exitCode_eq_zero_iff.1 hzero
      obtain ⟨ws, hws, g, hg, hgiven⟩ := request_eq_help_iff.1 (request_of_fails_help hfails)
      exact absurd hgiven (hhelp ws hws g hg)
    · refine .inl ⟨r, order, command, lines, printed, hpreviews, ?_⟩
      rw [hrun, execWords_of_previews hpreviews]
      refine ⟨rfl, rfl, rfl, ?_⟩
      simp [Order.tabled, Outcome.write, Request.outset, Outcome.start]
    · obtain ⟨output, heq⟩ := execWords_of_runs hruns
      rw [hrun, heq] at hzero ⊢
      obtain ⟨command, -, hspawned, hspawn, hkills, hcode⟩ := Prepared.exited_of_execute _ _ _ hruns.result
      refine .inr ⟨m.childOf command, hspawned, hspawn, hkills, ?_⟩
      rw [hcode, exitCodeOf_eq_zero_iff.1 hzero]
  · obtain ⟨output, heq⟩ := execWords_of_runs hruns
    rw [hrun, heq]
    refine ⟨fun hcode => if_pos hcode, fun hcode => ?_, rfl, rfl⟩
    have hsignal : exitCodeOf result.exitCode = 128 - result.exitCode := if_neg (by omega)
    refine ⟨hsignal, ?_⟩
    dsimp only
    omega
  · obtain ⟨o', ho', heq⟩ := hfailed _ hfails
    obtain ⟨lines, -, hreport⟩ := o'.exists_fail_runner m.console e
    rw [heq, Outcome.halt, hreport]
    exact ⟨rfl, ho'.complaint, ho'.escaped⟩
  · obtain ⟨o', ho', heq⟩ := hfailed _ hfails
    obtain ⟨lines, -, hreport⟩ := o'.exists_settings m.console e
    rw [heq, hreport]
    exact ⟨rfl, ho'.complaint, ho'.escaped⟩
  · obtain ⟨o', ho', heq⟩ := hfailed _ hfails
    rw [heq]
    exact ⟨rfl, rfl, ho'.escaped⟩
  · obtain ⟨o', ho', heq⟩ := hfailed _ hfails
    rw [heq]
    exact ⟨rfl, ho'.complaint, rfl⟩

def Script.signalled : Script := ⟨[.ends .out, .ends .err, .exits (-9)], .works, none⟩

theorem Script.signalled_completes : Completes (dueAt none) Script.signalled.events := by
  have hwaiting : Waiting (dueAt none) [.ends .out, .ends .err] := by decide +kernel
  exact ⟨until_waiting_concat.2 hwaiting, by decide⟩

namespace CommandLine

def Request.bare (words : List String) : Request := ⟨.none, words⟩

def Order.bare (words : List String) : Order := ⟨.host, ⟨words, .ofString "/", .empty, .empty, none, false⟩⟩

def bareCommand (program : String) (arguments : List String) : Command :=
  ⟨program, arguments, .ofString "/", .ofList [("PWD", "/")]⟩

variable {program : String} (arguments : List String)

theorem built_bare : ((Order.bare (program :: arguments)).built .bare).result =
    .ok (bareCommand program arguments) := rfl

section Word

variable (hword : isOption program = false) (hne : program ≠ "--")
include hword hne

theorem request_bare : request .bare (program :: arguments) = .ok (.bare (program :: arguments)) := by
  rw [request, readWords_of_word _ _ hword hne]
  rfl

theorem exists_runs_bare : ∃ result, Runs .bare (program :: arguments) .signalled
    (.bare (program :: arguments)) (.bare (program :: arguments)) result ∧ result.exitCode = -9 := by
  obtain ⟨⟨log, files⟩, hopen⟩ := Machine.bare_opens
  have hspawn : Script.signalled.spawn = none := rfl
  obtain ⟨-, result, hresult, hcode⟩ := report_of_completes lineLimit (bareCommand program arguments) .empty
    none hopen hspawn (List.prefix_append _ _) Script.signalled_completes
  obtain ⟨notes, spans, hreport⟩ :=
    Prepared.execute_report_of_built .empty none .signalled (built_bare arguments)
  refine ⟨result, ⟨request_bare arguments hword hne, rfl, rfl, ?_⟩, (Option.some.inj hcode).symm⟩
  rw [Order.executed]
  exact (congrArg Report.result hreport).trans hresult

theorem spawned_bare : (execWords .bare (program :: arguments) .signalled).spawned =
    [Machine.bare.childOf (bareCommand program arguments)] := by
  obtain ⟨result, hruns, -⟩ := exists_runs_bare arguments hword hne
  obtain ⟨command, hbuilt, hspawned, -⟩ := Prepared.exited_of_execute _ _ _ hruns.result
  obtain rfl := Except.ok.inj ((built_bare arguments).symm.trans hbuilt)
  obtain ⟨output, heq⟩ := execWords_of_runs hruns
  rw [heq]
  exact hspawned

end Word

end CommandLine

open CommandLine in
theorem exit_code_honest_signalled :
    Names ["exec", "make"] ["make"] ∧
      (∀ ws, readWords execOptions true ["make"] = .ok ws → ∀ g ∈ ws.given, g.1 ≠ .help) ∧
      (run .bare ["exec", "make"] .signalled).exitCode = 137 := by
  have hhelp : ∀ ws, readWords execOptions true ["make"] = .ok ws → ∀ g ∈ ws.given, g.1 ≠ .help := by
    intro ws hws g hg
    rw [readWords_of_word _ _ (by decide +kernel) (by decide)] at hws
    rw [← Except.ok.inj hws] at hg
    cases hg
  obtain ⟨result, hruns, hcode⟩ := @exists_runs_bare "make" [] (by decide +kernel) (by decide)
  obtain ⟨-, -, hran, -⟩ := exit_code_honest .bare (names_exec _) hhelp .signalled
  obtain ⟨hexit, -⟩ := (hran _ _ _ hruns).2.1 (by omega)
  exact ⟨names_exec _, hhelp, by omega⟩

end Workcell
