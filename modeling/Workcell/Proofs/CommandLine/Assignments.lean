import Workcell.Proofs.Assignment
import Workcell.Proofs.Backends
import Workcell.Proofs.CommandLine.DryRun
import Workcell.Proofs.JoinedLines
import Workcell.Proofs.Resolution
import Workcell.Proofs.Run.Secrecy

namespace Workcell

theorem nodup_eraseDups {α : Type} [DecidableEq α] (l : List α) : l.eraseDups.Nodup := by
  induction hlength : l.length using Nat.strongRecOn generalizing l with
  | ind n ih =>
      cases l with
      | nil => exact List.nodup_nil
      | cons a r =>
          have hshorter : (r.filter fun b => !b == a).length < n := by
            have hle := List.length_filter_le (fun b => !b == a) r
            simp only [List.length_cons] at hlength
            omega
          rw [List.eraseDups_cons, List.nodup_cons]
          refine ⟨fun ha => ?_, ih _ hshorter _ rfl⟩
          have hkept := (List.mem_filter.1 (List.mem_eraseDups.1 ha)).2
          simp at hkept

namespace CommandLine

def valuesOf (option : ExecOption) (given : List (Given ExecOption)) : List String :=
  given.filterMap fun g => if g.1 = option then g.2 else none

def Gives (words : List String) (option : ExecOption) (values : List String) : Prop :=
  ∃ ws, readWords execOptions true words = .ok ws ∧ valuesOf option ws.given = values

section Gives

variable {word : String} {words values : List String} {option : ExecOption}

theorem gives_command (hword : isOption word = false) (hne : word ≠ "--") (rest : List String)
    (option : ExecOption) : Gives (word :: rest) option [] :=
  ⟨_, readWords_of_word _ _ hword hne rest, rfl⟩

variable {name : String} {pending : ExecOption} (hname : Awaits name pending) (h : Gives words option values)
include hname h

theorem Gives.behindValue (value : String) :
    Gives (name :: value :: words) option ((if pending = option then [value] else []) ++ values) := by
  obtain ⟨ws, hread, rfl⟩ := h
  refine ⟨_, (hname.readWords value words).trans (congrArg _ hread), ?_⟩
  by_cases hpending : pending = option
  · simp [valuesOf, hpending]
  · simp [valuesOf, hpending]

theorem Gives.behindPairs (pairs : List (String × String)) :
    Gives (pairs.flatMap (fun p => [name, assignment p]) ++ words) option
      ((if pending = option then pairs.map assignment else []) ++ values) := by
  induction pairs with
  | nil => simpa using h
  | cons p pairs ih =>
      have hnext := Gives.behindValue hname ih (assignment p)
      by_cases hpending : pending = option
      · simpa [hpending] using hnext
      · simpa [hpending] using hnext

end Gives

theorem awaits_redact : Awaits "--redact" .redaction :=
  awaits_of_find (by decide) (by decide) (by decide) rfl rfl rfl

theorem awaits_env : Awaits "--env" .variable :=
  awaits_of_find (by decide) (by decide) (by decide) rfl rfl rfl

theorem gives_pairs (redactions bindings : List (String × String)) {word : String}
    (hword : isOption word = false) (hne : word ≠ "--") (rest : List String) :
    let words := redactions.flatMap (fun p => ["--redact", assignment p]) ++
      (bindings.flatMap (fun p => ["--env", assignment p]) ++ word :: rest)
    Gives words .redaction (redactions.map assignment) ∧ Gives words .variable (bindings.map assignment) := by
  have hgives (option : ExecOption) := gives_command hword hne rest option
  have henv (option : ExecOption) := (hgives option).behindPairs awaits_env bindings
  have hredact (option : ExecOption) := (henv option).behindPairs awaits_redact redactions
  exact ⟨by simpa using hredact .redaction, by simpa using hredact .variable⟩

namespace Options

variable {m : Machine} {o o' : Options} {option : ExecOption} {values : List String}

theorem redactions_of_set (h : o.set m option values = .ok o') :
    o'.redactions = if option = .redaction then values else o.redactions := by
  cases option with
  | config | directory | timeout =>
      obtain ⟨-, -, rfl⟩ := map_eq_ok_iff.1 h
      rfl
  | _ =>
      cases h
      rfl

theorem bindings_of_set (h : o.set m option values = .ok o') :
    o'.bindings = if option = .variable then values else o.bindings := by
  cases option with
  | config | directory | timeout =>
      obtain ⟨-, -, rfl⟩ := map_eq_ok_iff.1 h
      rfl
  | _ =>
      cases h
      rfl

section Sets

variable {β : Type} {field : Options → β} {x : ExecOption} (Sets : List String → β → Prop)
  (hset : ∀ {o o' : Options} {option values}, o.set m option values = .ok o' →
    if option = x then Sets values (field o') else field o' = field o)
include hset

theorem field_of_not_mem {given : List (ExecOption × List String)} (hx : x ∉ given.map Prod.fst)
    (h : o.setAll m given = .ok o') : field o' = field o := by
  induction given generalizing o with
  | nil =>
      cases h
      rfl
  | cons g r ih =>
      obtain ⟨option, values⟩ := g
      rw [List.map_cons, List.mem_cons, not_or] at hx
      obtain ⟨next, hnext, hrest⟩ := bind_eq_ok_iff.1 h
      have hkept := hset hnext
      rw [if_neg (Ne.symm hx.1)] at hkept
      rw [ih hx.2 hrest, hkept]

theorem sets_of_mem {given : List (ExecOption × List String)} (hnodup : (given.map Prod.fst).Nodup)
    (hmem : (x, values) ∈ given) (h : o.setAll m given = .ok o') : Sets values (field o') := by
  induction given generalizing o with
  | nil => cases hmem
  | cons g r ih =>
      obtain ⟨option, values'⟩ := g
      obtain ⟨hfresh, hnodup⟩ := List.nodup_cons.1 hnodup
      obtain ⟨next, hnext, hrest⟩ := bind_eq_ok_iff.1 h
      rcases List.mem_cons.1 hmem with heq | hmem
      · obtain ⟨rfl, rfl⟩ := Prod.mk.inj heq
        have hgiven := hset hnext
        rw [if_pos rfl] at hgiven
        rwa [field_of_not_mem Sets hset hfresh hrest]
      · exact ih hnodup hmem hrest

theorem sets_of_ofGiven {given : List (Given ExecOption)} (h : ofGiven m given = .ok o) :
    Sets (valuesOf x given) (field o) ∨ valuesOf x given = [] ∧ field o = field Options.none := by
  have hkeys : (grouped given).map Prod.fst = (given.map Prod.fst).eraseDups := by
    rw [grouped, List.map_map]
    exact List.map_id _
  by_cases hx : x ∈ given.map Prod.fst
  · have hmem : (x, valuesOf x given) ∈ grouped given :=
      List.mem_map.2 ⟨x, List.mem_eraseDups.2 hx, rfl⟩
    exact .inl (sets_of_mem Sets hset (hkeys ▸ nodup_eraseDups _) hmem h)
  · have hvalues : valuesOf x given = [] := by
      rw [valuesOf, List.filterMap_eq_nil_iff]
      intro g hg
      exact if_neg fun heq : g.1 = x => hx (heq ▸ List.mem_map_of_mem hg)
    exact .inr ⟨hvalues, field_of_not_mem Sets hset (by rwa [hkeys, List.mem_eraseDups]) h⟩

theorem sets_of_request {words : List String} {r : Request} (hrequest : request m words = .ok r)
    (h : Gives words x values) :
    Sets values (field r.options) ∨ values = [] ∧ field r.options = field Options.none := by
  obtain ⟨ws, hread, rfl⟩ := h
  obtain ⟨ws', hread', -, hoptions, -⟩ := request_eq_ok_iff.1 hrequest
  obtain rfl := Except.ok.inj (hread.symm.trans hread')
  exact sets_of_ofGiven Sets hset hoptions

end Sets

section Field

variable {field : Options → List String} {x : ExecOption}
  (hset : ∀ {o o' : Options} {option values}, o.set m option values = .ok o' →
    field o' = if option = x then values else field o)
include hset

theorem field_of_request {words : List String} {r : Request} (hnone : field Options.none = [])
    (hrequest : request m words = .ok r) (h : Gives words x values) : field r.options = values := by
  have hsets {o o' : Options} {option values} (ho : o.set m option values = .ok o') :
      if option = x then field o' = values else field o' = field o := by
    rw [hset ho]
    split <;> rfl
  rcases sets_of_request (fun values v => v = values) hsets hrequest h with hgiven | ⟨hvalues, hkept⟩
  · exact hgiven
  · rw [hvalues, hkept, hnone]

end Field

end Options

variable {m : Machine} {words : List String} {r : Request} {order : Order}

theorem Outcome.exists_halt (o : Outcome) (k : Display.Console) (h : Halt) :
    ∃ exitCode output complaint escaped, o.halt k h = { o with exitCode, output, complaint, escaped } := by
  cases h with
  | help => exact ⟨_, _, _, _, rfl⟩
  | usage e => exact ⟨_, _, _, _, rfl⟩
  | telemetry e => exact ⟨_, o.output, o.complaint, _, rfl⟩
  | load f =>
      cases f with
      | settings e =>
          obtain ⟨lines, -, heq⟩ := o.exists_settings k e
          exact ⟨_, _, _, _, heq⟩
      | _ => exact ⟨_, o.output, o.complaint, _, rfl⟩
  | failure f =>
      obtain ⟨output, escaped, heq⟩ := o.exists_fail k f
      exact ⟨_, _, o.complaint, _, heq⟩

/-- What an invocation that ends before its run has done to the machine. -/
structure Outcome.Idle (o : Outcome) (m : Machine) : Prop where
  steps : o.steps = []
  spawned : o.spawned = []
  files : o.files = m.files

theorem idle_of_not_run (hrequest : request m words = .ok r)
    (h : r.options.dryRun ∨ ∃ halt, r.arrange m = .error halt) (script : Script) :
    (execWords m words script).Idle m := by
  cases harrange : r.arrange m with
  | error halt =>
      obtain ⟨exitCode, output, complaint, escaped, heq⟩ := (r.outset m).exists_halt m.console halt
      rw [execWords_of_halted hrequest harrange, heq]
      exact ⟨rfl, rfl, rfl⟩
  | ok order =>
      have hdry : r.options.dryRun := h.resolve_right fun ⟨halt, hhalt⟩ => by simp [harrange] at hhalt
      obtain ⟨exitCode, output, escaped, notes, heq⟩ := exists_preview order m (r.outset m)
      rw [execWords_of_dryRun hrequest harrange hdry, heq]
      exact ⟨rfl, rfl, rfl⟩

theorem run_eq_executed (order : Order) (m : Machine) (script : Script) (o : Outcome) :
    let ran := order.task.run m order.configuration script o
    ran.steps = (order.executed m script).1.steps ∧ ran.spawned = (order.executed m script).1.spawned ∧
      ran.files = (order.executed m script).2 := by
  intro ran
  cases hresult : (order.executed m script).1.result with
  | error f =>
      obtain ⟨output, escaped, heq⟩ := (order.ran m script o).exists_fail m.console f
      have hran : ran = _ := (Order.run_of_error hresult).trans heq
      rw [hran]
      exact ⟨rfl, rfl, rfl⟩
  | ok result =>
      obtain ⟨output, hran⟩ : ∃ output, ran = _ := Order.run_of_ok hresult
      rw [hran]
      exact ⟨rfl, rfl, rfl⟩

def Order.unredacted (order : Order) : Order := { order with task := { order.task with redactions := .empty } }

theorem steps_of_executed (order : Order) (m : Machine) (script : Script) :
    (order.executed m script).1.steps.flatten = (order.unredacted.executed m script).1.steps.flatten.map
      (redact (orderedRedactions order.task.redactions)) := by
  cases hbuilt : (order.built m).result with
  | error f =>
      have hsteps (redactions : Pairs) :=
        (Prepared.execute_of_unbuilt redactions order.task.timeout script hbuilt).2.1
      rw [Order.executed, Order.executed, hsteps, Order.unredacted, hsteps]
      rfl
  | ok command =>
      have hsteps (redactions : Pairs) :=
        (Prepared.execute_of_built redactions order.task.timeout script hbuilt).2.1
      rw [Order.executed, Order.executed, hsteps, Order.unredacted, hsteps]
      exact steps_redacted ..

theorem added_of_executed (order : Order) (m : Machine) (script : Script) :
    ∃ added : List String, added.Sublist (order.executed m script).1.steps.flatten ∧
      ((order.executed m script).2.contentAt m.base (order.task.workDir.child logName)).getD [] =
        (m.files.contentAt m.base (order.task.workDir.child logName)).getD [] ++
          added.flatMap BuildLog.lineBytes := by
  cases hbuilt : (order.built m).result with
  | error f =>
      obtain ⟨hfiles, -⟩ :=
        Prepared.execute_of_unbuilt order.task.redactions order.task.timeout script hbuilt
      rw [Order.executed, hfiles]
      exact ⟨[], List.nil_sublist _, (List.append_nil _).symm⟩
  | ok command =>
      obtain ⟨hfiles, hsteps, -⟩ :=
        Prepared.execute_of_built order.task.redactions order.task.timeout script hbuilt
      rw [Order.executed, hfiles, hsteps]
      rcases idle_or_spawned lineLimit command order.task.redactions order.task.timeout with
        ⟨-, -, -, hcontent⟩ | ⟨log, files, hopen, -⟩
      · exact ⟨[], List.nil_sublist _, hcontent.trans (List.append_nil _).symm⟩
      · exact exists_added lineLimit command order.task.redactions order.task.timeout hopen

theorem child_of_executed (order : Order) (m : Machine) (script : Script) {child : Spawned}
    (hchild : child ∈ (order.executed m script).1.spawned) :
    ∃ command, (order.built m).result = .ok command ∧ child = m.childOf command := by
  cases hbuilt : (order.built m).result with
  | error f =>
      obtain ⟨-, -, hspawned⟩ :=
        Prepared.execute_of_unbuilt order.task.redactions order.task.timeout script hbuilt
      rw [Order.executed, hspawned] at hchild
      cases hchild
  | ok command =>
      obtain ⟨-, -, hspawned⟩ :=
        Prepared.execute_of_built order.task.redactions order.task.timeout script hbuilt
      rw [Order.executed, hspawned] at hchild
      exact ⟨command, rfl, eq_childOf_of_mem_spawned _ _ _ _ hchild⟩

theorem exists_invocation {command : Command} (h : (order.built m).result = .ok command) :
    ∃ i : Invocation, i.workDir = order.task.workDir ∧ i.bindings = order.task.bindings ∧
      command.environment = i.environment := by
  rw [Order.built] at h
  cases hwords : order.task.words with
  | nil =>
      rw [hwords] at h
      cases h
  | cons program arguments =>
      rw [hwords] at h
      obtain ⟨program', arguments', rfl, -⟩ := Backend.exists_commandOf h
      exact ⟨_, rfl, rfl, rfl⟩

section Arranged

variable {loaded : Settings} {bindings redactions : List (String × String)}
  (hloaded : loadSettings m r.options = .ok loaded)
  (hassignments : assignments r.options = .ok (.ofList bindings, .ofList redactions))
  (harrange : r.arrange m = .ok order)
include hloaded hassignments harrange

theorem task_of_arrange : order.task.bindings = .ofList bindings ∧
    order.task.redactions = loaded.redactions.overlay (.ofList redactions) ∧
    order.task.workDir = m.absolute (r.options.directory.getD m.cwd) := by
  obtain ⟨_, loaded', _, _, -, hloaded', hassignments', -, htask⟩ := exists_of_arrange harrange
  cases hloaded.symm.trans hloaded'
  cases hassignments.symm.trans hassignments'
  rw [htask]
  exact ⟨rfl, rfl, rfl⟩

theorem environment_of_arrange {command : Command} (hbuilt : (order.built m).result = .ok command) :
    (∀ k, command.environment.get? k = (bindings.reverse.lookup k).or
      (if k = "PWD" then some (m.absolute (r.options.directory.getD m.cwd)).text else none)) ∧
    command.environment.keys = "PWD" :: (bindings.map Prod.fst).eraseDups.filter (· ≠ "PWD") := by
  obtain ⟨hbindings, -, hworkDir⟩ := task_of_arrange hloaded hassignments harrange
  obtain ⟨i, hi, hi', henvironment⟩ := exists_invocation hbuilt
  rw [henvironment, i.keys_environment, ← hworkDir, ← hi, hi', hbindings, Pairs.keys_ofList]
  refine ⟨fun k => ?_, rfl⟩
  rw [i.get?_environment, hi', hbindings, Pairs.get?_ofList]

end Arranged

end CommandLine

open CommandLine in
/-- The redactions and bindings that are given as options are those that count, put over the redactions of the
settings and over the directory of the command: the last value of a key is its value, and a key stands where it
came first. A run is the one with this mapping, and each child gets the bindings. The lines that are shown are
those that the same run shows without redactions, each redacted by the mapping, which puts its values in the place
of its keys and nothing else, and the build log gets no other lines. -/
theorem assignments_applied {m : Machine} {line words : List String} (hnames : Names line words)
    {redactions bindings : List (String × String)} (hkeys : ∀ p ∈ redactions ++ bindings, IsKey p.1)
    (hredactions : Gives words .redaction (redactions.map assignment))
    (hbindings : Gives words .variable (bindings.map assignment))
    {r : Request} (hrequest : request m words = .ok r)
    {loaded : Settings} (hloaded : loadSettings m r.options = .ok loaded) :
    let applied := loaded.redactions.overlay (.ofList redactions)
    let workDir := m.absolute (r.options.directory.getD m.cwd)
    let bound (k : String) := (bindings.reverse.lookup k).or (if k = "PWD" then some workDir.text else none)
    assignments r.options = .ok (.ofList bindings, .ofList redactions) ∧
    (∀ k, applied.get? k = (redactions.reverse.lookup k).or (loaded.redactions.get? k)) ∧
    applied.keys = loaded.redactions.keys ++
      (redactions.map Prod.fst).eraseDups.filter (· ∉ loaded.redactions.keys) ∧
    (∀ s, Relation.ReflTransGen applied.Rewrites s.toList (redact (orderedRedactions applied) s).toList) ∧
    (∀ order, r.arrange m = .ok order →
      order.task.redactions = applied ∧ order.task.bindings = .ofList bindings ∧
      (∀ command, (order.built m).result = .ok command → (∀ k, command.environment.get? k = bound k) ∧
        command.environment.keys = "PWD" :: (bindings.map Prod.fst).eraseDups.filter (· ≠ "PWD")) ∧
      (r.options.dryRun = false → ∀ script,
        let o := run m line script
        let plain := order.unredacted.task.run m order.configuration script (r.outset m)
        o = order.task.run m order.configuration script (r.outset m) ∧
        o.steps.flatten = plain.steps.flatten.map (redact (orderedRedactions applied)) ∧
        (∃ added : List String, added.Sublist o.steps.flatten ∧
          (o.files.contentAt m.base (workDir.child logName)).getD [] =
            (m.files.contentAt m.base (workDir.child logName)).getD [] ++
              added.flatMap BuildLog.lineBytes) ∧
        ∀ child ∈ o.spawned, ∀ k, child.environment.lookup k = (bound k).or (m.environ.get? k))) ∧
    (r.options.dryRun ∨ (∃ halt, r.arrange m = .error halt) → ∀ script, (run m line script).Idle m) := by
  intro applied workDir bound
  have hassignments : assignments r.options = .ok (.ofList bindings, .ofList redactions) := by
    rw [assignments, Options.field_of_request Options.bindings_of_set rfl hrequest hbindings,
      Options.field_of_request Options.redactions_of_set rfl hrequest hredactions,
      readAssignments_map fun p hp => hkeys p (List.mem_append_right _ hp),
      readAssignments_map fun p hp => hkeys p (List.mem_append_left _ hp)]
  refine ⟨hassignments, fun k => ?_, ?_, applied.rewrites_redact, fun order harrange => ?_, fun hidle script => ?_⟩
  · rw [Pairs.get?_overlay, Pairs.get?_ofList]
  · rw [Pairs.keys_overlay, Pairs.keys_ofList]
  · obtain ⟨hbound, happlied, hworkDir⟩ := task_of_arrange hloaded hassignments harrange
    refine ⟨happlied, hbound, fun command hbuilt => environment_of_arrange hloaded hassignments harrange hbuilt,
      fun hdry script => ?_⟩
    intro o plain
    have ho : o = order.task.run m order.configuration script (r.outset m) :=
      (hnames.run_eq m script).trans (execWords_of_run hrequest harrange hdry)
    obtain ⟨hsteps, hspawned, hfiles⟩ := run_eq_executed order m script (r.outset m)
    obtain ⟨hplain, -⟩ := run_eq_executed order.unredacted m script (r.outset m)
    have hwritten := added_of_executed order m script
    rw [hworkDir] at hwritten
    refine ⟨ho, ?_, ?_, fun child hchild k => ?_⟩
    · rw [ho, hsteps, steps_of_executed, happlied, ← hplain]
      rfl
    · rw [ho, hsteps, hfiles]
      exact hwritten
    · rw [ho, hspawned] at hchild
      obtain ⟨command, hbuilt, rfl⟩ := child_of_executed order m script hchild
      rw [m.lookup_childOf_environment, (environment_of_arrange hloaded hassignments harrange hbuilt).1]
  · rw [hnames.run_eq]
    exact idle_of_not_run hrequest hidle script

namespace CommandLine

theorem request_pair (redaction binding : String) :
    request .bare ["--redact", redaction, "--env", binding, "make"] =
      .ok ⟨{ Options.none with redactions := [redaction], bindings := [binding] }, ["make"]⟩ := by
  refine request_eq_ok_iff.2
    ⟨⟨[(.redaction, some redaction), (.variable, some binding)], ["make"]⟩, ?_, by simp, rfl, rfl, by simp⟩
  rw [awaits_redact.readWords, awaits_env.readWords,
    readWords_of_word _ _ (isOption_eq_false_iff.2 (by decide)) (by decide)]
  rfl

end CommandLine

open CommandLine in
theorem assignments_applied_equals :
    Names ["exec", "--redact", "key=a=b", "--env", "PWD=/x=y", "make"]
        ["--redact", "key=a=b", "--env", "PWD=/x=y", "make"] ∧
      (∀ p ∈ [("key", "a=b")] ++ [("PWD", "/x=y")], IsKey p.1) ∧
      ∃ r, request .bare ["--redact", "key=a=b", "--env", "PWD=/x=y", "make"] = .ok r ∧
        loadSettings .bare r.options = .ok .default ∧
        ∀ order command, r.arrange .bare = .ok order → (order.built .bare).result = .ok command →
          command.environment.keys = ["PWD"] ∧ command.environment.get? "PWD" = some "/x=y" := by
  have hkeys : ∀ p ∈ [("key", "a=b")] ++ [("PWD", "/x=y")], IsKey p.1 := by decide
  have hword : isOption "make" = false := isOption_eq_false_iff.2 (by decide)
  obtain ⟨hredactions, hbindings⟩ := gives_pairs [("key", "a=b")] [("PWD", "/x=y")] hword (by decide) []
  have hrequest := request_pair "key=a=b" "PWD=/x=y"
  have hloaded : loadSettings .bare { Options.none with redactions := ["key=a=b"], bindings := ["PWD=/x=y"] } =
      .ok .default := rfl
  obtain ⟨-, -, -, -, harranged, -⟩ :=
    assignments_applied (names_exec _) hkeys hredactions hbindings hrequest hloaded
  refine ⟨names_exec _, hkeys, _, hrequest, hloaded, fun order command harrange hbuilt => ?_⟩
  obtain ⟨-, -, hbound, -⟩ := harranged order harrange
  obtain ⟨hget, horder⟩ := hbound command hbuilt
  rw [horder, hget]
  decide

open CommandLine in
/-- An equals sign in a source or in a key ends it, and what follows becomes part of the value. -/
theorem assignment_cut :
    ∃ r order, request .bare ["--redact", assignment ("a=b", "***"), "--env", assignment ("x=y", "1"), "make"] =
        .ok r ∧
      loadSettings .bare r.options = .ok .default ∧ r.arrange .bare = .ok order ∧
      order.task.redactions ≠ Settings.default.redactions.overlay (.ofList [("a=b", "***")]) ∧
      order.task.bindings ≠ .ofList [("x=y", "1")] ∧
      redact (orderedRedactions order.task.redactions) "a=b" = "b=***=b" ∧
      redact (orderedRedactions order.task.redactions) "bar" = "bb=***r" := by
  refine ⟨_, ⟨.host, ⟨["make"], .ofString "/", .ofList [("x", "y=1")], .ofList [("a", "b=***")], none, false⟩⟩,
    request_pair _ _, rfl, ?_, ?_, ?_, ?_, ?_⟩
  · rfl
  · decide
  · decide
  · rw [orderedRedactions_single (by decide)]
    decide
  · rw [orderedRedactions_single (by decide)]
    decide

end Workcell
