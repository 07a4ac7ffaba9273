import Workcell.Proofs.CommandLine.ExitCode
import Workcell.Proofs.Except
import Workcell.Proofs.Preflight

namespace Workcell

namespace CommandLine

/-- Some words, and these words with the option of a dry run put between options. -/
inductive WithDryRun : List String → List String → Prop
  | here (words : List String) : WithDryRun words ("--dry-run" :: words)
  | behind {word : String} {words words' : List String} {w : Word ExecOption} : word ≠ "--" →
      isOption word → readWord execOptions true word = .ok w → w.pending = none →
      WithDryRun words words' → WithDryRun (word :: words) (word :: words')
  | behindValue {word value : String} {words words' : List String} {w : Word ExecOption}
      {pending : String × ExecOption} : word ≠ "--" →
      isOption word → readWord execOptions true word = .ok w → w.pending = some pending →
      WithDryRun words words' → WithDryRun (word :: value :: words) (word :: value :: words')

theorem readWord_dryRun : readWord execOptions true "--dry-run" = .ok ⟨[(.dryRun, none)], [], none⟩ := by
  have hlong : isLong "--dry-run" := isLong_iff.2 (by decide)
  have hsplit : splitValue "--dry-run" = ("--dry-run", none) := by decide
  have hfind : find execOptions "--dry-run" =
      some ⟨.dryRun, ["--dry-run"], none, "Show the environment and command, do not execute."⟩ := by
    rfl
  rw [readWord_of_long hlong hsplit hfind]
  rfl

theorem WithDryRun.readWords_eq {words words' : List String} (h : WithDryRun words words')
    {ws : Words ExecOption} (hws : readWords execOptions true words = .ok ws) :
    ∃ before after, ws.given = before ++ after ∧
      readWords execOptions true words' = .ok ⟨before ++ (.dryRun, none) :: after, ws.rest⟩ := by
  induction h generalizing ws with
  | here words =>
      refine ⟨[], ws.given, rfl, ?_⟩
      rw [readWords_of_complete (by decide) (isOption_iff.2 (by decide)) readWord_dryRun rfl, hws]
      rfl
  | @behind word words words' w hne hoption hword hpending hrest ih =>
      rw [readWords_of_complete hne hoption hword hpending] at hws ⊢
      obtain ⟨ws', hread, rfl⟩ := map_eq_ok_iff.1 hws
      obtain ⟨before, after, hgiven, hread'⟩ := ih hread
      refine ⟨w.given ++ before, after, ?_, ?_⟩
      · simp [Word.before, hgiven]
      · rw [hread']
        simp [Except.map, Word.before]
  | @behindValue word value words words' w pending hne hoption hword hpending hrest ih =>
      rw [readWords_of_pending hne hoption hword hpending] at hws ⊢
      obtain ⟨ws', hread, rfl⟩ := map_eq_ok_iff.1 hws
      obtain ⟨before, after, hgiven, hread'⟩ := ih hread
      refine ⟨w.given ++ (pending.2, some value) :: before, after, ?_, ?_⟩
      · simp [Word.before, hgiven]
      · rw [hread']
        simp [Except.map, Word.before]

theorem filter_eraseDups {α : Type} [DecidableEq α] (p : α → Bool) (l : List α) :
    l.eraseDups.filter p = (l.filter p).eraseDups := by
  induction hlength : l.length using Nat.strongRecOn generalizing l with
  | ind n ih =>
      cases l with
      | nil => rfl
      | cons a r =>
          have hrest := ih (r.filter fun b => !b == a).length (by
            have := List.length_filter_le (fun b => !b == a) r
            simp only [List.length_cons] at hlength
            omega) _ rfl
          rw [List.eraseDups_cons, List.filter_cons, List.filter_cons, hrest, List.filter_filter]
          split
          · rw [List.eraseDups_cons, List.filter_filter]
            simp only [Bool.and_comm]
          · next hp =>
            congr 1
            apply List.filter_congr
            intro b hb
            by_cases hba : b = a
            · simp [hba, hp]
            · simp [hba]

theorem grouped_insert (before after : List (Given ExecOption)) :
    (grouped (before ++ (.dryRun, none) :: after)).filter (·.1 ≠ .dryRun) =
      (grouped (before ++ after)).filter (·.1 ≠ .dryRun) := by
  have hvalues (option : ExecOption) : ((before ++ (.dryRun, none) :: after).filterMap fun g =>
      if g.1 = option then g.2 else none) =
        (before ++ after).filterMap fun g => if g.1 = option then g.2 else none := by
    simp only [List.filterMap_append, List.filterMap_cons, ite_self]
  have hkeys : ((before ++ (.dryRun, none) :: after).map Prod.fst).eraseDups.filter (· ≠ ExecOption.dryRun) =
      ((before ++ after).map Prod.fst).eraseDups.filter (· ≠ ExecOption.dryRun) := by
    rw [filter_eraseDups, filter_eraseDups]
    simp
  simp only [grouped, hvalues, List.filter_map]
  exact congrArg (List.map _) hkeys

namespace Options

variable {m : Machine} {o : Options} {given : List (ExecOption × List String)}

def dried (o : Options) : Options := { o with dryRun := true }

theorem set_dried (m : Machine) (o : Options) (option : ExecOption) (values : List String) :
    o.dried.set m option values = (o.set m option values).map dried := by
  cases option with
  | config =>
      rw [set, set]
      cases filePath m "--config" (values.getLastD "") <;> rfl
  | directory =>
      rw [set, set]
      cases directoryPath m "--cwd" (values.getLastD "") <;> rfl
  | timeout =>
      rw [set, set]
      cases seconds "--timeout" (values.getLastD "") <;> rfl
  | _ => rfl

def setAll (m : Machine) (o : Options) (given : List (ExecOption × List String)) : Except Refusal Options :=
  given.foldlM (fun o (option, values) => o.set m option values) o

theorem setAll_cons (option : ExecOption) (values : List String) :
    o.setAll m ((option, values) :: given) = (o.set m option values).bind fun o => o.setAll m given := rfl

theorem setAll_cons_of_ok {o o' : Options} {option : ExecOption} {values : List String}
    (h : o.set m option values = .ok o') (given : List (ExecOption × List String)) :
    o.setAll m ((option, values) :: given) = o'.setAll m given := by
  rw [setAll_cons, h]
  rfl

theorem setAll_dried (m : Machine) (o : Options) (given : List (ExecOption × List String)) :
    o.dried.setAll m given = (o.setAll m given).map dried := by
  induction given generalizing o with
  | nil => rfl
  | cons g r ih =>
      rw [setAll_cons, setAll_cons, set_dried]
      cases o.set m g.1 g.2 with
      | error e => rfl
      | ok o' => exact ih o'

theorem map_dried_map_dried (x : Except Refusal Options) : (x.map dried).map dried = x.map dried := by
  cases x <;> rfl

theorem setAll_filter (m : Machine) (o : Options) (given : List (ExecOption × List String)) :
    ((o.setAll m (given.filter (·.1 ≠ .dryRun))).map dried) = (o.setAll m given).map dried := by
  induction given generalizing o with
  | nil => rfl
  | cons g r ih =>
      obtain ⟨option, values⟩ := g
      by_cases hoption : option = .dryRun
      · subst hoption
        rw [List.filter_cons_of_neg (by simp), ih, setAll_cons]
        change _ = (o.dried.setAll m r).map dried
        rw [setAll_dried, map_dried_map_dried]
      · rw [List.filter_cons_of_pos (by simpa using hoption), setAll_cons, setAll_cons]
        cases o.set m option values with
        | error e => rfl
        | ok o' => exact ih o'

theorem setAll_of_mem {values : List String} (h : (.dryRun, values) ∈ given) :
    o.setAll m given = (o.setAll m given).map dried := by
  induction given generalizing o with
  | nil => cases h
  | cons g r ih =>
      obtain ⟨option, values'⟩ := g
      rw [setAll_cons]
      rcases List.mem_cons.1 h with heq | hmem
      · obtain ⟨rfl, rfl⟩ := Prod.mk.inj heq
        change o.dried.setAll m r = (o.dried.setAll m r).map dried
        rw [setAll_dried, map_dried_map_dried]
      · cases o.set m option values' with
        | error e => rfl
        | ok o' => exact ih hmem

end Options

theorem ofGiven_insert (m : Machine) (before after : List (Given ExecOption)) :
    Options.ofGiven m (before ++ (.dryRun, none) :: after) =
      (Options.ofGiven m (before ++ after)).map Options.dried := by
  have hmem : (ExecOption.dryRun, ((before ++ (.dryRun, none) :: after).filterMap fun g =>
      if g.1 = .dryRun then g.2 else none)) ∈ grouped (before ++ (.dryRun, none) :: after) := by
    rw [grouped, List.mem_map]
    exact ⟨.dryRun, List.mem_eraseDups.2 (by simp), rfl⟩
  change Options.none.setAll m _ = (Options.none.setAll m _).map Options.dried
  rw [Options.setAll_of_mem hmem, ← Options.setAll_filter, grouped_insert, Options.setAll_filter]

variable {m : Machine} {words words' : List String} {script : Script} {r : Request} {order : Order}

theorem WithDryRun.request_eq (h : WithDryRun words words') (hrequest : request m words = .ok r) :
    request m words' = .ok ⟨r.options.dried, r.words⟩ := by
  obtain ⟨ws, hread, hhelp, hoptions, hrest, hne⟩ := request_eq_ok_iff.1 hrequest
  obtain ⟨before, after, hgiven, hread'⟩ := h.readWords_eq hread
  rw [hgiven] at hhelp hoptions
  refine request_eq_ok_iff.2 ⟨_, hread', ?_, ?_, hrest, hne⟩
  · intro g hg
    rcases List.mem_append.1 hg with hbefore | hafter
    · exact hhelp g (List.mem_append_left _ hbefore)
    · rcases List.mem_cons.1 hafter with rfl | hmem
      · simp
      · exact hhelp g (List.mem_append_right _ hmem)
  · rw [ofGiven_insert, hoptions]
    rfl

theorem arrange_dried (r : Request) (m : Machine) :
    (⟨r.options.dried, r.words⟩ : Request).arrange m = r.arrange m := rfl

/-- Showing a command runs nothing and changes no file. -/
theorem exists_preview (order : Order) (m : Machine) (o : Outcome) : ∃ exitCode output escaped notes,
    order.task.preview m order.configuration o = { o with exitCode, output, escaped, notes } := by
  cases htable : order.table m with
  | error e => exact ⟨_, _, _, _, Order.preview_of_fault htable⟩
  | ok lines =>
      cases hbuilt : (order.built m).result with
      | error f =>
          obtain ⟨output, escaped, hfail⟩ := (order.tabled m lines o).exists_fail m.console f
          exact ⟨_, _, _, _, (Order.preview_of_unbuilt htable hbuilt).trans hfail⟩
      | ok command =>
          obtain ⟨printed, hprinted⟩ := exists_printCommand m.console command
          exact ⟨_, _, _, _, Order.preview_of_built htable hbuilt hprinted⟩

theorem spawned_run (order : Order) (m : Machine) (script : Script) (o : Outcome) :
    (order.task.run m order.configuration script o).spawned = (order.executed m script).1.spawned := by
  cases hresult : (order.executed m script).1.result with
  | error f =>
      obtain ⟨output, escaped, hfail⟩ := (order.ran m script o).exists_fail m.console f
      rw [Order.run_of_error hresult, hfail]
      rfl
  | ok result =>
      obtain ⟨output, hran⟩ := Order.run_of_ok (o := o) hresult
      rw [hran]
      rfl

theorem Order.exists_built_of_spawned {child : Spawned} (h : child ∈ (order.executed m script).1.spawned) :
    ∃ command, (order.built m).result = .ok command ∧ child = m.childOf command := by
  cases hbuilt : (order.built m).result with
  | error failure =>
      rw [executed, (Prepared.execute_of_unbuilt _ _ _ hbuilt).2.2] at h
      cases h
  | ok command =>
      rw [executed, (Prepared.execute_of_built _ _ _ hbuilt).2.2] at h
      exact ⟨command, rfl, eq_childOf_of_mem_spawned _ _ _ _ h⟩

theorem exists_order_of_spawned {child : Spawned} (h : child ∈ (execWords m words script).spawned) :
    ∃ r order command, request m words = .ok r ∧ r.arrange m = .ok order ∧
      (order.built m).result = .ok command ∧ child = m.childOf command := by
  cases hrequest : request m words with
  | error halt =>
      rw [execWords_of_refused hrequest, spawned_halt] at h
      cases h
  | ok r =>
      cases harrange : r.arrange m with
      | error halt =>
          rw [execWords_of_halted hrequest harrange, spawned_halt] at h
          cases h
      | ok order =>
          cases hdry : r.options.dryRun with
          | true =>
              obtain ⟨exitCode, output, escaped, notes, hpreview⟩ := exists_preview order m (r.outset m)
              rw [execWords_of_dryRun hrequest harrange hdry, hpreview] at h
              cases h
          | false =>
              rw [execWords_of_run hrequest harrange hdry, spawned_run] at h
              obtain ⟨command, hbuilt, hchild⟩ := Order.exists_built_of_spawned h
              exact ⟨r, order, command, rfl, harrange, hbuilt, hchild⟩

end CommandLine

namespace Configuration

theorem ofSettings_cases {m : Machine} {s : Settings} {workDir : Path} {c : Configuration}
    (h : ofSettings m s workDir = .ok c) :
    c = host ∨ (∃ p, c = sandbox p) ∨ ∃ box mounts, c = containerWith box mounts := by
  rw [ofSettings] at h
  split at h
  · cases h
  · split at h
    · dsimp only at h
      split at h
      · cases h
      · split at h
        · obtain ⟨mounts, -, rfl⟩ := inContainer_eq_ok_iff.1 h
          exact .inr (.inr ⟨_, _, rfl⟩)
        · cases h
    · split at h
      · exact .inr (.inl ⟨_, (Except.ok.inj h).symm⟩)
      · exact .inl (Except.ok.inj h).symm

theorem exists_lines_of_build {m : Machine} {box : Container} {mounts : List Mount} {words : List String}
    {workDir : Path} {bindings : Pairs} {command : Command}
    (h : ((containerWith box mounts).prepare.build m words workDir bindings).result = .ok command) :
    ∃ lines, (Display.containerTable box mounts).lines m.console.forLog = .ok lines := by
  cases words with
  | nil => simp [Prepared.build] at h
  | cons program arguments => exact (Backend.buildContainer_eq_ok_iff.1 h).2.2.2.1

end Configuration

namespace CommandLine

variable {m : Machine} {words words' : List String} {script : Script} {r : Request} {order : Order}

theorem arrange_configuration (h : r.arrange m = .ok order) : order.configuration = .host ∨
    (∃ p, order.configuration = .sandbox p) ∨
      ∃ box mounts, order.configuration = .containerWith box mounts := by
  obtain ⟨_, _, _, _, -, -, -, hconfiguration, -⟩ := exists_of_arrange h
  exact Configuration.ofSettings_cases hconfiguration

section Table

open Display

theorem exists_runnerTable_iff {k : Console} (kind : RunnerKind) (policy : Option PolicyOffer) :
    (∃ lines, (runnerTable kind policy).lines k = .ok lines) ↔
      (k.HasRoom → ∀ p ∈ policy, Shows k [] p.description.toList) ∧ (runnerTable kind policy).Sound k := by
  have hplain (text : String) (h : '[' ∉ text.toList) : Shows k [] text.toList :=
    shows_of_tagless (tagless_of_not_mem h)
  have hkind : Shows k [] kind.name.toList := hplain _ (by cases kind <;> decide)
  rw [exists_lines_iff]
  refine and_congr_left fun _ => ?_
  cases policy with
  | none =>
      simp only [runnerTable, Option.map_none, Option.toList_none, List.forall_mem_cons,
        hplain "Runner:" (by decide), hkind, Option.mem_def, reduceCtorEq, IsEmpty.forall_iff, implies_true,
        List.not_mem_nil, and_self]
  | some p =>
      simp only [runnerTable, Option.map_some, Option.toList_some, List.forall_mem_cons,
        hplain "Runner:" (by decide), hplain "Policy:" (by decide), hkind, true_and, Option.mem_def,
        Option.some.injEq, forall_eq', List.not_mem_nil, IsEmpty.forall_iff, implies_true, and_true]

theorem runnerTable_sound {k : Console} (kind : RunnerKind) {policy : Option PolicyOffer}
    (h : ∀ p ∈ policy, Tagless p.description.toList) : (runnerTable kind policy).Sound k := by
  have hplain (text : String) (h : '[' ∉ text.toList) := sound_of_bracketless h
  have hkind := hplain kind.name (by cases kind <;> decide)
  refine Table.sound_of_tags fun _ => ?_
  cases policy with
  | none => simpa [runnerTable] using ⟨hplain "Runner:" (by decide), hkind⟩
  | some p =>
      have hpolicy := sound_of_tagless (h p rfl)
      simpa [runnerTable] using ⟨⟨hplain "Runner:" (by decide), hkind⟩, hplain "Policy:" (by decide), hpolicy⟩

/-- The environment of a command that is built can be shown, unless there is room for the description of its
policy and this cannot, or a style in it is at fault. -/
theorem exists_table_iff (harrange : r.arrange m = .ok order) {command : Command}
    (hbuilt : (order.built m).result = .ok command) : (∃ lines, order.table m = .ok lines) ↔
      (m.console.HasRoom → ∀ p ∈ order.configuration.policy, Shows m.console [] p.description.toList) ∧
        (configurationTable order.configuration).Sound m.console := by
  rw [Order.built] at hbuilt
  rw [Order.table]
  rcases arrange_configuration harrange with hhost | ⟨p, hsandbox⟩ | ⟨box, mounts, hbox⟩
  · rw [hhost]
    exact exists_runnerTable_iff .host none
  · rw [hsandbox]
    exact exists_runnerTable_iff .sandbox (some (.standard p))
  · -- building the command has shown the same markup, where there is room for it
    rw [hbox] at hbuilt ⊢
    obtain ⟨hlog, -⟩ := exists_lines_iff.1 (Configuration.exists_lines_of_build hbuilt)
    simp only [shows_forLog_iff, forall_prop_of_true m.console.hasRoom_forLog] at hlog
    rw [exists_lines_iff]
    exact and_congr_left fun _ => iff_of_true (fun _ => hlog) (by simp [Configuration.containerWith])

/-- The texts of a user that are shown with an environment hold no tag. -/
def TaglessTexts (c : Configuration) : Prop :=
  (∀ p ∈ c.policy, Tagless p.description.toList) ∧
    ∀ box ∈ c.container, ∀ x ∈ Inset.all box c.mounts, Tagless x.text.toList

theorem configurationTable_sound {k : Console} {c : Configuration} (h : TaglessTexts c) :
    (configurationTable c).Sound k := by
  rw [configurationTable]
  split
  · next box hbox => exact containerTable_sound (h.2 box hbox)
  · exact runnerTable_sound c.kind h.1

end Table

end CommandLine

open CommandLine Display in
/-- When an invocation spawns a child, the same one with the option of a dry run spawns and kills nothing,
opens no log and changes no file. It ends with zero, having shown the environment, the words and the directory
of the child, unless there is room for the description of a sandbox policy and its markup cannot be read, or a
style in which some text of the environment is shown is at fault; so it does if no text of the environment holds a
tag. Words and directory are shown as they are if nothing in them means something to the console; a console without
a cell shows nothing. -/
theorem dry_run_harmless (m : Machine) {line line' words words' : List String} (hnames : Names line words)
    (hnames' : Names line' words') (hdry : WithDryRun words words') (script script' : Script) {child : Spawned}
    (hchild : child ∈ (run m line script).spawned) :
    let o := run m line' script'
    o.spawned = [] ∧ o.kills = [] ∧ o.steps = [] ∧ o.log = none ∧ o.files = m.files ∧ o.complaint = none ∧
    ∃ r order, request m words = .ok r ∧ r.arrange m = .ok order ∧
      (o.exitCode = 0 ↔ (m.console.HasRoom → ∀ p ∈ order.configuration.policy,
        Shows m.console [] p.description.toList) ∧ (configurationTable order.configuration).Sound m.console) ∧
      (TaglessTexts order.configuration → o.exitCode = 0) ∧
      (o.exitCode ≠ 0 → o.exitCode = 1 ∧ o.output = "" ∧ ∃ e, o.escaped = some (.failure (.markup e))) ∧
      (o.exitCode = 0 → o.escaped = none ∧ (m.console.width = 0 → o.output = "") ∧
        ∃ lines command directory, order.table m = .ok lines ∧
          o.output = unlines lines ++ (command ++ directory) ∧
          (0 < m.console.width →
            "Command:".toList <+: command.toList ∧ "Working directory:".toList <+: directory.toList ∧
            (Verbatim m.console "Command:".toList (Text.shellJoin child.argv).toList →
              command = "Command: " ++ Text.shellJoin child.argv ++ "\n") ∧
            (Verbatim m.console "Working directory:".toList child.cwd.text.toList →
              directory = "Working directory: " ++ child.cwd.text ++ "\n"))) := by
  intro o
  rw [hnames.run_eq] at hchild
  obtain ⟨r, order, command, hrequest, harrange, hbuilt, rfl⟩ := exists_order_of_spawned hchild
  have ho : o = order.task.preview m order.configuration ((⟨r.options.dried, r.words⟩ : Request).outset m) :=
    (hnames'.run_eq m script').trans
      (execWords_of_dryRun (hdry.request_eq hrequest) ((arrange_dried r m).trans harrange) rfl)
  have htable := exists_table_iff harrange hbuilt
  have htagless (h : TaglessTexts order.configuration) : ∃ lines, order.table m = .ok lines :=
    htable.2 ⟨fun _ p hp => shows_of_tagless (h.1 p hp), configurationTable_sound h⟩
  obtain ⟨exitCode, output, escaped, notes, hpreview⟩ :=
    exists_preview order m ((⟨r.options.dried, r.words⟩ : Request).outset m)
  refine ⟨?_, ?_, ?_, ?_, ?_, ?_, r, order, hrequest, harrange, ?_⟩
  iterate 6 rw [ho, hpreview]; rfl
  cases hlines : order.table m with
  | error e =>
      rw [Order.preview_of_fault hlines] at ho
      rw [ho, ← htable, hlines]
      rw [hlines] at htagless
      exact ⟨⟨fun h => absurd h Int.one_ne_zero, fun ⟨_, h⟩ => absurd h (by simp)⟩,
        fun h => absurd (htagless h) (by simp), fun _ => ⟨rfl, rfl, e, rfl⟩, fun h => absurd h Int.one_ne_zero⟩
  | ok lines =>
      obtain ⟨shown, hshown, hlabel, hverbatim, hnone⟩ :=
        exists_shown m.console .command (Text.shellJoin command.argv)
      obtain ⟨shown', hshown', hlabel', hverbatim', hnone'⟩ :=
        exists_shown m.console .directory command.cwd.text
      rw [Order.preview_of_built hlines hbuilt (printCommand_eq hshown hshown')] at ho
      have houtput : o.output = unlines lines ++ (unlines shown ++ unlines shown') := by
        simp [ho, Order.tabled, Outcome.write, Request.outset, Outcome.start, unlines_append]
      have hzero : o.exitCode = 0 := by
        rw [ho]
        rfl
      have hnothing (hwidth : m.console.width = 0) : o.output = "" := by
        obtain rfl : [] = lines := Except.ok.inj ((lines_of_no_width _ hwidth).symm.trans hlines)
        rw [houtput, hnone hwidth, hnone' hwidth]
        rfl
      rw [← htable, hlines]
      refine ⟨iff_of_true hzero ⟨lines, rfl⟩, fun _ => hzero, fun h => absurd hzero h,
        fun _ => ⟨?_, hnothing, lines, _, _, rfl, houtput, fun hwidth => ⟨hlabel hwidth, hlabel' hwidth, hverbatim hwidth, hverbatim' hwidth⟩⟩⟩
      rw [ho]
      rfl

open CommandLine in
theorem dry_run_harmless_make :
    Names ["exec", "make"] ["make"] ∧ Names ["exec", "--dry-run", "make"] ["--dry-run", "make"] ∧
      WithDryRun ["make"] ["--dry-run", "make"] ∧
      Machine.bare.childOf (bareCommand "make" []) ∈ (run .bare ["exec", "make"] .signalled).spawned ∧
      (run .bare ["exec", "--dry-run", "make"] .signalled).spawned = [] ∧
      (run .bare ["exec", "--dry-run", "make"] .signalled).files = .empty ∧
      ∃ table, (run .bare ["exec", "--dry-run", "make"] .signalled).output =
        table ++ ("Command: make\n" ++ "Working directory: /\n") := by
  have hchild : Machine.bare.childOf (bareCommand "make" []) ∈
      (run .bare ["exec", "make"] .signalled).spawned := by
    rw [(names_exec _).run_eq, spawned_bare [] (by decide +kernel) (by decide)]
    exact List.mem_singleton_self _
  have hdry : WithDryRun ["make"] ["--dry-run", "make"] := .here _
  obtain ⟨hspawned, -, -, -, hfiles, -, r, order, hrequest, harrange, -, hzero, -, hshown⟩ :=
    dry_run_harmless .bare (names_exec _) (names_exec _) hdry .signalled .signalled hchild
  obtain rfl := Except.ok.inj ((request_bare [] (by decide +kernel) (by decide)).symm.trans hrequest)
  obtain rfl : Order.bare ["make"] = order := Except.ok.inj harrange
  obtain ⟨-, -, lines, command, directory, -, houtput, hshown⟩ := hshown (hzero ⟨nofun, nofun⟩)
  obtain ⟨-, -, hcommand, hdirectory⟩ := hshown (by decide)
  rw [hcommand (.of_plain (by decide) (by decide) (by decide) (by decide)),
    hdirectory (.of_plain (by decide) (by decide) (by decide) (by decide))] at houtput
  exact ⟨names_exec _, names_exec _, hdry, hchild, hspawned, hfiles, _, houtput⟩

open CommandLine in
theorem backslash_not_shown :
    (run .bare ["exec", "echo", "\\["] .signalled).spawned =
        [Machine.bare.childOf (bareCommand "echo" ["\\["])] ∧
      Text.shellJoin ["echo", "\\["] = "echo '\\['" ∧
      (run .bare ["exec", "--dry-run", "echo", "\\["] .signalled).output = "Build Environment \n" ++
        "┌─────────┬──────┐\n│ Runner: │ host │\n└─────────┴──────┘\n" ++
        "Command: echo '['\nWorking directory: /\n" := by
  refine ⟨?_, by decide +kernel, by decide +kernel⟩
  rw [(names_exec _).run_eq]
  exact spawned_bare ["\\["] (by decide +kernel) (by decide)

end Workcell
