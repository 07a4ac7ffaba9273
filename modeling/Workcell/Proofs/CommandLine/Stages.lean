import Workcell.CommandLine.Program
import Workcell.Proofs.Console
import Workcell.Proofs.Run.Sinks
import Workcell.Proofs.Run.Stopping
import Workcell.Proofs.Session

namespace Workcell

namespace CommandLine

/-- Why an invocation ends before a command is shown or run. -/
inductive Halt
  | help
  | usage (e : UsageError)
  | telemetry (e : TelemetryError)
  | load (f : LoadFailure)
  | failure (f : Failure)

structure Request where
  options : Options
  words : List String

structure Order where
  configuration : Configuration
  task : Task

def Outcome.halt (o : Outcome) (k : Display.Console) : Halt → Outcome
  | .help => o.write execHelp
  | .usage e => o.misuse e
  | .telemetry e => o.escape (.telemetry e)
  | .load (.settings e) => o.report k "Settings error" e.message
  | .load f => o.escape (.load f)
  | .failure f => o.fail k f

def request (m : Machine) (words : List String) : Except Halt Request :=
  match readWords execOptions true words with
  | .error e => .error (.usage e)
  | .ok ws =>
    if ws.given.any fun g => g.1 = .help then .error .help
    else match Options.ofGiven m ws.given with
      | .error (.usage e) => .error (.usage e)
      | .error .nulInPath => .error (.failure .nulInPath)
      | .ok options => if ws.rest = [] then .error (.usage .noCommand) else .ok ⟨options, ws.rest⟩

namespace Request

variable (r : Request)

def outset (m : Machine) : Outcome := { Outcome.start m with telemetry := r.options.tracing?.toList }

def arrange (m : Machine) : Except Halt Order :=
  match startTracing m r.options with
  | .error e => .error (.telemetry e)
  | .ok _ => match loadSettings m r.options with
    | .error f => .error (.load f)
    | .ok loaded => match assignments r.options with
      | .error e => .error (.usage e)
      | .ok (bindings, redactions) =>
        let settings := r.options.applyTo loaded
        let workDir := m.absolute (r.options.directory.getD m.cwd)
        match Configuration.ofSettings m settings workDir with
        | .error f => .error (.failure f)
        | .ok c => .ok ⟨c, ⟨r.words, workDir, bindings, loaded.redactions.overlay redactions, settings.timeout,
            r.options.verbose⟩⟩

end Request

namespace Order

variable (o : Order) (m : Machine)

def built : Built := o.configuration.prepare.build m o.task.words o.task.workDir o.task.bindings

def executed (script : Script) : Report × Filesystem :=
  o.configuration.prepare.execute m o.task.words o.task.workDir o.task.bindings o.task.redactions
    o.task.timeout script

def table : Except MarkupError (List String) := (Display.configurationTable o.configuration).lines m.console

end Order

theorem exec_eq (m : Machine) (r : Request) (script : Script) :
    exec m r.options r.words script = match r.arrange m with
      | .error h => (r.outset m).halt m.console h
      | .ok order =>
        if r.options.dryRun then order.task.preview m order.configuration (r.outset m)
        else order.task.run m order.configuration script (r.outset m) := by
  rw [exec, Request.arrange]
  cases startTracing m r.options with
  | error e => rfl
  | ok provider =>
      cases loadSettings m r.options with
      | error f => cases f <;> rfl
      | ok loaded =>
          cases assignments r.options with
          | error e => rfl
          | ok pairs =>
              dsimp only
              cases Configuration.ofSettings m (r.options.applyTo loaded)
                (m.absolute (r.options.directory.getD m.cwd)) <;> rfl

theorem execWords_eq (m : Machine) (words : List String) (script : Script) :
    execWords m words script = match request m words with
      | .error h => (Outcome.start m).halt m.console h
      | .ok r => exec m r.options r.words script := by
  rw [execWords, request]
  cases readWords execOptions true words with
  | error e => rfl
  | ok ws =>
      dsimp only
      split
      · rfl
      · cases Options.ofGiven m ws.given with
        | error e => cases e <;> rfl
        | ok options =>
            dsimp only
            split <;> rfl

variable {m : Machine} {words : List String} {script : Script} {r : Request} {order : Order} {h : Halt}

/-- An order is made when tracing was set up, of settings, of the assignments and of a configuration, none of
them at fault. -/
theorem exists_of_arrange (h : r.arrange m = .ok order) : ∃ provider loaded bindings redactions,
    startTracing m r.options = .ok provider ∧ loadSettings m r.options = .ok loaded ∧
      assignments r.options = .ok (bindings, redactions) ∧
      Configuration.ofSettings m (r.options.applyTo loaded) order.task.workDir = .ok order.configuration ∧
      order.task = ⟨r.words, m.absolute (r.options.directory.getD m.cwd), bindings,
        loaded.redactions.overlay redactions, (r.options.applyTo loaded).timeout, r.options.verbose⟩ := by
  rw [Request.arrange] at h
  cases hprovider : startTracing m r.options with
  | error e => simp [hprovider] at h
  | ok provider =>
      cases hloaded : loadSettings m r.options with
      | error f => simp [hprovider, hloaded] at h
      | ok loaded =>
          cases hassignments : assignments r.options with
          | error e => simp [hprovider, hloaded, hassignments] at h
          | ok pairs =>
              rw [hprovider, hloaded, hassignments] at h
              dsimp only at h
              split at h
              · cases h
              · next c hc =>
                obtain rfl := Except.ok.inj h
                exact ⟨provider, loaded, _, _, rfl, rfl, rfl, hc, rfl⟩

theorem execWords_of_refused (hrequest : request m words = .error h) :
    execWords m words script = (Outcome.start m).halt m.console h := by
  rw [execWords_eq, hrequest]

section Requested

variable (hrequest : request m words = .ok r)
include hrequest

theorem execWords_of_halted (harrange : r.arrange m = .error h) :
    execWords m words script = (r.outset m).halt m.console h := by
  rw [execWords_eq, hrequest]
  dsimp only
  rw [exec_eq, harrange]

variable (harrange : r.arrange m = .ok order)
include harrange

theorem execWords_of_dryRun (hdry : r.options.dryRun) :
    execWords m words script = order.task.preview m order.configuration (r.outset m) := by
  rw [execWords_eq, hrequest]
  dsimp only
  rw [exec_eq, harrange]
  exact if_pos hdry

theorem execWords_of_run (hdry : r.options.dryRun = false) :
    execWords m words script = order.task.run m order.configuration script (r.outset m) := by
  rw [execWords_eq, hrequest]
  dsimp only
  rw [exec_eq, harrange]
  exact if_neg (by simp [hdry])

end Requested

theorem isLong_iff {word : String} : isLong word ↔ ['-', '-'] <+: word.toList := by
  rw [isLong, String.startsWith_string_iff]
  rfl

theorem isOption_iff {word : String} : isOption word ↔ ['-'] <+: word.toList ∧ word ≠ "-" := by
  simp [isOption, String.startsWith_string_iff]

theorem isOption_eq_false_iff {word : String} :
    isOption word = false ↔ ¬(['-'] <+: word.toList ∧ word ≠ "-") := by
  rw [← isOption_iff, Bool.not_eq_true]

theorem readWords_of_word {α : Type} (known : List (Known α)) (lenient : Bool) {word : String}
    (hword : isOption word = false) (hne : word ≠ "--") (rest : List String) :
    readWords known lenient (word :: rest) = .ok ⟨[], word :: rest⟩ := by
  rw [readWords, if_neg hne, if_pos (by simp [hword])]

section Reading

variable {α : Type} {known : List (Known α)} {lenient : Bool} {word : String} {w : Word α}

theorem readWord_of_long {k : Known α} (hlong : isLong word) (hsplit : splitValue word = (word, none))
    (hfind : find known word = some k) : readWord known lenient word =
      .ok (if k.value.isSome then ⟨[], [], some (word, k.option)⟩ else ⟨[(k.option, none)], [], none⟩) := by
  rw [readWord, if_pos hlong, hsplit]
  dsimp only
  rw [hfind]
  cases hvalue : k.value <;> simp [hvalue]

section Option

variable  (hne : word ≠ "--") (hoption : isOption word) (hword : readWord known lenient word = .ok w)
include hne hoption hword

theorem readWords_of_complete (hpending : w.pending = none) (rest : List String) :
    readWords known lenient (word :: rest) = (readWords known lenient rest).map (w.before []) := by
  rw [readWords, if_neg hne, if_neg (by simp [hoption]), hword]
  dsimp only
  rw [hpending]

theorem readWords_of_pending {name : String} {option : α} (hpending : w.pending = some (name, option))
    (value : String) (rest : List String) : readWords known lenient (word :: value :: rest) =
      (readWords known lenient rest).map (w.before [(option, some value)]) := by
  rw [readWords, if_neg hne, if_neg (by simp [hoption]), hword]
  dsimp only
  rw [hpending]

end Option

end Reading

/-- A word that is the name of an option in full, and waits for a value behind it. -/
structure Awaits (word : String) (option : ExecOption) : Prop where
  ne : word ≠ "--"
  isOption : isOption word
  reads : readWord execOptions true word = .ok ⟨[], [], some (word, option)⟩

theorem awaits_of_find {word : String} {option : ExecOption} {k : Known ExecOption}
    (hlong : ['-', '-'] <+: word.toList) (hne : word ≠ "--") (hsplit : splitValue word = (word, none))
    (hfind : find execOptions word = some k) (hoption : k.option = option) (hvalue : k.value.isSome) :
    Awaits word option where
  ne := hne
  isOption := by
    refine isOption_iff.2 ⟨(List.prefix_append ['-'] ['-']).trans hlong, ?_⟩
    rintro rfl
    exact absurd hlong (by decide)
  reads := by
    rw [readWord_of_long (isLong_iff.2 hlong) hsplit hfind, if_pos hvalue, hoption]

theorem Awaits.readWords {word : String} {option : ExecOption} (h : Awaits word option) (value : String)
    (rest : List String) : readWords execOptions true (word :: value :: rest) =
      (readWords execOptions true rest).map fun ws => ⟨(option, some value) :: ws.given, ws.rest⟩ :=
  readWords_of_pending h.ne h.isOption h.reads rfl value rest

/-- The words of an invocation of the program that names the command that runs something, and gives it some
words. -/
def Names (line words : List String) : Prop :=
  readWords programOptions false line = .ok ⟨[], execName :: words⟩

theorem names_exec (words : List String) : Names ("exec" :: words) words :=
  readWords_of_word _ _ (isOption_eq_false_iff.2 (by decide)) (by decide) _

theorem Names.run_eq {line : List String} (h : Names line words) (m : Machine) (script : Script) :
    run m line script = execWords m words script := by
  have hne : line ≠ [] := by
    rintro rfl
    simp [Names, readWords] at h
  rw [run, if_neg hne, h]
  rfl

theorem toList_unlines (lines : List String) :
    (unlines lines).toList = lines.flatMap fun line => line.toList ++ ['\n'] := by
  rw [unlines, String.toList_join, List.flatMap_map]
  simp

theorem unlines_append (lines lines' : List String) :
    unlines (lines ++ lines') = unlines lines ++ unlines lines' := by
  apply String.ext
  simp only [toList_unlines, List.flatMap_append, String.toList_append]

theorem join_concat {α : Type} (sep : α) {segments : List (List α)} (h : segments ≠ []) :
    Text.join sep segments ++ [sep] = segments.flatMap (· ++ [sep]) := by
  induction segments with
  | nil => exact absurd rfl h
  | cons s rest ih =>
      cases rest with
      | nil => simp [Text.join]
      | cons t rest =>
          rw [Text.join, List.append_assoc, List.cons_append, ih (List.cons_ne_nil _ _), List.flatMap_cons]
          simp

theorem unlines_split (cs : List Char) :
    (unlines ((Text.split '\n' cs).map String.ofList)).toList = cs ++ ['\n'] := by
  rw [toList_unlines, List.flatMap_map]
  simp only [String.toList_ofList]
  rw [← join_concat '\n' (Text.split_ne_nil _ _), Text.join_split]

section Shown

open Display

variable (k : Console)

theorem exists_shown (l : Label) (text : String) : ∃ lines, k.printLabelled l.markup text = .ok lines ∧
    (0 < k.width → l.text.toList <+: (unlines lines).toList) ∧
    (0 < k.width → Verbatim k l.text.toList text.toList → unlines lines = l.text ++ " " ++ text ++ "\n") ∧
    (k.width = 0 → unlines lines = "") := by
  by_cases hwidth : k.width = 0
  · exact ⟨[], l.printLabelled_of_no_width hwidth text, fun hpos => absurd hwidth hpos.ne',
      fun hpos => absurd hwidth hpos.ne', fun _ => rfl⟩
  · obtain ⟨first, more, hprinted, hfront⟩ := l.exists_printed (Nat.pos_of_ne_zero hwidth) text
    refine ⟨first :: more, hprinted, fun _ => ?_, fun hpos hverbatim => ?_, fun h => absurd h hwidth⟩
    · rw [toList_unlines, List.flatMap_cons, List.append_assoc]
      exact List.prefix_append_of_prefix hfront
    · obtain heq := Except.ok.inj (hprinted.symm.trans (l.printLabelled_of_verbatim hpos hverbatim))
      apply String.ext
      rw [heq, unlines_split]
      simp

theorem printCommand_eq {k : Console} {c : Command} {command directory : List String}
    (hcommand : k.printLabelled Label.command.markup (Text.shellJoin c.argv) = .ok command)
    (hdirectory : k.printLabelled Label.directory.markup c.cwd.text = .ok directory) :
    k.printCommand c = .ok (command ++ directory) := by
  have hmarkup : Label.command.markup = "[bold]Command:[/bold]" := rfl
  have hmarkup' : Label.directory.markup = "[bold]Working directory:[/bold]" := rfl
  rw [hmarkup] at hcommand
  rw [hmarkup'] at hdirectory
  rw [Console.printCommand, hcommand, hdirectory]

theorem exists_printCommand (c : Command) : ∃ lines, k.printCommand c = .ok lines := by
  obtain ⟨_, hcommand, -⟩ := exists_shown k .command (Text.shellJoin c.argv)
  obtain ⟨_, hdirectory, -⟩ := exists_shown k .directory c.cwd.text
  exact ⟨_, printCommand_eq hcommand hdirectory⟩

namespace Outcome

variable (o : Outcome)

theorem exists_report (l : Label) {label : String} (hlabel : s!"[red]{label}:[/red]" = l.markup)
    (text : String) : ∃ lines, (0 < k.width → l.text.toList <+: (unlines lines).toList) ∧
      o.report k label text = { o.write (unlines lines) with exitCode := 1 } := by
  obtain ⟨lines, hprinted, hfront, -⟩ := exists_shown k l text
  refine ⟨lines, hfront, ?_⟩
  rw [report, hlabel, hprinted]
  rfl

theorem exists_fail_runner (e : RunnerError) : ∃ lines,
    (0 < k.width → Label.runnerError.text.toList <+: (unlines lines).toList) ∧
      o.fail k (.runner e) = { o.write (unlines lines) with exitCode := 1 } :=
  o.exists_report k .runnerError rfl _

theorem exists_settings (e : SettingsError) : ∃ lines,
    (0 < k.width → Label.settingsError.text.toList <+: (unlines lines).toList) ∧
      o.halt k (.load (.settings e)) = { o.write (unlines lines) with exitCode := 1 } :=
  o.exists_report k .settingsError rfl _

theorem exists_fail (f : Failure) : ∃ output escaped,
    o.fail k f = { o with exitCode := 1, output := output, escaped := escaped } := by
  cases f with
  | runner e =>
      obtain ⟨lines, -, heq⟩ := o.exists_fail_runner k e
      exact ⟨_, o.escaped, heq⟩
  | _ => exact ⟨o.output, _, rfl⟩

end Outcome

end Shown

theorem request_eq_ok_iff {m : Machine} {words : List String} {r : Request} : request m words = .ok r ↔
    ∃ ws, readWords execOptions true words = .ok ws ∧ (∀ g ∈ ws.given, g.1 ≠ .help) ∧
      Options.ofGiven m ws.given = .ok r.options ∧ ws.rest = r.words ∧ r.words ≠ [] := by
  rw [request]
  cases readWords execOptions true words with
  | error e => simp
  | ok ws =>
      simp only [Except.ok.injEq, exists_eq_left']
      by_cases hhelp : ws.given.any fun g => g.1 = .help
      · have hgiven : ∃ g ∈ ws.given, g.1 = .help := by simpa using hhelp
        rw [if_pos hhelp]
        refine iff_of_false (by simp) ?_
        rintro ⟨hnone, -⟩
        obtain ⟨g, hg, hg'⟩ := hgiven
        exact hnone g hg hg'
      · have hnone : ∀ g ∈ ws.given, g.1 ≠ .help := by
          intro g hg heq
          exact hhelp (List.any_eq_true.2 ⟨g, hg, by simp [heq]⟩)
        rw [if_neg hhelp]
        cases Options.ofGiven m ws.given with
        | error e => cases e <;> simp
        | ok options =>
            obtain ⟨options', words'⟩ := r
            dsimp only
            split
            · next hrest =>
              simp only [reduceCtorEq, hrest, false_iff, not_and, ne_eq, Decidable.not_not]
              exact fun _ _ heq => heq.symm
            · next hrest =>
              simp only [Except.ok.injEq, Request.mk.injEq]
              refine ⟨?_, ?_⟩
              · rintro ⟨rfl, rfl⟩
                exact ⟨hnone, rfl, rfl, hrest⟩
              · rintro ⟨-, rfl, rfl, -⟩
                exact ⟨rfl, rfl⟩

end CommandLine

end Workcell
