import Workcell.Proofs.Run.Record
import Mathlib.Algebra.Order.Field.Basic

namespace Workcell

open History

theorem dueAt_nonneg (timeout : Option Number) : ∀ d ∈ dueAt timeout, 0 ≤ d := by
  have hdouble (x : Double) (hx : x.isPositive = true) : ∀ d ∈ x.toRat?, 0 ≤ d := by
    intro d hd
    cases x with
    | finite negative significand exponent =>
        cases negative with
        | true => simp [Double.isPositive] at hx
        | false =>
            simp only [Double.toRat?, Bool.false_eq_true, if_false, Option.mem_def,
              Option.some.injEq] at hd
            rw [← hd]
            exact Rat.mkRat_nonneg (Int.natCast_nonneg _) _
    | _ => simp [Double.toRat?] at hd
  intro d hd
  cases timeout with
  | none => simp [dueAt] at hd
  | some n =>
      simp only [dueAt] at hd
      split at hd
      · next hpositive =>
        cases n with
        | whole n =>
            simp only [Number.isPositive, decide_eq_true_eq] at hpositive
            simp only [Number.toRat?, Option.mem_def, Option.some.injEq] at hd
            rw [← hd]
            exact_mod_cast le_of_lt hpositive
        | double x => exact hdouble x hpositive d hd
      · rw [← Option.some.inj hd]

def Command.bare : Command := ⟨"make", [], .ofString "/", .empty⟩

theorem Machine.bare_opens : ∃ opened,
    bare.openLog (.ofString "/") = .ok opened := by
  have hparts : ((Path.ofString "/").child logName).parts = ["conda_build.log"] := by decide +kernel
  have habsolute : ((Path.ofString "/").child logName).isAbsolute = true := by decide +kernel
  have hnul : ((Path.ofString "/").child logName).hasNul = false := by decide +kernel
  have hlocate : bare.files.locate bare.base ((Path.ofString "/").child logName) =
      .ok ["conda_build.log"] := by
    rw [Filesystem.locate, hparts, habsolute]
    have hmissing : Filesystem.empty.entry? ["conda_build.log"] = none := rfl
    exact Filesystem.walk_last (by decide) (by decide +kernel) (by simp [bare, hmissing])
      (by simp [bare, hmissing])
  rw [openLog, BuildLog.enter, BuildLog.new, hnul, Filesystem.openAppend_of_missing hlocate rfl]
  exact ⟨_, rfl⟩

namespace Progress

variable (t : Terms) (h : Handling) (log : BuildLog) (files : Filesystem) (events : List Event)

def outset (t : Terms) (log : BuildLog) (files : Filesystem) : Progress := ⟨.start t, .blank log files⟩

theorem outset_after : (outset t log files).after t h events =
    ⟨RunState.after t events, h.recordOf log files (RunState.heard t events)⟩ :=
  after_eq ..

theorem outset_conclude : ((outset t log files).after t h events).conclude t h =
    ⟨RunState.after t (RunState.played t events),
      h.recordOf log files (RunState.heard t (RunState.played t events))⟩ := by
  rw [conclude, ← after_append, outset_after, outset_after, RunState.played]

theorem outset_steps_take (k : Nat) :
    ((withoutTrailingEmpties ((outset t log files).steps t h events)).take k).flatten =
      (linesAmong (RunState.heard t (events.take k))).map fun p => h.textOf p.2 := by
  have hshown := shown_after_take t h (outset t log files) events k
  rw [outset_after, Handling.recordOf_shown] at hshown
  rw [flatten_take_withoutTrailingEmpties, hshown]
  rfl

theorem outset_steps :
    (withoutTrailingEmpties ((outset t log files).steps t h events)).flatten =
      (linesAmong (RunState.heard t events)).map fun p => h.textOf p.2 := by
  have hall := outset_steps_take t h log files events events.length
  rw [flatten_take_withoutTrailingEmpties, List.take_length,
    List.take_of_length_le (length_steps t h _ events).le] at hall
  rw [flatten_withoutTrailingEmpties, hall]

end Progress

theorem Machine.textOf_handling (m : Machine) (redactions : Pairs) (bytes : List UInt8) :
    (m.handling redactions).textOf bytes =
      redact (orderedRedactions redactions) ((m.handling .empty).textOf bytes) := by
  have hplain : (m.handling .empty).textOf bytes = Line.text bytes := by
    have hnone : orderedRedactions .empty = [] := List.mergeSort_nil
    rw [Handling.textOf, Machine.handling, hnone]
    exact String.ofList_toList
  rw [hplain]
  rfl

section Report

variable (limit : Nat) {m : Machine} (c : Command) {workDir : Path} (redactions : Pairs)
  (timeout : Option Number) {script : Script} {log : BuildLog} {files : Filesystem}

theorem executeWithin_of_unopened {failure : Failure}
    (hopen : m.openLog workDir = .error failure) :
    executeWithin limit m c workDir redactions timeout script =
      (⟨.error failure, [], [], [], [], [executeSpan []]⟩, m.files) := by
  rw [executeWithin, hopen]

theorem executeWithin_of_unspawned {e : Errno}
    (hopen : m.openLog workDir = .ok (log, files))
    (hspawn : script.spawn = some e) :
    executeWithin limit m c workDir redactions timeout script =
      (⟨.error (.runner (.spawn s!"Failed to spawn {c.program}: {e.message}")), [], [m.childOf c], [],
        ((Record.blank log files).close (m.handling redactions)).2,
        [executeSpan [(Attribute.program, .text c.program), (Attribute.workDir, .text workDir.text)]]⟩,
        ((Record.blank log files).close (m.handling redactions)).1) := by
  rw [executeWithin, hopen, hspawn]

/-- The report of a run is made of all that happens in it and all that becomes known. -/
theorem executeWithin_of_spawn
    (hopen : m.openLog workDir = .ok (log, files))
    (hspawn : script.spawn = none) :
    let terms := m.terms limit timeout script
    let life := RunState.played terms script.events
    let record := (m.handling redactions).recordOf log files (RunState.heard terms life)
    let ending := (RunState.after terms life).ending?.getD (.stopped .cancellation)
    executeWithin limit m c workDir redactions timeout script =
      (⟨resultOf timeout record ending,
        withoutTrailingEmpties ((Progress.outset terms log files).steps terms (m.handling redactions)
          script.events),
        [m.childOf c], (RunState.after terms life).kills.map Prod.snd,
        (record.close (m.handling redactions)).2,
        [executeSpan ([(Attribute.program, .text c.program), (Attribute.workDir, .text workDir.text)] ++
          exitAttributes ending)]⟩, (record.close (m.handling redactions)).1) := by
  have hconclude := Progress.outset_conclude (m.terms limit timeout script)
    (m.handling redactions) log files
    script.events
  unfold Progress.outset at hconclude
  rw [executeWithin, hopen, hspawn]
  simp only [hconclude, Progress.outset]

theorem sinks_of_spawn (hopen : m.openLog workDir = .ok (log, files)) (hspawn : script.spawn = none) :
    let record := (m.handling redactions).recordOf log files (RunState.heard (m.terms limit timeout script)
      (RunState.played (m.terms limit timeout script) script.events))
    (executeWithin limit m c workDir redactions timeout script).1.steps.flatten = record.shown ∧
      (executeWithin limit m c workDir redactions timeout script).2 =
        (record.close (m.handling redactions)).1 := by
  rw [executeWithin_of_spawn _ _ _ _ hopen hspawn]
  refine ⟨?_, rfl⟩
  rw [Progress.outset_steps, Handling.recordOf_shown, RunState.linesAmong_heard_played]

/-- The lines that are shown are those that are shown without redactions, each redacted. -/
theorem steps_redacted : (executeWithin limit m c workDir redactions timeout script).1.steps.flatten =
    (executeWithin limit m c workDir .empty timeout script).1.steps.flatten.map
      (redact (orderedRedactions redactions)) := by
  cases hopen : m.openLog workDir with
  | error failure =>
      rw [executeWithin_of_unopened _ _ _ _ hopen, executeWithin_of_unopened _ _ _ _ hopen]
      rfl
  | ok opened =>
      cases hspawn : script.spawn with
      | some e =>
          rw [executeWithin_of_unspawned _ _ _ _ hopen hspawn, executeWithin_of_unspawned _ _ _ _ hopen hspawn]
          rfl
      | none =>
          rw [(sinks_of_spawn limit c redactions timeout hopen hspawn).1,
            (sinks_of_spawn limit c .empty timeout hopen hspawn).1, Handling.recordOf_shown,
            Handling.recordOf_shown, List.map_map]
          exact List.map_congr_left fun p _ => Machine.textOf_handling m redactions p.2

/-- A command whose build log can be opened adds to it what is shown, without the lines whose writes
fail and those that are lost at the closing, and changes no other file. -/
theorem gains_of_opened (hopen : m.openLog workDir = .ok (log, files)) :
    ∃ place written waiting, m.files.locate m.base (workDir.child logName) = .ok place ∧
      written ++ waiting = BuildLog.survivors m.logFaults 0
        (executeWithin limit m c workDir redactions timeout script).1.steps.flatten ∧
      (waiting.flatMap BuildLog.lineBytes).length ≤ m.logBuffer ∧
      m.files.Gains place
        ((written ++ if m.logFaults.losesAtClosing then [] else waiting).flatMap BuildLog.lineBytes)
        (executeWithin limit m c workDir redactions timeout script).2 := by
  obtain ⟨place, hlocate, hlog⟩ := BuildLog.open_of_enter hopen
  cases hspawn : script.spawn with
  | some e =>
      rw [executeWithin_of_unspawned limit c redactions timeout hopen hspawn]
      obtain ⟨written, waiting, hlines, hfits, hgains⟩ := hlog.close m.logFaults
      exact ⟨place, written, waiting, hlocate, hlines, hfits, hgains⟩
  | none =>
      obtain ⟨hshown, hfiles⟩ := sinks_of_spawn limit c redactions timeout hopen hspawn
      obtain ⟨tried, hrecord⟩ := (m.handling redactions).open_recordOf
        (RunState.heard (m.terms limit timeout script)
          (RunState.played (m.terms limit timeout script) script.events)) hlog
      obtain ⟨written, waiting, hlines, hfits, hgains⟩ := hrecord.close m.logFaults
      rw [hshown, hfiles, Handling.recordOf_shown]
      exact ⟨place, written, waiting, hlocate, hlines, hfits, hgains⟩

theorem exists_added (hopen : m.openLog workDir = .ok (log, files)) :
    ∃ added : List String,
      added.Sublist (executeWithin limit m c workDir redactions timeout script).1.steps.flatten ∧
      ((executeWithin limit m c workDir redactions timeout script).2.contentAt m.base
          (workDir.child logName)).getD [] =
        (m.files.contentAt m.base (workDir.child logName)).getD [] ++ added.flatMap BuildLog.lineBytes := by
  obtain ⟨place, written, waiting, hlocate, hlines, -, hgains⟩ :=
    gains_of_opened limit c redactions timeout hopen
  refine ⟨_, ?_, congrArg (·.getD []) (hgains.contentAt hlocate)⟩
  refine List.Sublist.trans ?_ (BuildLog.survivors_sublist m.logFaults 0 _)
  rw [← hlines]
  exact List.Sublist.append_left (by split <;> simp) written

theorem gains_of_not_losing (hloses : m.logFaults.losesAtClosing = false)
    (hopen : m.openLog workDir = .ok (log, files)) :
    ∃ place, m.files.locate m.base (workDir.child logName) = .ok place ∧
      m.files.Gains place ((BuildLog.survivors m.logFaults 0
        (executeWithin limit m c workDir redactions timeout script).1.steps.flatten).flatMap
          BuildLog.lineBytes) (executeWithin limit m c workDir redactions timeout script).2 := by
  obtain ⟨place, written, waiting, hlocate, hlines, -, hgains⟩ :=
    gains_of_opened limit c redactions timeout hopen
  rw [hloses, if_neg Bool.false_ne_true, hlines] at hgains
  exact ⟨place, hlocate, hgains⟩

/-- A command whose build log cannot be opened or whose child cannot be spawned fails, and nothing
is shown, killed or added to the build log. -/
theorem idle_or_spawned :
    ((∃ failure, (executeWithin limit m c workDir redactions timeout script).1.result =
      .error failure) ∧
      (executeWithin limit m c workDir redactions timeout script).1.steps = [] ∧
      (executeWithin limit m c workDir redactions timeout script).1.kills = [] ∧
      ((executeWithin limit m c workDir redactions timeout script).2.contentAt m.base
        (workDir.child logName)).getD [] = (m.files.contentAt m.base (workDir.child logName)).getD []) ∨
    ∃ log files, m.openLog workDir = .ok (log, files) ∧
      script.spawn = none := by
  cases hopen : m.openLog workDir with
  | error failure =>
      rw [executeWithin_of_unopened _ _ _ _ hopen]
      exact .inl ⟨⟨failure, rfl⟩, rfl, rfl, rfl⟩
  | ok opened =>
      obtain ⟨log, files⟩ := opened
      cases hspawn : script.spawn with
      | none => exact .inr ⟨log, files, rfl, rfl⟩
      | some e =>
          obtain ⟨place, hlocate, hlog⟩ := BuildLog.open_of_enter hopen
          have hcontent := (hlog.close_nil m.logFaults).contentAt hlocate
          rw [executeWithin_of_unspawned limit c redactions timeout hopen hspawn]
          refine .inl ⟨⟨_, rfl⟩, rfl, rfl, ?_⟩
          exact (congrArg (·.getD []) hcontent).trans (List.append_nil _)

theorem eq_childOf_of_mem_spawned {child : Spawned}
    (h : child ∈ (executeWithin limit m c workDir redactions timeout script).1.spawned) :
    child = m.childOf c := by
  cases hopen : m.openLog workDir with
  | error failure =>
      rw [executeWithin_of_unopened _ _ _ _ hopen] at h
      cases h
  | ok opened =>
      cases hspawn : script.spawn with
      | some e =>
          rw [executeWithin_of_unspawned _ _ _ _ hopen hspawn] at h
          exact List.mem_singleton.1 h
      | none =>
          rw [executeWithin_of_spawn _ _ _ _ hopen hspawn] at h
          exact List.mem_singleton.1 h

theorem result_of_over {ending : Ending} {since : Rat}
    (hopen : m.openLog workDir = .ok (log, files))
    (hspawn : script.spawn = none)
    (hover : (RunState.after (m.terms limit timeout script)
      (RunState.played (m.terms limit timeout script) script.events)).stage = .over ending since) :
    (executeWithin limit m c workDir redactions timeout script).1.result =
      resultOf timeout ((m.handling redactions).recordOf log files
        (RunState.heard (m.terms limit timeout script)
        (RunState.played (m.terms limit timeout script) script.events))) ending := by
  rw [executeWithin_of_spawn _ _ _ _ hopen hspawn]
  simp only [RunState.ending?, hover, Option.getD_some]

theorem captured_of_resultOf {record : Record} {ending : Ending} {r : Result}
    (h : resultOf timeout record ending = .ok r) :
    r.stdout = record.captured .out ∧ r.stderr = record.captured .err := by
  cases ending with
  | exited code =>
      simp only [resultOf, Except.ok.injEq] at h
      rw [← h]
      exact ⟨rfl, rfl⟩
  | stopped cause => cases cause <;> simp [resultOf] at h

end Report

end Workcell
