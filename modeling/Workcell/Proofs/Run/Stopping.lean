import Workcell.Proofs.Run.Execute

namespace Workcell

open History

namespace RunState

theorem unkilled_ne_failures :
    unkilled ≠ BuildLog.writeFailure ∧ unkilled ≠ BuildLog.flushFailure ∧
      unkilled ≠ BuildLog.closeFailure := by
  decide +kernel

end RunState

namespace BuildLog

theorem unkilled_not_mem_close (log : BuildLog) (faults : LogFaults) (fs : Filesystem) :
    RunState.unkilled ∉ (log.close faults fs).2.2 := by
  obtain ⟨-, hflush, hclose⟩ := RunState.unkilled_ne_failures
  unfold close
  cases log.handle with
  | none => simp
  | some handle => cases faults.flush <;> cases faults.close <;> simp [hflush, hclose]

end BuildLog

namespace RunState

variable {t : Terms} {cause : Cause} {moment : Rat} {past : List Event}

theorem linesAmong_heard_dropLast (h : Stops t.deadline past cause moment) :
    linesAmong (heard t past.dropLast) = completed past := by
  cases past using List.reverseRecOn with
  | nil => rfl
  | append_singleton past e =>
      obtain ⟨hwaiting, hsilent⟩ := h.concat
      obtain ⟨-, hlines, -⟩ := follow_of_waiting hwaiting
      rw [List.dropLast_concat, hlines, completed_concat_of_silent hsilent]

end RunState

theorem resultOf_stopped (timeout : Option Number) (record : Record) (cause : Cause) :
    resultOf timeout record (.stopped cause) =
      .error (if cause = .cancellation then .cancelled else .runner (timeoutError timeout)) := by
  cases cause <;> rfl

section Report

variable (limit : Nat) {m : Machine} (c : Command) {workDir : Path} (redactions : Pairs)
  (timeout : Option Number) {script : Script} {log : BuildLog} {files : Filesystem}

theorem unkilled_mem_notes_iff
    (hopen : m.openLog workDir = .ok (log, files))
    (hspawn : script.spawn = none) :
    RunState.unkilled ∈ (executeWithin limit m c workDir redactions timeout script).1.notes ↔
      Occurrence.note RunState.unkilled ∈ RunState.heard (m.terms limit timeout script)
        (RunState.played (m.terms limit timeout script) script.events) := by
  rw [executeWithin_of_spawn _ _ _ _ hopen hspawn, Record.close, List.mem_append,
    Handling.mem_recordOf_notes _ _ RunState.unkilled_ne_failures.1]
  exact or_iff_left (BuildLog.unkilled_not_mem_close _ _ _)

theorem kills_of_spawn
    (hopen : m.openLog workDir = .ok (log, files))
    (hspawn : script.spawn = none) :
    (executeWithin limit m c workDir redactions timeout script).1.kills =
      (RunState.after (m.terms limit timeout script)
        (RunState.played (m.terms limit timeout script) script.events)).kills.map Prod.snd := by
  rw [executeWithin_of_spawn _ _ _ _ hopen hspawn]

/-- A child that finishes is not killed, and its exit is the result. -/
theorem report_of_completes {past : List Event}
    (hopen : m.openLog workDir = .ok (log, files))
    (hspawn : script.spawn = none)
    (hpast : past <+: RunState.played (m.terms limit timeout script) script.events)
    (h : Completes (dueAt timeout) past) :
    (executeWithin limit m c workDir redactions timeout script).1.kills = [] ∧
      ∃ r, (executeWithin limit m c workDir redactions timeout script).1.result = .ok r ∧
        exitCode? past = some r.exitCode := by
  obtain ⟨code, hcode, hstage, hkills, -⟩ :=
    RunState.after_played_of_completes (t := m.terms limit timeout script) hpast h
  rw [kills_of_spawn _ _ _ _ hopen hspawn, hkills, result_of_over _ _ _ _ hopen hspawn hstage]
  exact ⟨rfl, _, rfl, hcode⟩

/-- What is made of the output once the wait for it is ended is what was made of it before. -/
theorem recordOf_of_stops {t : Terms} {past : List Event} {cause : Cause} {moment : Rat}
    (hd : ∀ d ∈ t.deadline, 0 ≤ d) (hstops : Stops t.deadline past cause moment) (h : Handling)
    (log : BuildLog) (files : Filesystem) (later : List Event) :
    (h.recordOf log files (RunState.heard t (past ++ later))).kept =
        (h.recordOf log files (RunState.heard t past.dropLast)).kept ∧
      (h.recordOf log files (RunState.heard t (past ++ later))).shown =
        (h.recordOf log files (RunState.heard t past.dropLast)).shown ∧
      (h.recordOf log files (RunState.heard t (past ++ later))).log =
        (h.recordOf log files (RunState.heard t past.dropLast)).log ∧
      (h.recordOf log files (RunState.heard t (past ++ later))).files =
        (h.recordOf log files (RunState.heard t past.dropLast)).files := by
  obtain ⟨-, -, hlines, -⟩ := RunState.follow_of_stops hd hstops later
  exact h.recordOf_congr (hlines.trans (RunState.linesAmong_heard_dropLast hstops).symm)

section Stopped

variable {past rest : List Event} {cause : Cause} {moment : Rat}
  (hopen : m.openLog workDir = .ok (log, files))
  (hspawn : script.spawn = none)
  (hlife : past ++ rest = RunState.played (m.terms limit timeout script) script.events)
  (hstops : Stops (dueAt timeout) past cause moment)
include hopen hspawn hlife hstops

theorem kills_of_stops :
    (RunState.after (m.terms limit timeout script)
        (RunState.played (m.terms limit timeout script) script.events)).kills =
        (killsAsked m.posix past).map (moment, ·) ∧
      (executeWithin limit m c workDir redactions timeout script).1.kills =
        killsAsked m.posix past := by
  obtain ⟨part, last, since, warned, -, hrests, -⟩ :=
    RunState.after_played_of_stops (t := m.terms limit timeout script) (dueAt_nonneg timeout) hlife
      hstops
  refine ⟨hrests.kills, ?_⟩
  rw [kills_of_spawn _ _ _ _ hopen hspawn, hrests.kills, List.map_map]
  exact List.map_id _

/-- The report of a run that is stopped tells a cancellation if there was one, and the timeout
otherwise. -/
theorem result_of_stops :
    (Recalled script.kill cause moment past rest →
      (executeWithin limit m c workDir redactions timeout script).1.result = .error .cancelled) ∧
    (¬Recalled script.kill cause moment past rest → ∃ n, timeout = some n ∧
      (executeWithin limit m c workDir redactions timeout script).1.result =
        .error (.runner (.timedOut (if n.isZero then .double (.ofInt 0) else n)))) := by
  obtain ⟨part, last, since, warned, hpart, hrests, -⟩ :=
    RunState.after_played_of_stops (t := m.terms limit timeout script) (dueAt_nonneg timeout) hlife
      hstops
  have hcancelled := hrests.reaped.last_eq_cancellation_iff hpart
  rw [result_of_over _ _ _ _ hopen hspawn hrests.stage, resultOf_stopped]
  refine ⟨fun hrecalled => ?_, fun hrecalled => ?_⟩
  · rw [if_pos (hcancelled.2 hrecalled)]
  · rw [if_neg (mt hcancelled.1 hrecalled)]
    cases hstops with
    | timeout huntil hdeadline hdue =>
        cases timeout with
        | none => simp [dueAt] at hdeadline
        | some n => exact ⟨n, rfl, rfl⟩
    | cancellation huntil hlast => exact absurd (.inl rfl) hrecalled

theorem end_of_stops :
    (∃ last since, (RunState.after (m.terms limit timeout script)
        (RunState.played (m.terms limit timeout script) script.events)).stage =
          .over (.stopped last) since ∧
      since ≤ moment + killGrace) ∧
    (RunState.unkilled ∈ (executeWithin limit m c workDir redactions timeout script).1.notes ↔
      Outlives script.kill moment past rest) := by
  obtain ⟨part, last, since, warned, hpart, hrests, -, hwarned⟩ :=
    RunState.after_played_of_stops (t := m.terms limit timeout script) (dueAt_nonneg timeout) hlife
      hstops
  refine ⟨⟨last, since, hrests.stage, hrests.reaped.since_le⟩, ?_⟩
  rw [unkilled_mem_notes_iff _ _ _ _ hopen hspawn, hwarned]
  exact hrests.reaped.warned_iff hpart

theorem sinks_of_stops :
    let terms := m.terms limit timeout script
    let record (events : List Event) :=
      ((Progress.outset terms log files).after terms (m.handling redactions) events).record
    (∀ later, (record (past ++ later)).kept = (record past.dropLast).kept ∧
      (record (past ++ later)).shown = (record past.dropLast).shown ∧
      (record (past ++ later)).log = (record past.dropLast).log ∧
      (record (past ++ later)).files = (record past.dropLast).files) ∧
    (executeWithin limit m c workDir redactions timeout script).1.steps.flatten =
      (record past.dropLast).shown ∧
    (executeWithin limit m c workDir redactions timeout script).2 =
      ((record past.dropLast).close (m.handling redactions)).1 := by
  intro terms record
  have hrecord (events : List Event) : record events =
      (m.handling redactions).recordOf log files (RunState.heard terms events) := by
    simp only [record, Progress.outset_after]
  have hfrozen := recordOf_of_stops (t := terms) (dueAt_nonneg timeout) hstops (m.handling redactions)
    log files
  obtain ⟨hshown, hfiles⟩ := sinks_of_spawn limit c redactions timeout hopen hspawn
  obtain ⟨-, hrestShown, hrestLog, hrestFiles⟩ := hfrozen rest
  rw [hlife] at hrestShown hrestLog hrestFiles
  refine ⟨fun later => ?_, ?_, ?_⟩
  · rw [hrecord, hrecord]
    exact hfrozen later
  · rw [hrecord]
    exact hshown.trans hrestShown
  · rw [hrecord]
    exact hfiles.trans (Record.close_files _ _ hrestLog hrestFiles)

end Stopped

theorem length_killsAsked_le (posix : Bool) (past : List Event) :
    (killsAsked posix past).length ≤ 1 := by
  unfold killsAsked
  split
  · exact le_refl 1
  · split <;> simp

theorem kills_cases (limit : Nat) (m : Machine) (c : Command) (workDir : Path) (redactions : Pairs)
    (timeout : Option Number) (script : Script) :
    (executeWithin limit m c workDir redactions timeout script).1.kills = [] ∨
      (executeWithin limit m c workDir redactions timeout script).1.kills.length ≤ 1 ∧
        (script.spawn = none ∧
          (executeWithin limit m c workDir redactions timeout script).1.spawned ≠ []) ∧
        ∃ failure, (executeWithin limit m c workDir redactions timeout script).1.result =
          .error failure := by
  rcases idle_or_spawned limit c redactions timeout with ⟨-, -, hkills, -⟩ | ⟨log, files, hopen, hspawn⟩
  · exact .inl hkills
  · obtain ⟨⟨past, ⟨rest, hlife⟩, hcompletes | ⟨cause, moment, hstops⟩⟩, -⟩ :=
      RunState.played_over (t := m.terms limit timeout script) (dueAt_nonneg timeout) script.events
    · exact .inl (report_of_completes _ _ _ _ hopen hspawn ⟨rest, hlife⟩ hcompletes).1
    · obtain ⟨hrecalled, hnot⟩ := result_of_stops limit c redactions timeout hopen hspawn hlife hstops
      refine .inr ⟨?_, ⟨hspawn, ?_⟩, ?_⟩
      · rw [(kills_of_stops _ _ _ _ hopen hspawn hlife hstops).2]
        exact length_killsAsked_le _ _
      · rw [executeWithin_of_spawn _ _ _ _ hopen hspawn]
        simp
      · by_cases h : Recalled script.kill cause moment past rest
        · exact ⟨_, hrecalled h⟩
        · obtain ⟨n, -, hresult⟩ := hnot h
          exact ⟨_, hresult⟩

/-- How a run ends, whatever its child does: it is finished, or stopped by the timeout or a
cancellation, and then the child is killed once, the run is over in time, and nothing is handled any
more. -/
theorem run_ends (limit : Nat) (m : Machine) (c : Command) (workDir : Path) (redactions : Pairs)
    (timeout : Option Number) (script : Script) :
    let terms := m.terms limit timeout script
    let life := RunState.played terms script.events
    let final := RunState.after terms life
    let report := executeWithin limit m c workDir redactions timeout script
    report.1.kills.length ≤ 1 ∧
    (∀ r, report.1.result = .ok r → report.1.kills = []) ∧
    (script.spawn ≠ none ∨ report.1.spawned = [] → report.1.kills = []) ∧
    ∀ log files, m.openLog workDir = .ok (log, files) →
      script.spawn = none →
      let record (events : List Event) :=
        ((Progress.outset terms log files).after terms (m.handling redactions) events).record
      (∃ past rest, past ++ rest = life ∧
        (Completes (dueAt timeout) past ∨ ∃ cause moment, Stops (dueAt timeout) past cause moment)) ∧
      (∀ past rest, past ++ rest = life → Completes (dueAt timeout) past →
        report.1.kills = [] ∧ ∃ r, report.1.result = .ok r ∧ exitCode? past = some r.exitCode) ∧
      ∀ past rest cause moment, past ++ rest = life → Stops (dueAt timeout) past cause moment →
        (final.kills = (killsAsked m.posix past).map (moment, ·) ∧
          report.1.kills = killsAsked m.posix past) ∧
        ((Recalled script.kill cause moment past rest → report.1.result = .error .cancelled) ∧
          (¬Recalled script.kill cause moment past rest → ∃ n, timeout = some n ∧
            report.1.result =
              .error (.runner (.timedOut (if n.isZero then .double (.ofInt 0) else n))))) ∧
        ((∃ last since, final.stage = .over (.stopped last) since ∧ since ≤ moment + killGrace) ∧
          (RunState.unkilled ∈ report.1.notes ↔ Outlives script.kill moment past rest)) ∧
        (∀ later, (record (past ++ later)).kept = (record past.dropLast).kept ∧
          (record (past ++ later)).shown = (record past.dropLast).shown ∧
          (record (past ++ later)).log = (record past.dropLast).log ∧
          (record (past ++ later)).files = (record past.dropLast).files) ∧
        report.1.steps.flatten = (record past.dropLast).shown ∧
        report.2 = ((record past.dropLast).close (m.handling redactions)).1 := by
  intro terms life final report
  have hkills := kills_cases limit m c workDir redactions timeout script
  refine ⟨?_, fun r hr => ?_, fun hunspawned => ?_, ?_⟩
  · rcases hkills with hnone | ⟨hle, -⟩
    · simp [report, hnone]
    · exact hle
  · rcases hkills with hnone | ⟨-, -, failure, hfailure⟩
    · exact hnone
    · exact absurd (hr.symm.trans hfailure) (by simp)
  · rcases hkills with hnone | ⟨-, ⟨hspawn, hspawned⟩, -⟩
    · exact hnone
    · exact absurd hunspawned (not_or.2 ⟨not_not.2 hspawn, hspawned⟩)
  · intro log files hopen hspawn record
    refine ⟨?_, ?_, ?_⟩
    · obtain ⟨⟨past, ⟨rest, hlife⟩, hend⟩, -⟩ :=
        RunState.played_over (t := terms) (dueAt_nonneg timeout) script.events
      exact ⟨past, rest, hlife, hend⟩
    · intro past rest hlife hcompletes
      exact report_of_completes _ _ _ _ hopen hspawn ⟨rest, hlife⟩ hcompletes
    · intro past rest cause moment hlife hstops
      exact ⟨kills_of_stops _ _ _ _ hopen hspawn hlife hstops,
        result_of_stops _ _ _ _ hopen hspawn hlife hstops,
        end_of_stops _ _ _ _ hopen hspawn hlife hstops,
        sinks_of_stops _ _ _ _ hopen hspawn hlife hstops⟩

end Report

def Script.recalled : Script :=
  ⟨[.bytes .out [0x61, 0x0A], .sleeps 2, .bytes .out [0x62, 0x0A], .cancels], .notPermitted, none⟩

theorem run_ends_recalled :
    Stops (dueAt (some (.whole 1))) (Script.recalled.events.take 2) .timeout 1 ∧
      Lingers .notPermitted 1 (Script.recalled.events.take 2) [.bytes .out [0x62, 0x0A]] ∧
      (executeWithin 1 .bare .bare (.ofString "/") .empty (some (.whole 1)) .recalled).1.result =
        .error .cancelled ∧
      (executeWithin 1 .bare .bare (.ofString "/") .empty (some (.whole 1)) .recalled).1.kills =
        [.group] := by
  have hwaiting : Waiting (dueAt (some (.whole 1))) [.bytes .out [0x61, 0x0A]] := by decide +kernel
  have hstops : Stops (dueAt (some (.whole 1)))
      ([.bytes .out [0x61, 0x0A]] ++ [.sleeps 2]) .timeout 1 :=
    .timeout (until_waiting_concat.2 hwaiting) rfl (by decide +kernel)
  have hnone : Lingers .notPermitted 1 [.bytes .out [0x61, 0x0A], .sleeps 2] [] :=
    lingers_nil_iff.2 ⟨⟨by decide, by decide⟩, by decide +kernel⟩
  have hlingers : Lingers .notPermitted 1 [.bytes .out [0x61, 0x0A], .sleeps 2]
      ([] ++ [.bytes .out [0x62, 0x0A]]) :=
    lingers_concat_iff.2 ⟨hnone, rfl, by decide +kernel, by decide⟩
  obtain ⟨⟨log, files⟩, hopen⟩ := Machine.bare_opens
  obtain ⟨-, -, -, hspawned⟩ := run_ends 1 .bare .bare (.ofString "/") .empty
    (some (.whole 1)) .recalled
  obtain ⟨-, -, hstopped⟩ := hspawned log files hopen rfl
  obtain ⟨⟨-, hkills⟩, ⟨hrecalled, -⟩, -⟩ :=
    hstopped _ ([.bytes .out [0x62, 0x0A], .cancels] ++ _) _ _ rfl hstops
  exact ⟨hstops, hlingers, hrecalled (.inr ⟨_, List.prefix_append _ _, hlingers⟩), hkills⟩

end Workcell
