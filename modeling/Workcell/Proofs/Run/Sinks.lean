import Workcell.Proofs.Run.Capture

namespace Workcell

open History

inductive Interleaves {α : Type} : List α → List α → List α → Prop
  | nil : Interleaves [] [] []
  | left {a b l : List α} (x : α) : Interleaves a b l → Interleaves (x :: a) b (x :: l)
  | right {a b l : List α} (x : α) : Interleaves a b l → Interleaves a (x :: b) (x :: l)

theorem interleaves_onChannel {α β : Type} (f : α → β) (lines : List (Channel × α)) :
    Interleaves ((onChannel .out lines).map f) ((onChannel .err lines).map f)
      (lines.map fun p => f p.2) := by
  induction lines with
  | nil => exact .nil
  | cons p lines ih =>
      obtain ⟨c, a⟩ := p
      cases c with
      | out => exact .left (f a) ih
      | err => exact .right (f a) ih

namespace History

variable {deadline : Option Rat} {past events pauses : List Event}

theorem Completes.prefix_of_silent (h : Completes deadline past) (hpast : past <+: events ++ pauses)
    (hpauses : ∀ e ∈ pauses, e.IsSilent) : past <+: events := by
  rcases List.prefix_or_prefix_of_prefix hpast (List.prefix_append events pauses) with hin | ⟨more, rfl⟩
  · exact hin
  · cases more using List.reverseRecOn with
    | nil => rw [List.append_nil]
    | append_singleton more e =>
        have hmore := (List.prefix_append_right_inj events).1 hpast
        have hwaiting := until_waiting_concat.1 (List.append_assoc events more [e] ▸ h.waiting)
        have hbefore := hwaiting.unfinished _ (List.prefix_refl _)
        have hfinished := h.finished
        rw [← List.append_assoc] at hfinished
        rw [finished_concat_of_silent (hpauses e (hmore.subset List.mem_concat_self))] at hfinished
        exact absurd hfinished (Bool.eq_false_iff.1 hbefore)

end History

section Report

variable {limit : Nat} {m : Machine} {c : Command} {workDir : Path} {redactions : Pairs}
  {timeout : Option Number} {script : Script} {log : BuildLog} {files : Filesystem}

theorem completes_of_result {record : Record} {r : Result}
    (hr : resultOf timeout record ((RunState.after (m.terms limit timeout script)
      (RunState.played (m.terms limit timeout script) script.events)).ending?.getD
        (.stopped .cancellation)) = .ok r) :
    ∃ past, past <+: script.events ∧ Completes (dueAt timeout) past := by
  obtain ⟨⟨past, hpast, hcompletes | ⟨cause, moment, hstops⟩⟩, -⟩ :=
    RunState.played_over (t := m.terms limit timeout script) (dueAt_nonneg timeout) script.events
  · exact ⟨past, hcompletes.prefix_of_silent hpast (RunState.silent_of_mem_remainder _ _), hcompletes⟩
  · obtain ⟨rest, hlife⟩ := hpast
    obtain ⟨part, last, since, warned, -, hrests, -⟩ :=
      RunState.after_played_of_stops (t := m.terms limit timeout script) (dueAt_nonneg timeout)
        hlife hstops
    simp only [RunState.ending?, hrests.stage, Option.getD_some] at hr
    cases last <;> simp [resultOf] at hr

/-- A build log has taken up some lines after what its file held: the first of them stand in the file, and the rest
waits in the buffer of the file, which is open. -/
def Record.Logged (r : Record) (base : Place) (path : Path) (buffer : Nat) (old : List UInt8)
    (lines : List String) : Prop :=
  ∃ handle written waiting, r.log.handle = some handle ∧ written ++ waiting = lines ∧
    r.files.contentAt base path = some (old ++ written.flatMap BuildLog.lineBytes) ∧
    handle.waiting = waiting.flatMap BuildLog.lineBytes ∧ handle.waiting.length ≤ buffer

theorem logged_recordOf (hopen : m.openLog workDir = .ok (log, files))
    (hfaults : m.logFaults.writes = []) (occurrences : List Occurrence) :
    ((m.handling redactions).recordOf log files occurrences).Logged m.base (workDir.child logName)
      m.logBuffer ((m.files.contentAt m.base (workDir.child logName)).getD [])
      ((linesAmong occurrences).map fun p => (m.handling redactions).textOf p.2) := by
  have hnone : (m.handling redactions).faults.writes = [] := hfaults
  obtain ⟨place, hlocate, hlog⟩ := BuildLog.open_of_enter hopen
  obtain ⟨tried, hrecord⟩ := (m.handling redactions).open_recordOf occurrences hlog
  obtain ⟨handle, written, waiting, hhandle, rfl, hbuffer, -, hlines, htaken⟩ := hrecord.takes
  rw [BuildLog.survivors_of_no_faults hnone] at hlines
  exact ⟨handle, written, waiting, hhandle, hlines, htaken.gains.contentAt hlocate, htaken.waits,
    hbuffer ▸ htaken.fits⟩

section Spawned

variable (hopen : m.openLog workDir = .ok (log, files))
  (hspawn : script.spawn = none)
include hopen hspawn

/-- What is shown and what stands in the build log after the first events are the lines that become
known in them. -/
theorem sinks_take (hfaults : m.logFaults.writes = []) {k : Nat} {lines : List (Channel × List UInt8)}
    (hlines : linesAmong (RunState.heard (m.terms limit timeout script) (script.events.take k)) =
      lines) :
    ((executeWithin limit m c workDir redactions timeout script).1.steps.take k).flatten =
        lines.map (fun p => (m.handling redactions).textOf p.2) ∧
      ((Progress.outset (m.terms limit timeout script) log files).after (m.terms limit timeout script)
          (m.handling redactions) (script.events.take k)).record.Logged m.base (workDir.child logName)
        m.logBuffer ((m.files.contentAt m.base (workDir.child logName)).getD [])
        (lines.map fun p => (m.handling redactions).textOf p.2) := by
  subst hlines
  refine ⟨?_, ?_⟩
  · rw [executeWithin_of_spawn _ _ _ _ hopen hspawn]
    exact Progress.outset_steps_take ..
  · rw [Progress.outset_after]
    exact logged_recordOf hopen hfaults _

theorem result_interleaves {r : Result}
    (hr : (executeWithin limit m c workDir redactions timeout script).1.result = .ok r) :
    r.stdout = String.join
        (((linesOn .out script.events).map (m.handling redactions).textOf).map (· ++ "\n")) ∧
      r.stderr = String.join
        (((linesOn .err script.events).map (m.handling redactions).textOf).map (· ++ "\n")) ∧
      Interleaves ((linesOn .out script.events).map (m.handling redactions).textOf)
        ((linesOn .err script.events).map (m.handling redactions).textOf)
        (executeWithin limit m c workDir redactions timeout script).1.steps.flatten := by
  have hshown := (sinks_of_spawn limit c redactions timeout hopen hspawn).1
  rw [executeWithin_of_spawn _ _ _ _ hopen hspawn] at hr
  obtain ⟨past, hpast, hcompletes⟩ := completes_of_result hr
  obtain ⟨hout, herr⟩ := captured_of_resultOf timeout hr
  obtain ⟨hlinesOn, -⟩ := linesOn_of_finished hcompletes.finished hpast
  have hlife : past <+: RunState.played (m.terms limit timeout script) script.events :=
    hpast.trans (List.prefix_append _ _)
  obtain ⟨-, -, -, -, hlines, -⟩ :=
    RunState.after_played_of_completes (t := m.terms limit timeout script) hlife hcompletes
  -- the events after `past` belong to a run that is over, so they add no line to either pipe
  have hchannel (channel : Channel) : onChannel channel (completed past) =
      linesOn channel script.events := by
    rw [onChannel_completed, hlinesOn]
  rw [Handling.recordOf_captured, hlines, hchannel] at hout herr
  rw [Handling.recordOf_shown, hlines] at hshown
  refine ⟨hout, herr, ?_⟩
  rw [hshown, ← hchannel .out, ← hchannel .err]
  exact interleaves_onChannel _ _

end Spawned

/-- The build log of a command holds what stood there before, and after it what was shown, up to lines that are lost
when the log is closed. -/
theorem content_eq_shown (limit : Nat) (c : Command) (workDir : Path) (redactions : Pairs)
    (timeout : Option Number) (script : Script) (hfaults : m.logFaults.writes = []) :
    ∃ written waiting, written ++ waiting =
        (executeWithin limit m c workDir redactions timeout script).1.steps.flatten ∧
      (waiting.flatMap BuildLog.lineBytes).length ≤ m.logBuffer ∧
      ((executeWithin limit m c workDir redactions timeout script).2.contentAt m.base
          (workDir.child logName)).getD [] =
        (m.files.contentAt m.base (workDir.child logName)).getD [] ++
          (written ++ if m.logFaults.losesAtClosing then [] else waiting).flatMap BuildLog.lineBytes := by
  rcases idle_or_spawned limit c redactions timeout with
    ⟨-, hsteps, -, hcontent⟩ | ⟨log, files, hopen, -⟩
  · refine ⟨[], [], hsteps ▸ rfl, Nat.zero_le _, ?_⟩
    rw [hcontent, ite_self]
    exact (List.append_nil _).symm
  · obtain ⟨place, written, waiting, hlocate, hlines, hfits, hgains⟩ :=
      gains_of_opened limit c redactions timeout hopen
    rw [BuildLog.survivors_of_no_faults hfaults] at hlines
    exact ⟨written, waiting, hlines, hfits, congrArg (·.getD []) (hgains.contentAt hlocate)⟩

/-- The three places at which lines arrive agree, at every time and in the end. -/
theorem sinks_agree (limit : Nat) (m : Machine) (c : Command) (workDir : Path) (redactions : Pairs)
    (timeout : Option Number) (script : Script) (hfaults : m.logFaults.writes = []) :
    let terms := m.terms limit timeout script
    let handling := m.handling redactions
    let report := executeWithin limit m c workDir redactions timeout script
    let told (past : List Event) := (completed past).map fun p => handling.textOf p.2
    let old := (m.files.contentAt m.base (workDir.child logName)).getD []
    (∀ log files, m.openLog workDir = .ok (log, files) → script.spawn = none →
      let loggedAfter (k : Nat) := ((Progress.outset terms log files).after terms handling
        (script.events.take k)).record.Logged m.base (workDir.child logName) m.logBuffer old
      (∀ k, (RunState.after terms (script.events.take k)).stage = .watching →
        (report.1.steps.take k).flatten = told (script.events.take k) ∧
        loggedAfter k (told (script.events.take k))) ∧
      ∀ k past cause moment, past <+: script.events.take k → Stops (dueAt timeout) past cause moment →
        (report.1.steps.take k).flatten = told past ∧ loggedAfter k (told past)) ∧
    (∀ r, report.1.result = .ok r →
      let lines (channel : Channel) := (linesOn channel script.events).map handling.textOf
      r.stdout = String.join ((lines .out).map (· ++ "\n")) ∧
      r.stderr = String.join ((lines .err).map (· ++ "\n")) ∧
      Interleaves (lines .out) (lines .err) report.1.steps.flatten) ∧
    ∃ written waiting, written ++ waiting = report.1.steps.flatten ∧
      (waiting.flatMap BuildLog.lineBytes).length ≤ m.logBuffer ∧
      (report.2.contentAt m.base (workDir.child logName)).getD [] =
        old ++ (written ++ if m.logFaults.losesAtClosing then [] else waiting).flatMap BuildLog.lineBytes := by
  intro terms handling report told old
  refine ⟨?_, ?_, content_eq_shown limit c workDir redactions timeout script hfaults⟩
  · intro log files hopen hspawn loggedAfter
    refine ⟨?_, ?_⟩
    · intro k hwatching
      have hwaiting := (RunState.stage_eq_watching_iff (t := terms) (dueAt_nonneg timeout)).1 hwatching
      obtain ⟨-, hlines, -⟩ := RunState.follow_of_waiting hwaiting
      exact sinks_take hopen hspawn hfaults hlines
    · intro k past cause moment hpast hstops
      obtain ⟨later, hlater⟩ := hpast
      obtain ⟨-, -, hlines, -⟩ := RunState.follow_of_stops (t := terms)
        (dueAt_nonneg timeout) hstops later
      rw [hlater] at hlines
      exact sinks_take hopen hspawn hfaults hlines
  · intro r hr
    rcases idle_or_spawned limit c redactions timeout with
      ⟨⟨failure, hfailure⟩, -⟩ | ⟨log, files, hopen, hspawn⟩
    · exact absurd (hr.symm.trans hfailure) (by simp)
    · exact result_interleaves hopen hspawn hr

end Report

def Script.outlived : Script :=
  ⟨[.bytes .out [0x61, 0x0A, 0x62], .bytes .err [0x65, 0x0A], .sleeps 2, .bytes .out [0x0A]],
    .noSuchProcess, none⟩

theorem sinks_agree_outlived :
    (RunState.after (Machine.bare.terms 1 (some (.whole 1)) .outlived)
      (Script.outlived.events.take 2)).stage =
        .watching ∧
      Stops (dueAt (some (.whole 1))) (Script.outlived.events.take 3) .timeout 1 ∧
      ((executeWithin 1 .bare .bare (.ofString "/") (.ofList [("a", "-")]) (some (.whole 1))
        .outlived).1.steps.take 2).flatten = ["-", "e"] ∧
      ((executeWithin 1 .bare .bare (.ofString "/") (.ofList [("a", "-")]) (some (.whole 1))
        .outlived).1.steps.take 4).flatten = ["-", "e"] := by
  have hwaiting : Waiting (dueAt (some (.whole 1))) (Script.outlived.events.take 2) := by decide +kernel
  have hstops : Stops (dueAt (some (.whole 1)))
      (Script.outlived.events.take 2 ++ [.sleeps 2]) .timeout 1 :=
    .timeout (until_waiting_concat.2 hwaiting) rfl (by decide +kernel)
  have hwatching := (RunState.follow_of_waiting
    (t := Machine.bare.terms 1 (some (.whole 1)) .outlived) hwaiting).1.stage
  obtain ⟨⟨log, files⟩, hopen⟩ := Machine.bare_opens
  obtain ⟨hspawned, -⟩ := sinks_agree 1 .bare .bare (.ofString "/") (.ofList [("a", "-")])
    (some (.whole 1)) .outlived rfl
  obtain ⟨htimely, hafter⟩ := hspawned log files hopen rfl
  have hpast : Script.outlived.events.take 2 ++ [.sleeps 2] <+: Script.outlived.events.take 4 :=
    ⟨[.bytes .out [0x0A]], rfl⟩
  refine ⟨hwatching, hstops, (htimely 2 hwatching).1.trans ?_, (hafter 4 _ _ _ hpast hstops).1.trans ?_⟩
  · decide +kernel
  · decide +kernel

def Script.belated : Script := ⟨[.sleeps 2, .bytes .out [0x78, 0x0A]], .notPermitted, none⟩

/-- A line that comes after the kill is not shown, although the run is not over when it comes. -/
theorem not_shown_after_kill :
    (RunState.after (Machine.bare.terms lineLimit (some (.whole 1)) .belated)
        Script.belated.events).ending? = none ∧
      Machine.bare.logFaults.writes = [] ∧
      ((executeWithin lineLimit .bare .bare (.ofString "/") .empty (some (.whole 1))
        .belated).1.steps.take 2).flatten ≠
        (completed (Script.belated.events.take 2)).map fun p =>
          (Machine.bare.handling .empty).textOf p.2 := by
  obtain ⟨⟨log, files⟩, hopen⟩ := Machine.bare_opens
  refine ⟨by decide +kernel, rfl, ?_⟩
  rw [executeWithin_of_spawn _ _ _ _ hopen rfl]
  simp only [Progress.outset_steps_take]
  decide +kernel

end Workcell
