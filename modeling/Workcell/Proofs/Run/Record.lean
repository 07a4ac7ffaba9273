import Workcell.Proofs.BuildLog
import Workcell.Proofs.Run.Reap
import Workcell.Run.Execute
import Mathlib.Data.List.TakeWhile

namespace Workcell

open History

def Handling.textOf (h : Handling) (bytes : List UInt8) : String :=
  redact h.replacements (Line.text bytes)

namespace Record

variable (h : Handling) (r : Record) (occurrences : List Occurrence)

theorem kept_foldl (c : Channel) : (occurrences.foldl (absorb h) r).kept.get c =
    r.kept.get c ++ (onChannel c (linesAmong occurrences)).map h.textOf := by
  induction occurrences generalizing r with
  | nil => simp [linesAmong, onChannel]
  | cons o occurrences ih =>
      rw [List.foldl_cons, ih, ← List.singleton_append, linesAmong_append, onChannel_append]
      cases o with
      | note n => simp [absorb, linesAmong, Occurrence.line?, onChannel]
      | line d bytes =>
          by_cases hd : d = c
          · subst hd
            simp [absorb, add, linesAmong, Occurrence.line?, onChannel, Handling.textOf]
          · simp [absorb, add, linesAmong, Occurrence.line?, onChannel, hd,
              PerChannel.get_set_of_ne _ (Ne.symm hd)]

theorem shown_foldl : (occurrences.foldl (absorb h) r).shown =
    r.shown ++ (linesAmong occurrences).map fun p => h.textOf p.2 := by
  induction occurrences generalizing r with
  | nil => simp [linesAmong]
  | cons o occurrences ih =>
      rw [List.foldl_cons, ih, ← List.singleton_append, linesAmong_append]
      cases o <;> simp [absorb, add, linesAmong, Occurrence.line?, Handling.textOf]

theorem written_foldl :
    ((occurrences.foldl (absorb h) r).log, (occurrences.foldl (absorb h) r).files) =
      r.log.writeAll h.faults r.files ((linesAmong occurrences).map fun p => h.textOf p.2) := by
  induction occurrences generalizing r with
  | nil => rfl
  | cons o occurrences ih =>
      rw [List.foldl_cons, ih, ← List.singleton_append, linesAmong_append]
      cases o <;> rfl

theorem mem_notes_foldl {n : Note} (hn : n ≠ BuildLog.writeFailure) :
    n ∈ (occurrences.foldl (absorb h) r).notes ↔ n ∈ r.notes ∨ Occurrence.note n ∈ occurrences := by
  induction occurrences generalizing r with
  | nil => simp
  | cons o occurrences ih =>
      rw [List.foldl_cons, ih]
      cases o with
      | note k => simp [absorb, or_assoc]
      | line c bytes =>
          have hwrite :
              n ∉ (r.log.write h.faults r.files (redact h.replacements (Line.text bytes))).2.2 :=
            fun hmem => hn (BuildLog.eq_writeFailure_of_mem_write hmem)
          simp [absorb, add, hwrite]

theorem close_files {r' : Record} (hlog : r.log = r'.log) (hfiles : r.files = r'.files) :
    (r.close h).1 = (r'.close h).1 := by
  rw [close, close, hlog, hfiles]

end Record

def Handling.recordOf (h : Handling) (log : BuildLog) (files : Filesystem)
    (occurrences : List Occurrence) :
    Record :=
  occurrences.foldl (Record.absorb h) (.blank log files)

namespace Handling

variable (h : Handling) {log : BuildLog} {files fs : Filesystem} (occurrences : List Occurrence)

theorem recordOf_captured (c : Channel) : (h.recordOf log files occurrences).captured c =
    String.join (((onChannel c (linesAmong occurrences)).map h.textOf).map (· ++ "\n")) := by
  rw [Record.captured, recordOf, Record.kept_foldl]
  cases c <;> rfl

theorem recordOf_shown : (h.recordOf log files occurrences).shown =
    (linesAmong occurrences).map fun p => h.textOf p.2 := by
  rw [recordOf, Record.shown_foldl]
  rfl

theorem mem_recordOf_notes {n : Note} (hn : n ≠ BuildLog.writeFailure) :
    n ∈ (h.recordOf log files occurrences).notes ↔ Occurrence.note n ∈ occurrences := by
  rw [recordOf, Record.mem_notes_foldl h _ _ hn]
  simp [Record.blank]

theorem recordOf_written : ((h.recordOf log files occurrences).log, (h.recordOf log files occurrences).files) =
    log.writeAll h.faults files ((linesAmong occurrences).map fun p => h.textOf p.2) :=
  Record.written_foldl h (.blank log files) occurrences

/-- What becomes of the output depends only on the lines among what becomes known. -/
theorem recordOf_congr {a b : List Occurrence} (hlines : linesAmong a = linesAmong b) :
    (h.recordOf log files a).kept = (h.recordOf log files b).kept ∧
      (h.recordOf log files a).shown = (h.recordOf log files b).shown ∧
      (h.recordOf log files a).log = (h.recordOf log files b).log ∧
      (h.recordOf log files a).files = (h.recordOf log files b).files := by
  have hkept (c : Channel) : (h.recordOf log files a).kept.get c =
      (h.recordOf log files b).kept.get c := by
    rw [recordOf, recordOf, Record.kept_foldl, Record.kept_foldl, hlines]
  have hwritten : ((h.recordOf log files a).log, (h.recordOf log files a).files) =
      ((h.recordOf log files b).log, (h.recordOf log files b).files) := by
    rw [recordOf_written, recordOf_written, hlines]
  refine ⟨PerChannel.ext (hkept .out) (hkept .err), ?_, congrArg Prod.fst hwritten,
    congrArg Prod.snd hwritten⟩
  rw [recordOf_shown, recordOf_shown, hlines]

/-- The build log takes up the lines that became known, without those whose writes failed. -/
theorem open_recordOf {place : Place} {buffer : Nat} (hopen : log.Open fs place buffer 0 [] files) :
    ∃ tried, (h.recordOf log files occurrences).log.Open fs place buffer tried
      (BuildLog.survivors h.faults 0 ((linesAmong occurrences).map fun p => h.textOf p.2))
      (h.recordOf log files occurrences).files := by
  have htaken := hopen.writeAll h.faults ((linesAmong occurrences).map fun p => h.textOf p.2)
  rw [← h.recordOf_written occurrences] at htaken
  exact ⟨_, htaken⟩

end Handling

namespace Progress

variable (t : Terms) (h : Handling) (p : Progress) (events : List Event)

theorem after_append (a b : List Event) : p.after t h (a ++ b) = (p.after t h a).after t h b :=
  List.foldl_append ..

/-- A run under way is the state of the child, and what was made of all that became known. -/
theorem after_eq : p.after t h events =
    ⟨(p.state.follow t events).1, (p.state.follow t events).2.foldl (Record.absorb h) p.record⟩ := by
  induction events generalizing p with
  | nil => rfl
  | cons e events ih =>
      rw [after, List.foldl_cons, ← after, ih]
      simp [advance, RunState.follow]

theorem steps_append (a b : List Event) :
    p.steps t h (a ++ b) = p.steps t h a ++ (p.after t h a).steps t h b := by
  induction a generalizing p with
  | nil => rfl
  | cons e a ih => simp [steps, ih, after]

theorem length_steps : (p.steps t h events).length = events.length := by
  induction events generalizing p with
  | nil => rfl
  | cons e events ih => simp [steps, ih]

theorem shown_after :
    (p.after t h events).record.shown = p.record.shown ++ (p.steps t h events).flatten := by
  induction events generalizing p with
  | nil => simp [after, steps]
  | cons e events ih =>
      have hshown : ∃ more, (p.advance t h e).record.shown = p.record.shown ++ more :=
        ⟨_, Record.shown_foldl h p.record _⟩
      obtain ⟨more, hmore⟩ := hshown
      rw [after, List.foldl_cons, ← after, ih, steps]
      simp [hmore]

theorem shown_after_take (k : Nat) : (p.after t h (events.take k)).record.shown =
    p.record.shown ++ ((p.steps t h events).take k).flatten := by
  have hsteps : (p.steps t h events).take k = p.steps t h (events.take k) := by
    conv_lhs => rw [← List.take_append_drop k events, steps_append]
    by_cases hk : k ≤ events.length
    · rw [List.take_left' (by rw [length_steps, List.length_take, min_eq_left hk])]
    · have hk' := le_of_lt (not_le.1 hk)
      rw [List.take_of_length_le hk', List.drop_of_length_le hk', steps, List.append_nil,
        List.take_of_length_le (by rwa [length_steps])]
  rw [shown_after, hsteps]

end Progress

theorem flatten_take_withoutTrailingEmpties (steps : List (List String)) (k : Nat) :
    ((withoutTrailingEmpties steps).take k).flatten = (steps.take k).flatten := by
  have hsplit : steps = withoutTrailingEmpties steps ++
      (steps.reverse.takeWhile List.isEmpty).reverse := by
    rw [withoutTrailingEmpties, ← List.reverse_append, List.takeWhile_append_dropWhile,
      List.reverse_reverse]
  have hempty : (((steps.reverse.takeWhile List.isEmpty).reverse).take
      (k - (withoutTrailingEmpties steps).length)).flatten = [] := by
    rw [List.flatten_eq_nil_iff]
    intro l hl
    have hmem := List.mem_reverse.1 (List.mem_of_mem_take hl)
    exact List.isEmpty_iff.1 (List.mem_takeWhile_imp hmem)
  conv_rhs => rw [hsplit, List.take_append, List.flatten_append, hempty, List.append_nil]

theorem flatten_withoutTrailingEmpties (steps : List (List String)) :
    (withoutTrailingEmpties steps).flatten = steps.flatten := by
  have h := flatten_take_withoutTrailingEmpties steps steps.length
  have hlength : (withoutTrailingEmpties steps).length ≤ steps.length := by
    rw [withoutTrailingEmpties, List.length_reverse]
    exact (List.dropWhile_sublist _).length_le.trans (by simp)
  rwa [List.take_of_length_le hlength, List.take_length] at h

end Workcell
