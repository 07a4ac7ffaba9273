import Workcell.BuildLog
import Workcell.Proofs.Filesystem

namespace Workcell

theorem Utf8.encode_append (a b : List Char) : encode (a ++ b) = encode a ++ encode b :=
  List.flatMap_append

namespace Handle

variable {h : Handle} {fs fs' : Filesystem} {written waiting : List String}

def tried (h : Handle) : Handle := { h with writes := h.writes + 1 }

/-- What a file has taken up since the files were as given: lines that stand in it, and lines that wait in the
buffer. -/
structure Taken (fs : Filesystem) (written waiting : List String) (h : Handle) (fs' : Filesystem) : Prop where
  gains : fs.Gains h.place (written.flatMap BuildLog.lineBytes) fs'
  waits : h.waiting = waiting.flatMap BuildLog.lineBytes
  fits : h.waiting.length ≤ h.buffer

theorem Taken.tried (htaken : h.Taken fs written waiting fs') : h.tried.Taken fs written waiting fs' :=
  ⟨htaken.gains, htaken.waits, htaken.fits⟩

theorem accept_same (h : Handle) (fs : Filesystem) (bytes : List UInt8) :
    (h.accept fs bytes).1.place = h.place ∧ (h.accept fs bytes).1.writes = h.writes ∧
      (h.accept fs bytes).1.buffer = h.buffer := by
  unfold accept
  split_ifs <;> exact ⟨rfl, rfl, rfl⟩

theorem Taken.accept (htaken : h.Taken fs written waiting fs') (line : String) :
    ∃ more rest, more ++ rest = waiting ++ [line] ∧
      (h.accept fs' (BuildLog.lineBytes line)).1.Taken fs (written ++ more) rest
        (h.accept fs' (BuildLog.lineBytes line)).2 := by
  unfold Handle.accept
  split_ifs with hroom hfits
  · refine ⟨[], waiting ++ [line], rfl, ?_, ?_, ?_⟩
    · rw [List.append_nil]
      exact htaken.gains
    · rw [List.flatMap_append, List.flatMap_singleton, ← htaken.waits]
    · rw [List.length_append]
      exact hroom.1
  · refine ⟨waiting, [line], rfl, ?_, (List.flatMap_singleton ..).symm, hfits⟩
    rw [List.flatMap_append, ← htaken.waits]
    exact htaken.gains.append _
  · refine ⟨waiting ++ [line], [], List.append_nil _, ?_, rfl, Nat.zero_le _⟩
    rw [List.flatMap_append, List.flatMap_append, List.flatMap_singleton, ← htaken.waits]
    exact htaken.gains.append _

theorem Taken.settle (htaken : h.Taken fs written waiting fs') (lost : Bool) :
    fs.Gains h.place ((written ++ if lost then [] else waiting).flatMap BuildLog.lineBytes)
      (h.settle lost fs') := by
  cases lost with
  | true =>
      rw [if_pos rfl, List.append_nil]
      exact htaken.gains
  | false =>
      rw [if_neg Bool.false_ne_true, List.flatMap_append, ← htaken.waits]
      exact htaken.gains.append _

theorem entry_settle_of_nil (hnone : h.waiting = []) (lost : Bool) (fs : Filesystem) (p : Place) :
    Filesystem.entry? (h.settle lost fs) p = fs.entry? p := by
  cases lost with
  | true => rfl
  | false =>
      rw [settle, if_neg Bool.false_ne_true, hnone]
      exact fs.entry_append_nil h.place p

end Handle

namespace BuildLog

variable {log : BuildLog} {faults : LogFaults} {fs fs' : Filesystem} {handle : Handle} {buffer : Nat}
  {place base : Place} {path : Path} {written waiting : List String} {line : String}

theorem write_of_fault (h : log.handle = some handle) (hfault : handle.writes + 1 ∈ faults.writes) :
    log.write faults fs line = ({ log with handle := some handle.tried }, fs, [writeFailure]) := by
  simp only [write, h, hfault, if_true, Handle.tried]

theorem write_of_not_fault (h : log.handle = some handle) (hfault : handle.writes + 1 ∉ faults.writes) :
    log.write faults fs line =
      ({ log with handle := some (handle.tried.accept fs (lineBytes line)).1 },
        (handle.tried.accept fs (lineBytes line)).2, []) := by
  simp only [write, h, hfault, if_false, Handle.tried]

theorem eq_writeFailure_of_mem_write {n : Note} (h : n ∈ (log.write faults fs line).2.2) :
    n = writeFailure := by
  cases hhandle : log.handle with
  | none =>
      rw [write, hhandle] at h
      cases h
  | some handle =>
      by_cases hfault : handle.writes + 1 ∈ faults.writes
      · rw [write_of_fault hhandle hfault] at h
        exact List.mem_singleton.1 h
      · rw [write_of_not_fault hhandle hfault] at h
        cases h

theorem close_eq (h : log.handle = some handle) (faults : LogFaults) (fs : Filesystem) :
    log.close faults fs = ({ log with handle := none }, handle.settle faults.losesAtClosing fs,
      (if faults.flush then [flushFailure] else []) ++ (if faults.close then [closeFailure] else [])) := by
  rw [close, h]

def writeAll (log : BuildLog) (faults : LogFaults) (fs : Filesystem) :
    List String → BuildLog × Filesystem
  | [] => (log, fs)
  | line :: r => (log.write faults fs line).1.writeAll faults (log.write faults fs line).2.1 r

/-- The lines whose writes do not fail, if some writes were tried before. -/
def survivors (faults : LogFaults) : Nat → List String → List String
  | _, [] => []
  | tried, line :: r =>
    if tried + 1 ∈ faults.writes then survivors faults (tried + 1) r
    else line :: survivors faults (tried + 1) r

theorem survivors_sublist (faults : LogFaults) (tried : Nat) (lines : List String) :
    (survivors faults tried lines).Sublist lines := by
  induction lines generalizing tried with
  | nil => exact .slnil
  | cons line lines ih =>
      rw [survivors]
      split
      · exact (ih _).cons _
      · exact (ih _).cons_cons _

theorem survivors_of_no_faults (h : faults.writes = []) (tried : Nat) (lines : List String) :
    survivors faults tried lines = lines := by
  induction lines generalizing tried with
  | nil => rfl
  | cons line lines ih => simp [survivors, h, ih]

/-- A log that is open has taken up some lines since the files were as given, the first of which stand in its
file. -/
structure Open (fs : Filesystem) (place : Place) (buffer tried : Nat) (lines : List String) (log : BuildLog)
    (fs' : Filesystem) : Prop where
  takes : ∃ handle written waiting, log.handle = some handle ∧ handle.place = place ∧
    handle.buffer = buffer ∧ handle.writes = tried ∧ written ++ waiting = lines ∧
    handle.Taken fs written waiting fs'

/-- What an open log has taken up grows by the lines written to it, without those whose writes fail. -/
theorem Open.writeAll {tried : Nat} {before : List String}
    (h : log.Open fs place buffer tried before fs') (faults : LogFaults) (lines : List String) :
    (log.writeAll faults fs' lines).1.Open fs place buffer (tried + lines.length)
      (before ++ survivors faults tried lines) (log.writeAll faults fs' lines).2 := by
  induction lines generalizing log fs' before tried with
  | nil => simpa [BuildLog.writeAll, survivors] using h
  | cons line lines ih =>
      obtain ⟨handle, written, waiting, hhandle, hplace, hbuffer, rfl, hlines, htaken⟩ := h.takes
      rw [List.length_cons, ← Nat.add_assoc, Nat.add_right_comm, BuildLog.writeAll]
      by_cases hfault : handle.writes + 1 ∈ faults.writes
      · rw [write_of_fault hhandle hfault, survivors, if_pos hfault]
        exact ih ⟨handle.tried, written, waiting, rfl, hplace, hbuffer, rfl, hlines, htaken.tried⟩
      · obtain ⟨more, rest, hmore, haccepted⟩ := htaken.tried.accept line
        obtain ⟨hsame, hwrites, hroom⟩ := handle.tried.accept_same fs' (lineBytes line)
        rw [write_of_not_fault hhandle hfault, survivors, if_neg hfault, List.append_cons]
        refine ih ⟨_, _, _, rfl, hsame.trans hplace, hroom.trans hbuffer, hwrites, ?_, haccepted⟩
        rw [List.append_assoc, hmore, ← hlines, List.append_assoc]

theorem enter_new_eq_ok (h : (new path).enter base buffer faults fs = .ok (log, fs')) :
    ∃ place, log = ⟨path, some ⟨place, 0, buffer, []⟩⟩ ∧ fs.openAppend base path = .ok (fs', place) := by
  unfold enter new at h
  split at h
  · simp at h
  · cases hopen : fs.openAppend base path with
    | error e => simp [hopen] at h
    | ok opened =>
        simp only [hopen, Except.ok.injEq, Prod.mk.injEq] at h
        obtain ⟨rfl, rfl⟩ := h
        exact ⟨_, rfl, rfl⟩

theorem open_of_enter (h : (new path).enter base buffer faults fs = .ok (log, fs')) :
    ∃ place, fs.locate base path = .ok place ∧ log.Open fs place buffer 0 [] fs' := by
  obtain ⟨place, rfl, hopen⟩ := enter_new_eq_ok h
  obtain ⟨hlocate, hgains⟩ := Filesystem.gains_of_openAppend hopen
  exact ⟨place, hlocate, _, [], [], rfl, rfl, rfl, rfl, rfl, hgains, rfl, Nat.zero_le _⟩

/-- The file of a log that is closed has all the lines that the log took up, unless those that wait are lost. -/
theorem Open.close {tried : Nat} {lines : List String} (h : log.Open fs place buffer tried lines fs')
    (faults : LogFaults) : ∃ written waiting, written ++ waiting = lines ∧
      (waiting.flatMap lineBytes).length ≤ buffer ∧
      fs.Gains place ((written ++ if faults.losesAtClosing then [] else waiting).flatMap lineBytes)
        (log.close faults fs').2.1 := by
  obtain ⟨handle, written, waiting, hhandle, rfl, rfl, -, hlines, htaken⟩ := h.takes
  refine ⟨written, waiting, hlines, htaken.waits ▸ htaken.fits, ?_⟩
  rw [close_eq hhandle]
  exact htaken.settle _

theorem flatMap_lineBytes (lines : List String) :
    lines.flatMap lineBytes = Utf8.encode (String.join (lines.map (· ++ "\n"))).toList := by
  induction lines with
  | nil => rfl
  | cons line lines ih =>
      rw [List.flatMap_cons, ih, List.map_cons, String.join_cons, String.toList_append,
        Utf8.encode_append, String.toList_append, Utf8.encode_append]
      rfl

theorem Open.close_nil {tried : Nat} (h : log.Open fs place buffer tried [] fs') (faults : LogFaults) :
    fs.Gains place [] (log.close faults fs').2.1 := by
  obtain ⟨written, waiting, hlines, -, hgains⟩ := h.close faults
  obtain ⟨rfl, rfl⟩ := List.append_eq_nil_iff.1 hlines
  simpa using hgains

end BuildLog

end Workcell
