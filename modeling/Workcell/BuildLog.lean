import Workcell.Failure
import Workcell.Machine
import Workcell.Note
import Workcell.Text.Utf8

namespace Workcell

/-- An opened file: the number of writes tried on it, how many bytes its buffer holds, and the bytes that wait
there. -/
structure Handle where
  place : Place
  writes : Nat
  buffer : Nat
  waiting : List UInt8
  deriving DecidableEq, Repr

namespace Handle

/-- Takes up bytes. They wait in the buffer if there is room; else what waits there goes to the file first, and
bytes for which the buffer is too small go there at once. -/
def accept (h : Handle) (fs : Filesystem) (bytes : List UInt8) : Handle × Filesystem :=
  if h.waiting.length + bytes.length ≤ h.buffer ∧ bytes.length < h.buffer then
    ({ h with waiting := h.waiting ++ bytes }, fs)
  else if bytes.length ≤ h.buffer then ({ h with waiting := bytes }, fs.append h.place h.waiting)
  else ({ h with waiting := [] }, fs.append h.place (h.waiting ++ bytes))

def settle (h : Handle) (lost : Bool) (fs : Filesystem) : Filesystem :=
  if lost then fs else fs.append h.place h.waiting

end Handle

structure BuildLog where
  path : Path
  handle : Option Handle
  deriving DecidableEq

namespace BuildLog

def new (path : Path) : BuildLog := ⟨path, none⟩

/-- Opens the log. One that is open already is opened anew, and the file that was held is let go. -/
def enter (log : BuildLog) (base : Place) (buffer : Nat) (faults : LogFaults) (fs : Filesystem) :
    Except Failure (BuildLog × Filesystem) :=
  if log.path.hasNul then .error .nulInPath
  else match fs.openAppend base log.path with
    | .ok (fs, place) =>
      let fs := match log.handle with
        | none => fs
        | some held => held.settle (faults.close && faults.loses) fs
      .ok ({ log with handle := some ⟨place, 0, buffer, []⟩ }, fs)
    | .error e =>
      .error (.runner (.general s!"Cannot open build log {log.path}: {e.messageAt log.path.text}"))

def lineBytes (text : String) : List UInt8 := Utf8.encode text.toList ++ [0x0A]

def writeFailure : Note := ⟨.warning, s!"Failed to write to build log: {Errno.noSpace.message}"⟩
def flushFailure : Note := ⟨.warning, s!"Failed to flush build log: {Errno.inputOutput.message}"⟩
def closeFailure : Note := ⟨.warning, s!"Failed to close build log: {Errno.badDescriptor.message}"⟩

def write (log : BuildLog) (faults : LogFaults) (fs : Filesystem) (text : String) :
    BuildLog × Filesystem × List Note :=
  match log.handle with
  | none => (log, fs, [])
  | some handle =>
    let handle := { handle with writes := handle.writes + 1 }
    if handle.writes ∈ faults.writes then ({ log with handle := some handle }, fs, [writeFailure])
    else
      let (handle, fs) := handle.accept fs (lineBytes text)
      ({ log with handle := some handle }, fs, [])

def close (log : BuildLog) (faults : LogFaults) (fs : Filesystem) : BuildLog × Filesystem × List Note :=
  match log.handle with
  | none => (log, fs, [])
  | some handle =>
    -- what a flush leaves in the buffer is written out by the closing itself
    ({ log with handle := none }, handle.settle faults.losesAtClosing fs,
      (if faults.flush then [flushFailure] else []) ++ (if faults.close then [closeFailure] else []))

end BuildLog

end Workcell
