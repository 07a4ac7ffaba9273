import Workcell.Proofs.BuildLog

namespace Workcell

inductive LogAction
  | enter
  | exit
  | write (line : String)
  | close
  | faults (faults : LogFaults)

structure LogState where
  log : BuildLog
  buffer : Nat
  files : Filesystem
  faults : LogFaults

namespace LogState

def act (base : Place) (s : LogState) : LogAction → LogState × Option Failure × List Note
  | .enter => match s.log.enter base s.buffer s.faults s.files with
    | .ok (log, files) => ({ s with log, files }, none, [])
    | .error failure => (s, some failure, [])
  | .exit | .close =>
    let (log, files, notes) := s.log.close s.faults s.files
    ({ s with log, files }, none, notes)
  | .write line =>
    let (log, files, notes) := s.log.write s.faults s.files line
    ({ s with log, files }, none, notes)
  | .faults faults => ({ s with faults }, none, [])

def after (base : Place) (s : LogState) : List LogAction → LogState
  | [] => s
  | a :: actions => (s.act base a).1.after base actions

def tried (s : LogState) : Option Nat := s.log.handle.map Handle.writes

def waiting (s : LogState) : List UInt8 := (s.log.handle.map Handle.waiting).getD []

/-- The lines that an action brings to the log: the one of a write, if a file is held and the write is none of
those that fail. -/
def adds (s : LogState) : LogAction → List String
  | .write line => match s.tried with
    | some n => if n + 1 ∈ s.faults.writes then [] else [line]
    | none => []
  | _ => []

def added (base : Place) (s : LogState) : List LogAction → List String
  | [] => []
  | a :: actions => s.adds a ++ (s.act base a).1.added base actions

def loses (s : LogState) : LogAction → Bool
  | .enter => s.faults.close && s.faults.loses
  | .exit | .close => s.faults.losesAtClosing
  | _ => false

def keeps (base : Place) (s : LogState) : List LogAction → Bool
  | [] => true
  | a :: actions => !s.loses a && (s.act base a).1.keeps base actions

def content (base : Place) (s : LogState) : Option (List UInt8) := s.files.contentAt base s.log.path

/-- What a log has taken up: the content of its file, and what waits to be added to it. -/
def taken (base : Place) (s : LogState) : Option (List UInt8) := (s.content base).map (· ++ s.waiting)

/-- A log with its path, and with a file held only at the place to which its path leads, for which whole lines
wait. -/
structure Upright (base : Place) (path : Path) (s : LogState) : Prop where
  names : s.log.path = path
  held : ∀ handle ∈ s.log.handle, s.files.locate base path = .ok handle.place ∧ handle.buffer = s.buffer ∧
    ∃ lines, handle.Taken s.files [] lines s.files

/-- What an action does to a log: nothing, or the file gains bytes, after which as much waits as is due, or what
waits is lost. -/
inductive Effect (base : Place) (path : Path) (s : LogState) (a : LogAction) (t : LogState) : Prop
  | idle (files : t.files = s.files) (waiting : t.waiting = s.waiting) (adds : s.adds a = [])
  | gains (place : Place) (bytes : List UInt8) (locate : s.files.locate base path = .ok place)
      (gained : s.files.Gains place bytes t.files) (content : s.content base = none → a = .enter)
      (due : bytes ++ t.waiting = s.waiting ++ (s.adds a).flatMap BuildLog.lineBytes)
  | loses (place : Place) (locate : s.files.locate base path = .ok place)
      (gained : s.files.Gains place [] t.files) (content : s.content base = none → a = .enter)
      (lost : s.loses a = true) (waiting : t.waiting = []) (adds : s.adds a = [])

variable {base : Place} {path : Path} {s t : LogState} {a : LogAction} {handle : Handle}

theorem waiting_of_held (h : s.log.handle = some handle) : s.waiting = handle.waiting := by
  rw [waiting, h]
  rfl

theorem waiting_of_unheld (h : s.log.handle = none) : s.waiting = [] := by
  rw [waiting, h]
  rfl

theorem tried_of_held (h : s.log.handle = some handle) : s.tried = some handle.writes := by
  rw [tried, h]
  rfl

theorem gains_self {fs fs' : Filesystem} {place : Place} {bytes : List UInt8} (h : fs.Gains place bytes fs') :
    fs'.Gains place [] fs' := by
  obtain ⟨executable, hentry⟩ := h.entry
  have hbytes : fs'.bytesAt place = fs.bytesAt place ++ bytes := by rw [h.bytesAt, if_pos rfl]
  refine ⟨.inr ⟨_, _, hentry⟩, ⟨executable, ?_⟩, fun p _ => rfl⟩
  rw [hbytes, List.append_nil, hentry]

theorem taken_self {h : Handle} {fs fs' : Filesystem} {written lines : List String}
    (htaken : h.Taken fs written lines fs') : h.Taken fs' [] lines fs' :=
  ⟨gains_self htaken.gains, htaken.waits, htaken.fits⟩

namespace Upright

theorem exists_content (h : s.Upright base path) (hhandle : s.log.handle = some handle) :
    ∃ old, s.content base = some old := by
  obtain ⟨hlocate, -, lines, htaken⟩ := h.held handle hhandle
  have hcontent := htaken.gains.contentAt hlocate
  exact ⟨_, h.names ▸ hcontent⟩

theorem effect_of_settle (h : s.Upright base path) (hhandle : s.log.handle = some handle)
    (hfiles : t.files = handle.settle (s.loses a) s.files) (hwaiting : t.waiting = [])
    (hadds : s.adds a = []) : Effect base path s a t := by
  obtain ⟨hlocate, -, lines, htaken⟩ := h.held handle hhandle
  obtain ⟨old, hold⟩ := h.exists_content hhandle
  have hcontent : s.content base = none → a = .enter := by simp [hold]
  have hgains := htaken.settle (s.loses a)
  rw [← hfiles, List.nil_append] at hgains
  cases hlost : s.loses a with
  | true =>
      rw [hlost, if_pos rfl] at hgains
      exact .loses _ hlocate hgains hcontent hlost hwaiting hadds
  | false =>
      rw [hlost, if_neg Bool.false_ne_true, ← htaken.waits] at hgains
      exact .gains _ _ hlocate hgains hcontent (by rw [hwaiting, hadds, waiting_of_held hhandle]; rfl)

end Upright

/-- Opening a log makes its file if there is none, and lets go of the file that was held; or it fails. -/
theorem enter_cases (base : Place) (hpath : s.log.path = path) (hnul : path.hasNul = false) :
    (∃ opened files place, s.act base .enter =
          ({ s with log := ⟨path, some ⟨place, 0, s.buffer, []⟩⟩, files }, none, []) ∧
        s.files.locate base path = .ok place ∧ s.files.Gains place [] opened ∧
        (opened = s.files ∨ s.content base = none) ∧
        files = match s.log.handle with
          | none => opened
          | some held => held.settle (s.loses .enter) opened) ∨
      ∃ e : Errno, s.act base .enter =
        (s, some (.runner (.general s!"Cannot open build log {path}: {e.messageAt path.text}")), []) := by
  have hact : s.act base .enter = match s.log.enter base s.buffer s.faults s.files with
      | .ok (log, files) => ({ s with log, files }, none, [])
      | .error failure => (s, some failure, []) := rfl
  rw [hact, BuildLog.enter, hpath, hnul, if_neg Bool.false_ne_true]
  cases hopen : s.files.openAppend base path with
  | error e => exact .inr ⟨e, rfl⟩
  | ok opened =>
      obtain ⟨opened, place⟩ := opened
      obtain ⟨hlocate, hgains⟩ := Filesystem.gains_of_openAppend hopen
      refine .inl ⟨opened, _, place, rfl, hlocate, hgains, ?_, rfl⟩
      obtain ⟨-, ⟨hnone, -⟩ | ⟨-, rfl⟩⟩ := Filesystem.openAppend_eq_ok hopen
      · right
        simp only [content, hpath, Filesystem.contentAt, Filesystem.lookup, hlocate, hnone]
      · exact .inl rfl

theorem close_cases (s : LogState) (base : Place) (ha : a = .exit ∨ a = .close) :
    (s.log.handle = none ∧ s.act base a = (s, none, [])) ∨
      ∃ handle notes, s.log.handle = some handle ∧ s.act base a =
        ({ s with log := ⟨s.log.path, none⟩, files := handle.settle (s.loses a) s.files }, none, notes) := by
  cases hhandle : s.log.handle with
  | none =>
      left
      refine ⟨rfl, ?_⟩
      rcases ha with rfl | rfl <;> simp only [act, BuildLog.close, hhandle]
  | some handle =>
      right
      rcases ha with rfl | rfl <;>
        exact ⟨handle, _, rfl, by simp only [act, BuildLog.close_eq hhandle, loses]; rfl⟩

theorem write_cases (s : LogState) (base : Place) (line : String) :
    (s.log.handle = none ∧ s.act base (.write line) = (s, none, [])) ∨
      ∃ handle, s.log.handle = some handle ∧
        ((s.adds (.write line) = [] ∧ s.act base (.write line) =
            ({ s with log := ⟨s.log.path, some handle.tried⟩ }, none, [BuildLog.writeFailure])) ∨
          s.adds (.write line) = [line] ∧ s.act base (.write line) =
            ({ s with
                log := ⟨s.log.path, some (handle.tried.accept s.files (BuildLog.lineBytes line)).1⟩
                files := (handle.tried.accept s.files (BuildLog.lineBytes line)).2 }, none, [])) := by
  cases hhandle : s.log.handle with
  | none =>
      left
      exact ⟨rfl, by simp only [act, BuildLog.write, hhandle]⟩
  | some handle =>
      right
      refine ⟨handle, rfl, ?_⟩
      rw [adds, tried_of_held hhandle]
      by_cases hfault : handle.writes + 1 ∈ s.faults.writes
      · left
        simp only [act, BuildLog.write_of_fault hhandle hfault, hfault, if_true, and_self]
      · right
        simp only [act, BuildLog.write_of_not_fault hhandle hfault, hfault, if_false, and_self]

/-- An action leaves a log upright, and does to it one of the things that an action can do. -/
theorem Upright.act (h : s.Upright base path) (hnul : path.hasNul = false) (a : LogAction) :
    (s.act base a).1.Upright base path ∧ Effect base path s a (s.act base a).1 := by
  have hclosing (hopen : a = .exit ∨ a = .close) :
      (s.act base a).1.Upright base path ∧ Effect base path s a (s.act base a).1 := by
    rcases close_cases s base hopen with ⟨-, hact⟩ | ⟨handle, notes, hhandle, hact⟩
    · rw [hact]
      exact ⟨h, .idle rfl rfl (by rcases hopen with rfl | rfl <;> rfl)⟩
    · rw [hact]
      exact ⟨⟨h.names, by simp⟩,
        h.effect_of_settle hhandle rfl rfl (by rcases hopen with rfl | rfl <;> rfl)⟩
  cases a with
  | exit => exact hclosing (.inl rfl)
  | close => exact hclosing (.inr rfl)
  | faults faults => exact ⟨⟨h.names, h.held⟩, .idle rfl rfl rfl⟩
  | enter =>
      rcases enter_cases base h.names hnul with ⟨opened, files, place, hact, hlocate, hgains, hsame, hfiles⟩ | ⟨e, hact⟩
      · rw [hact]
        cases hhandle : s.log.handle with
        | none =>
            simp only [hhandle] at hfiles
            subst hfiles
            refine ⟨⟨rfl, ?_⟩, .gains place [] hlocate hgains (fun _ => rfl) ?_⟩
            · rintro handle ⟨⟩
              exact ⟨hgains.alike.locate.2 hlocate, rfl, [], gains_self hgains, rfl, Nat.zero_le _⟩
            · rw [waiting_of_unheld hhandle]
              rfl
        | some held =>
            obtain ⟨hplace, -, lines, htaken⟩ := h.held held hhandle
            obtain ⟨old, hold⟩ := h.exists_content hhandle
            obtain rfl : opened = s.files := hsame.resolve_right (by simp [hold])
            obtain rfl : held.place = place := Except.ok.inj (hplace.symm.trans hlocate)
            simp only [hhandle] at hfiles
            have hsettled := htaken.settle (s.loses .enter)
            rw [← hfiles] at hsettled
            refine ⟨⟨rfl, ?_⟩, h.effect_of_settle hhandle hfiles rfl rfl⟩
            rintro handle ⟨⟩
            exact ⟨hsettled.alike.locate.2 hlocate, rfl, [], gains_self hsettled, rfl, Nat.zero_le _⟩
      · rw [hact]
        exact ⟨h, .idle rfl rfl rfl⟩
  | write line =>
      rcases write_cases s base line with ⟨hhandle, hact⟩ | ⟨handle, hhandle, ⟨hadds, hact⟩ | ⟨hadds, hact⟩⟩
      · rw [hact]
        have htried : s.tried = none := by rw [tried, hhandle]; rfl
        exact ⟨h, .idle rfl rfl (by rw [adds, htried])⟩
      · obtain ⟨hlocate, hbuffer, lines, htaken⟩ := h.held handle hhandle
        rw [hact]
        refine ⟨⟨h.names, ?_⟩, .idle rfl (waiting_of_held hhandle).symm hadds⟩
        rintro handle' ⟨⟩
        exact ⟨hlocate, hbuffer, lines, htaken.tried⟩
      · obtain ⟨hlocate, hbuffer, lines, htaken⟩ := h.held handle hhandle
        obtain ⟨old, hold⟩ := h.exists_content hhandle
        obtain ⟨more, rest, hmore, haccepted⟩ := htaken.tried.accept line
        obtain ⟨hplace, -, hroom⟩ := handle.tried.accept_same s.files (BuildLog.lineBytes line)
        have hgains : s.files.Gains handle.place (more.flatMap BuildLog.lineBytes) _ := hplace ▸ haccepted.gains
        rw [hact]
        refine ⟨⟨h.names, ?_⟩, .gains handle.place (more.flatMap BuildLog.lineBytes) hlocate hgains
          (by simp [hold]) ?_⟩
        · rintro handle' ⟨⟩
          exact ⟨hplace ▸ hgains.alike.locate.2 hlocate, hroom.trans hbuffer, rest, taken_self haccepted⟩
        · rw [hadds, waiting_of_held hhandle, htaken.waits, ← List.flatMap_append, ← hmore, List.flatMap_append]
          exact congrArg _ haccepted.waits

theorem Upright.after (h : s.Upright base path) (hnul : path.hasNul = false) (actions : List LogAction) :
    (s.after base actions).Upright base path := by
  induction actions generalizing s with
  | nil => exact h
  | cons a actions ih => exact ih (h.act hnul a).1

section Effect

variable (h : s.Upright base path) (ht : t.Upright base path) (heffect : Effect base path s a t)
include h

include ht

include heffect

omit h ht in
theorem Effect.frame {place : Place} (hplace : s.files.locate base path ≠ .ok place) :
    t.files.entry? place = s.files.entry? place := by
  cases heffect with
  | idle hfiles _ _ => rw [hfiles]
  | gains opened bytes hlocate hgained _ _ => exact hgained.frame place fun heq => hplace (heq ▸ hlocate)
  | loses opened hlocate hgained _ _ _ _ => exact hgained.frame place fun heq => hplace (heq ▸ hlocate)

end Effect

end LogState

end Workcell
