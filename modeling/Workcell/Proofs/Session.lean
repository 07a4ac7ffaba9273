import Workcell.Session
import Workcell.Proofs.Run.Sinks

namespace Workcell

namespace SessionAnswer

def shown : SessionAnswer → List String
  | built _ => []
  | ran r => r.steps.flatten

def spawned : SessionAnswer → List Spawned
  | built _ => []
  | ran r => r.spawned

def argvs : SessionAnswer → List (List String)
  | built b => b.result.toOption.toList.map Command.argv
  | ran r => r.spawned.map Spawned.argv

end SessionAnswer

def SessionStep.logPlace? (m : Machine) (s : SessionStep) : Option Place :=
  s.course.bind fun _ => (m.files.locate m.base (s.workDir.child logName)).toOption

theorem SessionStep.logPlace_eq_some_iff {m : Machine} {s : SessionStep} {place : Place} :
    s.logPlace? m = some place ↔
      s.course.isSome ∧ m.files.locate m.base (s.workDir.child logName) = .ok place := by
  cases hcourse : s.course with
  | none => simp [logPlace?, hcourse]
  | some c =>
      cases hlocate : m.files.locate m.base (s.workDir.child logName) <;>
        simp [logPlace?, hcourse, hlocate, Except.toOption]

namespace Prepared

variable (p : Prepared) (m : Machine)

def linesOn (place : Place) (steps : List SessionStep) : List String :=
  ((steps.zip (p.session m steps).1).filter fun x => x.1.logPlace? m = some place).flatMap
    fun x => x.2.shown

theorem perform_machine (s : SessionStep) :
    (p.perform m s).2 = { m with files := (p.perform m s).2.files } := by
  unfold perform
  cases s.course <;> rfl

section Run

variable {p m} {words : List String} {workDir : Path} {bindings : Pairs} (redactions : Pairs)
  (timeout : Option Number) (script : Script)

theorem execute_of_unbuilt {failure : Failure}
    (h : (p.build m words workDir bindings).result = .error failure) :
    (p.execute m words workDir bindings redactions timeout script).2 = m.files ∧
      (p.execute m words workDir bindings redactions timeout script).1.steps = [] ∧
      (p.execute m words workDir bindings redactions timeout script).1.spawned = [] := by
  simp only [execute, h, and_self]

theorem execute_of_built {c : Command}
    (h : (p.build m words workDir bindings).result = .ok c) :
    (p.execute m words workDir bindings redactions timeout script).2 =
        (Workcell.execute m c workDir redactions timeout script).2 ∧
      (p.execute m words workDir bindings redactions timeout script).1.steps =
        (Workcell.execute m c workDir redactions timeout script).1.steps ∧
      (p.execute m words workDir bindings redactions timeout script).1.spawned =
        (Workcell.execute m c workDir redactions timeout script).1.spawned := by
  simp only [execute, h, and_self]

theorem execute_files (hfaults : m.logFaults = .none) (words : List String) (workDir : Path)
    (bindings : Pairs) :
    let ran := p.execute m words workDir bindings redactions timeout script
    ran.2 = m.files ∧ ran.1.steps.flatten = [] ∨
      ∃ place, m.files.locate m.base (workDir.child logName) = .ok place ∧
        m.files.Gains place (ran.1.steps.flatten.flatMap BuildLog.lineBytes) ran.2 := by
  intro ran
  cases hbuilt : (p.build m words workDir bindings).result with
  | error failure =>
      obtain ⟨hfiles, hsteps, -⟩ := execute_of_unbuilt redactions timeout script hbuilt
      exact .inl ⟨hfiles, congrArg List.flatten hsteps⟩
  | ok c =>
      obtain ⟨hfiles, hsteps, -⟩ := execute_of_built redactions timeout script hbuilt
      simp only [ran, hfiles, hsteps, Workcell.execute]
      cases hopen : m.openLog workDir with
      | error failure =>
          rw [executeWithin_of_unopened _ _ _ _ hopen]
          exact .inl ⟨rfl, rfl⟩
      | ok opened =>
          obtain ⟨place, hlocate, hgains⟩ : ∃ place,
              m.files.locate m.base (workDir.child logName) = .ok place ∧ m.files.Gains place _
                (executeWithin lineLimit m c workDir redactions timeout script).2 :=
            gains_of_not_losing lineLimit c redactions timeout (hfaults ▸ rfl) hopen
          rw [BuildLog.survivors_of_no_faults (hfaults ▸ rfl)] at hgains
          exact .inr ⟨place, hlocate, hgains⟩

end Run

variable {p m}

/-- A step changes no file, and then it shows nothing, or its log gains what it shows. -/
theorem perform_files {s : SessionStep} (hfaults : ∀ c ∈ s.course, c.faults = .none) :
    (p.perform m s).2.files = m.files ∧ (p.perform m s).1.shown = [] ∨
      ∃ place, s.logPlace? m = some place ∧
        m.files.Gains place ((p.perform m s).1.shown.flatMap BuildLog.lineBytes)
          (p.perform m s).2.files := by
  cases hcourse : s.course with
  | none =>
      simp only [perform, hcourse, SessionAnswer.shown, and_self, true_or]
  | some c =>
      have hran := execute_files (p := p) (m := { m with logFaults := c.faults }) c.redactions
        c.timeout c.script (hfaults c hcourse) s.words s.workDir s.bindings
      simp only [perform, hcourse, SessionAnswer.shown]
      rcases hran with hidle | ⟨place, hlocate, hgains⟩
      · exact .inl hidle
      · exact .inr ⟨place, SessionStep.logPlace_eq_some_iff.2 ⟨by rw [hcourse]; rfl, hlocate⟩, hgains⟩

end Prepared

/-- What a step, or a whole session, leaves of the files: paths lead where they led, the file at each
place has gained some lines, and nothing changed at places that were not touched. -/
structure Logged (fs : Filesystem) (lines : Place → List String) (touched : Place → Prop)
    (fs' : Filesystem) : Prop where
  alike : fs.Alike fs'
  gained : ∀ place, fs'.bytesAt place = fs.bytesAt place ++ (lines place).flatMap BuildLog.lineBytes
  frame : ∀ place, ¬touched place → fs'.entry? place = fs.entry? place

namespace Logged

variable {fs fs' fs'' : Filesystem} {lines more : Place → List String} {touched touched' : Place → Prop}

theorem refl (fs : Filesystem) : Logged fs (fun _ => []) (fun _ => False) fs :=
  ⟨.refl fs, fun _ => (List.append_nil _).symm, fun _ _ => rfl⟩

theorem trans (h : Logged fs lines touched fs') (h' : Logged fs' more touched' fs'') :
    Logged fs (fun place => lines place ++ more place) (fun place => touched place ∨ touched' place)
      fs'' := by
  refine ⟨h.alike.trans h'.alike, fun place => ?_, fun place hplace => ?_⟩
  · rw [h'.gained, h.gained, List.flatMap_append, List.append_assoc]
  · rw [h'.frame place fun ht => hplace (.inr ht), h.frame place fun ht => hplace (.inl ht)]

end Logged

namespace Prepared

variable {p : Prepared} {m : Machine}

theorem perform_logged {s : SessionStep} (hfaults : ∀ c ∈ s.course, c.faults = .none) :
    Logged m.files (fun place => if s.logPlace? m = some place then (p.perform m s).1.shown else [])
      (fun place => s.logPlace? m = some place) (p.perform m s).2.files := by
  rcases perform_files (p := p) (m := m) hfaults with ⟨hfiles, hshown⟩ | ⟨q, hplace, hgains⟩
  · rw [hfiles, hshown]
    refine ⟨.refl _, fun place => ?_, fun _ _ => rfl⟩
    rw [ite_self, List.flatMap_nil, List.append_nil]
  · refine ⟨hgains.alike, fun place => ?_, fun place hne => ?_⟩
    · rw [hgains.bytesAt, hplace]
      by_cases hq : place = q
      · simp [hq]
      · simp [hq, Ne.symm hq]
    · exact hgains.frame place fun hq => hne (hq ▸ hplace)

/-- Where a step adds its lines does not depend on the steps before it. -/
theorem logPlace_perform {s : SessionStep} (hfaults : ∀ c ∈ s.course, c.faults = .none)
    (s' : SessionStep) : s'.logPlace? (p.perform m s).2 = s'.logPlace? m := by
  have halike := (perform_logged (p := p) (m := m) hfaults).alike
  rw [perform_machine]
  apply Option.ext
  intro place
  simp only [SessionStep.logPlace_eq_some_iff]
  exact and_congr_right fun _ => halike.locate

theorem session_getElem? (steps : List SessionStep) (i : Nat) :
    (p.session m steps).1[i]? =
      steps[i]?.map fun s => (p.perform (p.session m (steps.take i)).2 s).1 := by
  induction steps generalizing m i with
  | nil => simp [session]
  | cons s r ih =>
      cases i with
      | zero => simp [session]
      | succ i => simpa [session] using ih (m := (p.perform m s).2) i

theorem argvs_perform {s : SessionStep} {argv : List String} (h : argv ∈ (p.perform m s).1.argvs) :
    ∃ command, (p.build m s.words s.workDir s.bindings).result = .ok command ∧ command.argv = argv := by
  cases hcourse : s.course with
  | none =>
      simp only [perform, hcourse, SessionAnswer.argvs] at h
      cases hbuilt : (p.build m s.words s.workDir s.bindings).result with
      | error failure => simp [hbuilt, Except.toOption] at h
      | ok command => exact ⟨command, rfl, by simpa [hbuilt, Except.toOption, eq_comm] using h⟩
  | some c =>
      simp only [perform, hcourse, SessionAnswer.argvs, List.mem_map] at h
      obtain ⟨child, hchild, rfl⟩ := h
      cases hbuilt : (p.build m s.words s.workDir s.bindings).result with
      | error failure =>
          rw [(execute_of_unbuilt (m := { m with logFaults := c.faults }) _ _ _ hbuilt).2.2] at hchild
          cases hchild
      | ok command =>
          rw [(execute_of_built (m := { m with logFaults := c.faults }) _ _ _ hbuilt).2.2] at hchild
          rw [eq_childOf_of_mem_spawned _ _ _ _ hchild]
          exact ⟨command, rfl, rfl⟩

theorem linesOn_cons {s : SessionStep} (hfaults : ∀ c ∈ s.course, c.faults = .none)
    (place : Place) (r : List SessionStep) :
    p.linesOn m place (s :: r) =
      (if s.logPlace? m = some place then (p.perform m s).1.shown else []) ++
        p.linesOn (p.perform m s).2 place r := by
  simp only [linesOn, session, List.zip_cons_cons, logPlace_perform hfaults]
  rw [List.filter_cons]
  by_cases hplace : s.logPlace? m = some place
  · simp [hplace]
  · simp [hplace]

theorem session_logged {steps : List SessionStep}
    (hfaults : ∀ s ∈ steps, ∀ c ∈ s.course, c.faults = .none) :
    Logged m.files (fun place => p.linesOn m place steps)
      (fun place => ∃ s ∈ steps, s.logPlace? m = some place) (p.session m steps).2.files := by
  -- the machine changes from step to step, but the places of the logs stay as they are in the first one
  induction steps generalizing m with
  | nil => simpa [linesOn, session] using Logged.refl m.files
  | cons s r ih =>
      have hs := hfaults s List.mem_cons_self
      have hrest := ih (m := (p.perform m s).2) fun s' hs' => hfaults s' (List.mem_cons_of_mem _ hs')
      have hboth := (perform_logged (p := p) (m := m) hs).trans hrest
      simpa only [linesOn_cons hs, logPlace_perform hs, session, List.exists_mem_cons_iff] using hboth

theorem perform_of_unbuilt {s : SessionStep} {failure : Failure}
    (h : (p.build m s.words s.workDir s.bindings).result = .error failure) :
    (p.perform m s).2 = m ∧ (p.perform m s).1.spawned = [] := by
  cases hcourse : s.course with
  | none =>
      simp only [perform, hcourse, SessionAnswer.spawned, and_self]
  | some c =>
      -- building does not look at the faults of the log
      obtain ⟨hfiles, -, hspawned⟩ := execute_of_unbuilt (m := { m with logFaults := c.faults })
        c.redactions c.timeout c.script h
      simp only [perform, hcourse, SessionAnswer.spawned, hfiles, hspawned, and_self]

theorem perform_of_unspawned {s : SessionStep} {c : Course} {e : Errno} (hcourse : s.course = some c)
    (hspawn : c.script.spawn = some e) {place : Place} (hplace : m.files.entry? place ≠ none) :
    (p.perform m s).2.files.entry? place = m.files.entry? place := by
  simp only [perform, hcourse]
  cases hbuilt : (p.build m s.words s.workDir s.bindings).result with
  | error failure =>
      rw [(execute_of_unbuilt (m := { m with logFaults := c.faults }) _ _ _ hbuilt).1]
  | ok command =>
      rw [(execute_of_built (m := { m with logFaults := c.faults }) _ _ _ hbuilt).1, Workcell.execute]
      cases hopen : Machine.openLog { m with logFaults := c.faults } s.workDir with
      | error failure =>
          rw [executeWithin_of_unopened (m := { m with logFaults := c.faults }) _ _ _ _ hopen]
      | ok opened =>
          obtain ⟨log, files⟩ := opened
          rw [executeWithin_of_unspawned (m := { m with logFaults := c.faults }) _ _ _ _ hopen hspawn]
          obtain ⟨q, rfl, hq⟩ := BuildLog.enter_new_eq_ok hopen
          have hsettled : Filesystem.entry? ((Record.blank ⟨s.workDir.child logName,
              some ⟨q, 0, m.logBuffer, []⟩⟩ files).close
              (Machine.handling { m with logFaults := c.faults } c.redactions)).1 place = files.entry? place :=
            Handle.entry_settle_of_nil rfl ..
          rw [hsettled]
          obtain ⟨-, ⟨hnone, rfl⟩ | ⟨-, rfl⟩⟩ := Filesystem.openAppend_eq_ok hq
          · have hne : q ≠ [] := Filesystem.Fileable.ne_nil (.inl hnone)
            rw [Filesystem.entry_set _ hne, if_neg]
            rintro rfl
            exact hplace hnone
          · rfl

end Prepared

/-- Over a session a build log holds what stood there before, and after it the lines of the steps that
ran on it, in their order. No path comes to lead elsewhere, and no other file changes. A step whose
command cannot be built does nothing, and one whose child cannot be created changes no file that is there. -/
theorem session_appends (p : Prepared) (m : Machine) {steps : List SessionStep}
    (hfaults : ∀ s ∈ steps, ∀ c ∈ s.course, c.faults = .none) :
    let last := (p.session m steps).2
    (∀ (path : Path) (place : Place), last.files.locate m.base path = .ok place ↔
      m.files.locate m.base path = .ok place) ∧
    (∀ (workDir : Path) (place : Place), m.files.locate m.base (workDir.child logName) = .ok place →
      (last.files.contentAt m.base (workDir.child logName)).getD [] =
        (m.files.contentAt m.base (workDir.child logName)).getD [] ++
          (p.linesOn m place steps).flatMap BuildLog.lineBytes) ∧
    (∀ (place : Place), (∀ s ∈ steps, s.logPlace? m ≠ some place) →
      last.files.entry? place = m.files.entry? place) ∧
    (∀ (now : Machine) (s : SessionStep) (failure : Failure),
      (p.build now s.words s.workDir s.bindings).result = .error failure →
        (p.perform now s).2 = now ∧ (p.perform now s).1.spawned = []) ∧
    ∀ (now : Machine) (s : SessionStep) (c : Course) (e : Errno), s.course = some c →
      c.script.spawn = some e → ∀ place, now.files.entry? place ≠ none →
        (p.perform now s).2.files.entry? place = now.files.entry? place := by
  intro last
  have hlogged := Prepared.session_logged (p := p) (m := m) hfaults
  refine ⟨fun path place => hlogged.alike.locate, fun workDir place hlocate => ?_,
    fun place hplace => ?_, fun now s failure => Prepared.perform_of_unbuilt,
    fun now s c e hcourse hspawn place => Prepared.perform_of_unspawned hcourse hspawn⟩
  · rw [Filesystem.contentAt_getD hlocate, Filesystem.contentAt_getD (hlogged.alike.locate.2 hlocate)]
    exact hlogged.gained place
  · apply hlogged.frame
    rintro ⟨s, hs, hlog⟩
    exact hplace s hs hlog

def Machine.begun : Machine := { Machine.bare with
  files := ⟨[(["conda_build.log"], .file [0x2D, 0x0A] false)]⟩ }

def SessionStep.writing (workDir : String) (line : List UInt8) (exits : Bool) : SessionStep :=
  ⟨["make"], .ofString workDir, .empty, some ⟨.empty, some (.whole 1),
    ⟨.bytes .out line :: if exits then [.ends .out, .ends .err, .exits 0] else [.sleeps 2],
      .works, none⟩, .none⟩⟩

def SessionStep.begun : List SessionStep :=
  [.writing "/." [0x61, 0x0A] true, ⟨["make"], .ofString "/", .empty, none⟩,
    .writing "." [0x62, 0x0A] false]

theorem Machine.begun_locate {d : String} (hd : d ∈ ["/", "/.", "."]) :
    begun.files.locate begun.base ((Path.ofString d).child logName) = .ok ["conda_build.log"] := by
  have hparts : ∀ d ∈ ["/", "/.", "."], ((Path.ofString d).child logName).parts = ["conda_build.log"] := by
    decide
  have hentry : begun.files.entry? ["conda_build.log"] = some (.file [0x2D, 0x0A] false) := by decide
  have hbase : begun.base = [] := by decide
  rw [Filesystem.locate, hparts d hd, hbase, ite_self]
  exact Filesystem.walk_last (by decide) (by decide) (by simp [hentry]) (by simp [hentry])

theorem session_appends_begun :
    (∀ s ∈ SessionStep.begun, ∀ c ∈ s.course, c.faults = .none) ∧
      (∀ s ∈ SessionStep.begun, s.course.isSome → s.logPlace? .begun = some ["conda_build.log"]) ∧
      ((Configuration.host.prepare.session .begun SessionStep.begun).2.files.contentAt []
        ((Path.ofString "/").child logName)).getD [] =
          [0x2D, 0x0A] ++ (Configuration.host.prepare.linesOn .begun ["conda_build.log"]
            SessionStep.begun).flatMap BuildLog.lineBytes := by
  have hfaults : ∀ s ∈ SessionStep.begun, ∀ c ∈ s.course, c.faults = .none := by decide
  obtain ⟨-, hcontent, -⟩ := session_appends Configuration.host.prepare .begun hfaults
  have hlocate := Machine.begun_locate (d := "/") (by decide)
  refine ⟨hfaults, fun s hs hrun => SessionStep.logPlace_eq_some_iff.2 ⟨hrun, ?_⟩,
    (hcontent _ _ hlocate).trans ?_⟩
  · simp only [SessionStep.begun, List.mem_cons, List.not_mem_nil, or_false] at hs
    rcases hs with rfl | rfl | rfl
    · exact Machine.begun_locate (by decide)
    · exact Machine.begun_locate (by decide)
    · exact Machine.begun_locate (by decide)
  · rw [Filesystem.contentAt_getD hlocate]
    rfl

end Workcell
