import Workcell.Proofs.Run.Execute

namespace Workcell

open History

def Event.channel? : Event → Option Channel
  | .bytes c _ => some c
  | .ends c => some c
  | .fails c _ => some c
  | _ => none

/-- All that comes through a pipe: its bytes in chunks, and after them the end or a failure. -/
structure Stream where
  chunks : List (List UInt8)
  failure : Option String
  deriving DecidableEq, Repr

namespace Stream

def closing (c : Channel) (s : Stream) : Event :=
  match s.failure with
  | none => .ends c
  | some text => .fails c text

def events (c : Channel) (s : Stream) : List Event := s.chunks.map (.bytes c) ++ [s.closing c]

def bytes (s : Stream) : List UInt8 := s.chunks.flatten

/-- The lines of a stream. What follows the last line feed is lost if the stream fails. -/
def lines (s : Stream) : List (List UInt8) :=
  (cut s.bytes).1 ++ if s.failure = none then lastLine (cut s.bytes).2 else []

def captured (replacements : List Replacement) (s : Stream) : String :=
  String.join (s.lines.map fun line => redact replacements (Line.text line) ++ "\n")

theorem lines_congr {s s' : Stream} (hbytes : s'.bytes = s.bytes)
    (hfailure : s'.failure = none ↔ s.failure = none) : s'.lines = s.lines := by
  simp [lines, hbytes, hfailure]

theorem exists_segments (s : Stream) : ∃ (bodies : List (List UInt8)) (rest : List UInt8),
    s.bytes = (bodies.map (· ++ [Line.feed])).flatten ++ rest ∧ (∀ body ∈ bodies, Line.feed ∉ body) ∧
      Line.feed ∉ rest ∧
      s.lines = bodies.map (· ++ [Line.feed]) ++
        if s.failure = none ∧ rest ≠ [] then [rest] else [] := by
  obtain ⟨bodies, hcut, hbodies⟩ := exists_bodies_cut s.bytes
  refine ⟨bodies, (cut s.bytes).2, ?_, hbodies, feed_not_mem_rest s.bytes, ?_⟩
  · rw [← hcut, flatten_cut]
  · rw [lines, hcut, lastLine]
    by_cases hfailure : s.failure = none <;> by_cases hrest : (cut s.bytes).2 = [] <;>
      simp [hfailure, hrest]

end Stream

namespace History

variable {c : Channel} {past events later : List Event} {deadline : Option Rat}

theorem closes_of_channel_ne {e : Event} (h : e.channel? ≠ some c) :
    e.closes c = false ∧ e.bytesOn c = [] := by
  cases e <;> simp_all [Event.channel?, Event.closes, Event.bytesOn]

theorem delivered_filter (c : Channel) (events : List Event) :
    delivered c (events.filter fun e => e.channel? = some c) = delivered c events := by
  induction events with
  | nil => rfl
  | cons e events ih =>
      by_cases h : e.channel? = some c
      · rw [List.filter_cons_of_pos (by simpa using h), delivered_cons, delivered_cons, ih]
      · obtain ⟨hcloses, hbytes⟩ := closes_of_channel_ne h
        rw [List.filter_cons_of_neg (by simpa using h), ih, delivered_cons, hcloses, hbytes]
        rfl

theorem find?_closes_filter (c : Channel) (events : List Event) :
    (events.filter fun e => e.channel? = some c).find? (Event.closes c) =
      events.find? (Event.closes c) := by
  induction events with
  | nil => rfl
  | cons e events ih =>
      by_cases h : e.channel? = some c
      · rw [List.filter_cons_of_pos (by simpa using h), List.find?_cons, List.find?_cons, ih]
      · rw [List.filter_cons_of_neg (by simpa using h), ih, List.find?_cons, (closes_of_channel_ne h).1]

theorem linesOn_filter (c : Channel) (events : List Event) :
    linesOn c (events.filter fun e => e.channel? = some c) = linesOn c events := by
  rw [linesOn, linesOn, delivered_filter, readToEnd, readToEnd, find?_closes_filter]

theorem linesOn_stream (c : Channel) (s : Stream) : linesOn c (s.events c) = s.lines := by
  have hopen : closed c (s.chunks.map (Event.bytes c)) = false := by
    simp [closed, Event.closes]
  have hdelivered : delivered c (s.chunks.map (Event.bytes c)) = s.bytes := by
    have hall : (s.chunks.map (Event.bytes c)).takeWhile (fun e => !e.closes c) =
        s.chunks.map (Event.bytes c) := by
      rw [List.takeWhile_eq_self_iff]
      simp [Event.closes]
    rw [delivered, hall, List.flatMap_map, Stream.bytes]
    simp [Event.bytesOn, List.flatMap_def]
  have hclosing : (s.closing c).bytesOn c = [] := by
    unfold Stream.closing
    split <;> rfl
  have hend : decide (s.closing c = .ends c) = decide (s.failure = none) := by
    unfold Stream.closing
    cases s.failure <;> simp
  rw [Stream.events, linesOn, delivered_of_open hopen, hdelivered, hclosing, List.append_nil,
    readToEnd_concat, hopen, Stream.lines]
  simp [hend]

/-- Nothing disturbs a run before both pipes have ended and the child has exited: the timeout is not
due, and no cancellation comes. -/
def Undisturbed (deadline : Option Rat) (events : List Event) : Prop :=
  ∀ past, past <+: events → finished past = false →
    (∀ d ∈ deadline, elapsed past < d) ∧ ¬past ++ [.cancels] <+: events

instance (deadline : Option Rat) (events : List Event) : Decidable (Undisturbed deadline events) :=
  decidable_of_iff (∀ past ∈ events.inits, finished past = false →
      (∀ d ∈ deadline, elapsed past < d) ∧ ¬past ++ [.cancels] <+: events)
    (by simp only [List.mem_inits]; rfl)

theorem Undisturbed.completes (h : Undisturbed deadline events) (hfinished : finished events = true) :
    ∃ past, past <+: events ∧ Completes deadline past := by
  rcases fate deadline events with hwaiting | ⟨past, hpast, hcompletes | ⟨cause, moment, hstops⟩⟩
  · exact absurd hfinished (Bool.eq_false_iff.1 (hwaiting.unfinished events (List.prefix_refl _)))
  · exact ⟨past, hpast, hcompletes⟩
  · have hunfinished := hstops.finished_eq_false
    cases hstops with
    | timeout huntil hdeadline hdue =>
        exact absurd ((h past hpast hunfinished).1 moment hdeadline) (not_lt_of_ge hdue)
    | cancellation huntil hlast =>
        cases past using List.reverseRecOn with
        | nil => simp at hlast
        | append_singleton past e =>
            obtain rfl : e = .cancels := by simpa using hlast
            have hwaiting := until_waiting_concat.1 huntil
            have hbefore := hwaiting.unfinished past (List.prefix_refl _)
            exact absurd hpast (h past ((List.prefix_append _ _).trans hpast) hbefore).2

theorem linesOn_append_of_closed (h : closed c past = true) (later : List Event) :
    linesOn c (past ++ later) = linesOn c past := by
  induction later using List.reverseRecOn with
  | nil => rw [List.append_nil]
  | append_singleton later e ih =>
      have hclosed : closed c (past ++ later) = true := by
        simp only [closed, List.any_append, Bool.or_eq_true] at h ⊢
        exact .inl h
      rw [← List.append_assoc, linesOn_of_closed hclosed, ih]

theorem linesOn_of_finished (hfinished : finished past = true) (hpast : past <+: events) :
    (∀ c, linesOn c past = linesOn c events) ∧ exitCode? past = exitCode? events := by
  obtain ⟨later, rfl⟩ := hpast
  simp only [finished, Bool.and_eq_true] at hfinished
  obtain ⟨⟨hout, herr⟩, hexit⟩ := hfinished
  refine ⟨fun c => ?_, ?_⟩
  · cases c with
    | out => exact (linesOn_append_of_closed hout later).symm
    | err => exact (linesOn_append_of_closed herr later).symm
  · obtain ⟨code, hcode⟩ := Option.isSome_iff_exists.1 hexit
    rw [exitCode?] at hcode
    rw [exitCode?, exitCode?, List.findSome?_append, hcode]
    rfl

end History

/-- The child of a command is run, nobody disturbs it, what comes through its pipes makes up two
streams, and its first exit is with a code. -/
structure RunsThrough (m : Machine) (workDir : Path) (timeout : Option Number) (script : Script)
    (streams : PerChannel Stream) (code : Int) : Prop where
  opens : ∃ opened, m.openLog workDir = .ok opened
  spawns : script.spawn = none
  undisturbed : Undisturbed (dueAt timeout) script.events
  pipes : ∀ c, (script.events.filter fun e => e.channel? = some c) = (streams.get c).events c
  exits : exitCode? script.events = some code

variable {m : Machine} {workDir : Path} {timeout : Option Number} {script : Script}
  {streams : PerChannel Stream} {code : Int}

theorem RunsThrough.linesOn_eq (h : RunsThrough m workDir timeout script streams code) (c : Channel) :
    linesOn c script.events = (streams.get c).lines := by
  rw [← linesOn_filter, h.pipes c, linesOn_stream]

theorem RunsThrough.finished (h : RunsThrough m workDir timeout script streams code) :
    finished script.events = true := by
  have hclosed (c : Channel) : closed c script.events = true := by
    have hmem : (streams.get c).closing c ∈ script.events := by
      have hin : (streams.get c).closing c ∈ (streams.get c).events c := List.mem_concat_self
      rw [← h.pipes c] at hin
      exact List.mem_of_mem_filter hin
    refine List.any_eq_true.2 ⟨_, hmem, ?_⟩
    unfold Stream.closing
    split <;> simp [Event.closes]
  rw [History.finished, hclosed, hclosed, h.exits]
  rfl

theorem RunsThrough.result_eq (limit : Nat) (c : Command) (redactions : Pairs)
    (h : RunsThrough m workDir timeout script streams code) :
    (executeWithin limit m c workDir redactions timeout script).1.result =
      .ok ⟨code, streams.out.captured (orderedRedactions redactions),
        streams.err.captured (orderedRedactions redactions)⟩ := by
  obtain ⟨⟨log, files⟩, hopen⟩ := h.opens
  obtain ⟨past, hpast, hcompletes⟩ := h.undisturbed.completes h.finished
  obtain ⟨hlinesOn, hexit⟩ := linesOn_of_finished hcompletes.finished hpast
  have hlife : past <+: RunState.played (m.terms limit timeout script) script.events :=
    hpast.trans (List.prefix_append _ _)
  obtain ⟨code', hcode, hstage, -, hlines, -⟩ :=
    RunState.after_played_of_completes (t := m.terms limit timeout script) hlife hcompletes
  obtain rfl : code' = code := Option.some.inj (hcode.symm.trans (hexit.trans h.exits))
  have hcaptured (channel : Channel) :
      ((m.handling redactions).recordOf log files (RunState.heard (m.terms limit timeout script)
        (RunState.played (m.terms limit timeout script) script.events))).captured channel =
        (streams.get channel).captured (orderedRedactions redactions) := by
    rw [Handling.recordOf_captured, hlines, onChannel_completed, hlinesOn, h.linesOn_eq, List.map_map]
    rfl
  rw [executeWithin_of_spawn _ _ _ _ hopen h.spawns]
  simp only [RunState.ending?, hstage, Option.getD_some, resultOf, hcaptured]
  rfl

theorem Stream.encode_captured (replacements : List Replacement) (s : Stream) :
    Utf8.encode (s.captured replacements).toList = s.lines.flatMap fun line =>
      Utf8.encode (redact replacements (Line.text line)).toList ++ [Line.feed] := by
  have hjoin := BuildLog.flatMap_lineBytes
    (s.lines.map fun line => redact replacements (Line.text line))
  rw [List.map_map, List.flatMap_map] at hjoin
  exact hjoin.symm

/-- The output of a command that runs through is a function of the bytes of each pipe, and of
whether the pipe failed in the end. -/
theorem result_of_runsThrough (limit : Nat) (c : Command) (redactions : Pairs)
    (h : RunsThrough m workDir timeout script streams code) :
    (executeWithin limit m c workDir redactions timeout script).1.result =
        .ok ⟨code, streams.out.captured (orderedRedactions redactions),
          streams.err.captured (orderedRedactions redactions)⟩ ∧
      (∀ channel, ∃ (bodies : List (List UInt8)) (rest : List UInt8),
        (streams.get channel).bytes = (bodies.map (· ++ [Line.feed])).flatten ++ rest ∧
        (∀ body ∈ bodies, Line.feed ∉ body) ∧ Line.feed ∉ rest ∧
        Utf8.encode ((streams.get channel).captured (orderedRedactions redactions)).toList =
          (bodies.map (· ++ [Line.feed]) ++
            if (streams.get channel).failure = none ∧ rest ≠ [] then [rest] else
              []).flatMap fun segment =>
              Utf8.encode (redact (orderedRedactions redactions) (Line.text segment)).toList ++
                [Line.feed]) ∧
      ∀ (limit' : Nat) (m' : Machine) (c' : Command) (workDir' : Path) (timeout' : Option Number)
        (script' : Script) (streams' : PerChannel Stream),
          RunsThrough m' workDir' timeout' script' streams' code →
        (∀ channel, (streams'.get channel).bytes = (streams.get channel).bytes ∧
          ((streams'.get channel).failure = none ↔ (streams.get channel).failure = none)) →
        (executeWithin limit' m' c' workDir' redactions timeout' script').1.result =
          (executeWithin limit m c workDir redactions timeout script).1.result := by
  refine ⟨h.result_eq limit c redactions, fun channel => ?_, ?_⟩
  · obtain ⟨bodies, rest, hbytes, hbodies, hrest, hlines⟩ := (streams.get channel).exists_segments
    refine ⟨bodies, rest, hbytes, hbodies, hrest, ?_⟩
    rw [Stream.encode_captured, hlines]
  · intro limit' m' c' workDir' timeout' script' streams' h' hsame
    have hcaptured (channel : Channel) :
        (streams'.get channel).captured (orderedRedactions redactions) =
          (streams.get channel).captured (orderedRedactions redactions) := by
      rw [Stream.captured, Stream.captured, Stream.lines_congr (hsame channel).1 (hsame channel).2]
    have hout : streams'.out.captured (orderedRedactions redactions) =
        streams.out.captured (orderedRedactions redactions) := hcaptured .out
    have herr : streams'.err.captured (orderedRedactions redactions) =
        streams.err.captured (orderedRedactions redactions) := hcaptured .err
    rw [h'.result_eq limit' c' redactions, h.result_eq limit c redactions, hout, herr]

def Script.ragged : Script :=
  ⟨[.bytes .out [0x61, 0xC3], .exits 3, .bytes .err [0x6F, 0x6B, 0x0A, 0x6C],
    .bytes .out [0xA9, 0x0A], .sleeps 2, .bytes .out [], .fails .err "gone", .exits 4,
    .bytes .out [0x62], .ends .out, .cancels], .works, none⟩

theorem result_of_runsThrough_ragged :
    RunsThrough .bare (.ofString "/") (some (.whole 10)) .ragged
        ⟨⟨[[0x61, 0xC3], [0xA9, 0x0A], [], [0x62]], none⟩,
          ⟨[[0x6F, 0x6B, 0x0A, 0x6C]], some "gone"⟩⟩ 3 ∧
      (executeWithin 1 .bare .bare (.ofString "/") (.ofList [("b", "*")]) (some (.whole 10))
        .ragged).1.result = .ok ⟨3, "aé\n*\n", "ok\n"⟩ := by
  have h : RunsThrough .bare (.ofString "/") (some (.whole 10)) .ragged
      ⟨⟨[[0x61, 0xC3], [0xA9, 0x0A], [], [0x62]], none⟩, ⟨[[0x6F, 0x6B, 0x0A, 0x6C]], some "gone"⟩⟩ 3 :=
    ⟨Machine.bare_opens, rfl, by decide +kernel, fun c => by cases c <;> decide +kernel, rfl⟩
  refine ⟨h, (result_of_runsThrough 1 _ _ h).1.trans ?_⟩
  decide +kernel

end Workcell
