import Workcell.Proofs.Run.History

namespace Workcell

open History

namespace Occurrence

def line? : Occurrence → Option (Channel × List UInt8)
  | line c bytes => some (c, bytes)
  | note _ => none

end Occurrence

def linesAmong (occurrences : List Occurrence) : List (Channel × List UInt8) :=
  occurrences.filterMap Occurrence.line?

@[simp]
theorem linesAmong_append (a b : List Occurrence) :
    linesAmong (a ++ b) = linesAmong a ++ linesAmong b := by
  simp [linesAmong]

namespace History

def complaints (past : List Event) : Event → List Note
  | .fails c text => if closed c past then [] else [Reader.unreadable c.name text]
  | _ => []

def announced (past : List Event) (e : Event) : List Occurrence :=
  (completedBy past e).map (fun p => .line p.1 p.2) ++ (complaints past e).map .note

theorem linesAmong_announced (past : List Event) (e : Event) :
    linesAmong (announced past e) = completedBy past e := by
  simp [announced, linesAmong, List.filterMap_map, Function.comp_def, Occurrence.line?]

end History

namespace Pipe

variable (limit : Nat) {c : Channel} {p : Pipe} {past : List Event} {e : Event}

def Reflects (p : Pipe) (c : Channel) (past : List Event) : Prop :=
  if closed c past then p.ended = true else p.Holds (cut (delivered c past)).2

theorem Reflects.ended_eq (h : p.Reflects c past) : p.ended = closed c past := by
  unfold Reflects at h
  split at h
  · next hc => rw [h, hc]
  · next hc => rw [h.not_ended]; simpa using hc

theorem reflects_of_closed (hc : closed c past = true) : p.Reflects c past ↔ p.ended = true := by
  rw [Reflects, if_pos hc]

theorem reflects_of_open (hc : closed c past = false) :
    p.Reflects c past ↔ p.Holds (cut (delivered c past)).2 := by
  rw [Reflects, hc]
  rfl

theorem Reflects.other (h : p.Reflects c past) (hc : e.closes c = false) (hb : e.bytesOn c = []) :
    p.Reflects c (past ++ [e]) := by
  have hclosed : closed c (past ++ [e]) = closed c past := by rw [closed_concat, hc, Bool.or_false]
  have hdelivered : delivered c (past ++ [e]) = delivered c past := by
    rw [delivered_concat, hb, List.append_nil, ite_self]
  rwa [Reflects, hclosed, hdelivered]

theorem Reflects.feed (h : p.Reflects c past) (chunk : List UInt8) :
    (p.feed limit c chunk).1.Reflects c (past ++ [.bytes c chunk]) ∧
      (p.feed limit c chunk).2 = announced past (.bytes c chunk) := by
  have hclosed : closed c (past ++ [.bytes c chunk]) = closed c past := by
    rw [closed_concat, show (Event.bytes c chunk).closes c = false from rfl, Bool.or_false]
  cases hc : closed c past with
  | true =>
      have hended := (reflects_of_closed hc).1 h
      rw [Pipe.feed, proceed_of_ended limit hended, reflects_of_closed (hclosed.trans hc), announced,
        completedBy_bytes_of_closed hc]
      exact ⟨hended, rfl⟩
  | false =>
      obtain ⟨hholds, hlines⟩ := ((reflects_of_open hc).1 h).feed limit chunk
      rw [reflects_of_open (hclosed.trans hc), delivered_of_open hc, cut_append, hlines, announced,
        completedBy_bytes_of_open hc]
      have hbytes : (Event.bytes c chunk).bytesOn c = chunk := by simp [Event.bytesOn]
      rw [hbytes]
      exact ⟨hholds, by simp [complaints]⟩

theorem Reflects.finish (h : p.Reflects c past) :
    (p.finish limit c).1.Reflects c (past ++ [.ends c]) ∧
      (p.finish limit c).2 = announced past (.ends c) := by
  have hclosed : closed c (past ++ [.ends c]) = true := by simp [closed_concat, Event.closes]
  rw [reflects_of_closed hclosed]
  cases hc : closed c past with
  | true =>
      have hended := (reflects_of_closed hc).1 h
      rw [Pipe.finish, proceed_of_ended limit hended]
      exact ⟨hended, by simp [announced, complaints, completedBy, hc]⟩
  | false =>
      obtain ⟨hended, hlines⟩ := ((reflects_of_open hc).1 h).finish limit
      exact ⟨hended, by simp [hlines, announced, complaints, completedBy, hc]⟩

theorem Reflects.abandon (h : p.Reflects c past) (text : String) :
    (p.abandon limit c text).1.Reflects c (past ++ [.fails c text]) ∧
      (p.abandon limit c text).2 = announced past (.fails c text) := by
  have hclosed : closed c (past ++ [.fails c text]) = true := by simp [closed_concat, Event.closes]
  rw [reflects_of_closed hclosed]
  cases hc : closed c past with
  | true =>
      have hended := (reflects_of_closed hc).1 h
      rw [Pipe.abandon, proceed_of_ended limit hended]
      exact ⟨hended, by simp [announced, complaints, completedBy, hc]⟩
  | false =>
      obtain ⟨hended, hnotes⟩ := ((reflects_of_open hc).1 h).abandon limit text
      exact ⟨hended, by simp [hnotes, announced, complaints, completedBy, hc]⟩

end Pipe

namespace RunState

variable {t : Terms} {s u : RunState} {past events : List Event} {e : Event}

/-- The output and the exit are awaited, and the state is as the events have left it. -/
structure Watches (s : RunState) (past : List Event) : Prop where
  pipes : ∀ c, (s.pipes.get c).Reflects c past
  exit : s.exit = exitCode? past
  clock : s.clock = elapsed past
  stage : s.stage = .watching
  kills : s.kills = []

theorem initial_watches : initial.Watches [] where
  pipes c := by
    rw [Pipe.reflects_of_open rfl]
    cases c <;> exact Pipe.fresh_holds
  exit := rfl
  clock := rfl
  stage := rfl
  kills := rfl

/-- The wait ends as soon as both pipes have ended and the child has exited. -/
theorem Watches.settle (h : s.Watches past) (moment : Rat) :
    s.settle moment = match finished past, exitCode? past with
      | true, some code => { s with stage := .over (.exited code) moment }
      | _, _ => s := by
  have hout : s.pipes.out.ended = closed .out past := (h.pipes .out).ended_eq
  have herr : s.pipes.err.ended = closed .err past := (h.pipes .err).ended_eq
  unfold RunState.settle
  rw [h.stage, h.exit, finished, hout, herr]
  cases exitCode? past with
  | none => simp
  | some code => cases closed .out past <;> cases closed .err past <;> rfl

theorem Watches.settle_of_unfinished (h : s.Watches past) (hf : finished past = false) (moment : Rat) :
    s.settle moment = s := by
  rw [h.settle, hf]

theorem Watches.settle_of_finished (h : s.Watches past) (hf : finished past = true) (moment : Rat) :
    ∃ code, exitCode? past = some code ∧
      s.settle moment = { s with stage := .over (.exited code) moment } := by
  have hexit : (exitCode? past).isSome = true := by
    simp only [finished, Bool.and_eq_true] at hf
    exact hf.2
  obtain ⟨code, hcode⟩ := Option.isSome_iff_exists.1 hexit
  exact ⟨code, hcode, by rw [h.settle, hf, hcode]⟩

theorem Watches.receive (h : s.Watches past) {c : Channel} {received : Pipe × List Occurrence}
    (hpipe : received.1.Reflects c (past ++ [e])) (hocc : received.2 = announced past e)
    (hother : ∀ d, d ≠ c → e.closes d = false ∧ e.bytesOn d = [])
    (hexit : e.exitCode? = none) (hpause : e.pause = 0) :
    ∃ u : RunState, u.Watches (past ++ [e]) ∧
      s.receive c received = (u.settle u.clock, announced past e) := by
  refine ⟨{ s with pipes := s.pipes.set c received.1 }, ⟨fun d => ?_, ?_, ?_, h.stage, h.kills⟩, ?_⟩
  · by_cases hd : d = c
    · subst hd
      rwa [PerChannel.get_set_self]
    · rw [PerChannel.get_set_of_ne _ hd]
      exact (h.pipes d).other (hother d hd).1 (hother d hd).2
  · rw [exitCode?_concat, hexit, Option.or_none]
    exact h.exit
  · rw [elapsed_concat, hpause, Rat.add_zero]
    exact h.clock
  · rw [RunState.receive, h.stage, hocc]

theorem Watches.advance_eq_step (h : s.Watches past) (t : Terms) (e : Event) :
    s.advance t e = s.step t e := by
  rw [RunState.advance, h.stage]

/-- An event that is neither a pause nor a cancellation changes the state as it changes the history,
and then the wait may be at its end. -/
theorem Watches.advance (h : s.Watches past) (t : Terms) (hloud : ¬e.IsSilent) :
    ∃ u : RunState, u.Watches (past ++ [e]) ∧
      s.advance t e = (u.settle u.clock, announced past e) := by
  rw [h.advance_eq_step]
  cases e with
  | bytes c chunk =>
      obtain ⟨hpipe, hocc⟩ := (h.pipes c).feed t.limit chunk
      refine h.receive hpipe hocc (fun d hd => ⟨rfl, ?_⟩) rfl rfl
      simp [Event.bytesOn, Ne.symm hd]
  | ends c =>
      obtain ⟨hpipe, hocc⟩ := (h.pipes c).finish t.limit
      refine h.receive hpipe hocc (fun d hd => ⟨?_, rfl⟩) rfl rfl
      simp [Event.closes, Ne.symm hd]
  | fails c text =>
      obtain ⟨hpipe, hocc⟩ := (h.pipes c).abandon t.limit text
      refine h.receive hpipe hocc (fun d hd => ⟨?_, rfl⟩) rfl rfl
      simp [Event.closes, Ne.symm hd]
  | exits code =>
      refine ⟨{ s with exit := some (s.exit.getD code) },
        ⟨fun c => (h.pipes c).other rfl rfl, ?_, ?_, h.stage, h.kills⟩, ?_⟩
      · rw [exitCode?_concat, ← h.exit]
        cases s.exit <;> rfl
      · rw [elapsed_concat, show (Event.exits code).pause = 0 from rfl, Rat.add_zero]
        exact h.clock
      · rfl
  | sleeps seconds => exact absurd (.sleeps seconds) hloud
  | cancels => exact absurd .cancels hloud

theorem Watches.advance_sleeps (h : s.Watches past) (t : Terms) (seconds : Rat) :
    ∃ u : RunState, u.Watches (past ++ [.sleeps seconds]) ∧
      s.advance t (.sleeps seconds) = u.tick t := by
  refine ⟨{ s with clock := s.clock + seconds },
    ⟨fun c => (h.pipes c).other rfl rfl, ?_, ?_, h.stage, h.kills⟩, ?_⟩
  · rw [exitCode?_concat, show (Event.sleeps seconds).exitCode? = none from rfl, Option.or_none]
    exact h.exit
  · rw [elapsed_concat, ← h.clock]
    rfl
  · rw [h.advance_eq_step]
    rfl

theorem Watches.expire_of_early (h : s.Watches past) (hd : ∀ d ∈ t.deadline, elapsed past < d) :
    s.expire t = s := by
  unfold expire
  rw [h.stage, h.clock]
  cases hdeadline : t.deadline with
  | none => rfl
  | some d => simp [Rat.not_le.2 (hd d hdeadline)]

theorem Watches.tick_of_early (h : s.Watches past) (hd : ∀ d ∈ t.deadline, elapsed past < d) :
    s.tick t = (s, []) := by
  rw [tick, h.expire_of_early hd, giveUp, h.stage]

def follow (t : Terms) (s : RunState) : List Event → RunState × List Occurrence
  | [] => (s, [])
  | e :: r => ((follow t (s.advance t e).1 r).1, (s.advance t e).2 ++ (follow t (s.advance t e).1 r).2)

theorem follow_append (t : Terms) (s : RunState) (a b : List Event) :
    s.follow t (a ++ b) =
      (((s.follow t a).1.follow t b).1, (s.follow t a).2 ++ ((s.follow t a).1.follow t b).2) := by
  induction a generalizing s with
  | nil => simp [follow]
  | cons e a ih => simp [follow, ih]

theorem follow_concat (t : Terms) (s : RunState) (past : List Event) (e : Event) :
    s.follow t (past ++ [e]) =
      (((s.follow t past).1.advance t e).1,
        (s.follow t past).2 ++ ((s.follow t past).1.advance t e).2) := by
  simp [follow_append, follow]

def after (t : Terms) (events : List Event) : RunState := ((start t).follow t events).1

def heard (t : Terms) (events : List Event) : List Occurrence := ((start t).follow t events).2

theorem after_concat (t : Terms) (past : List Event) (e : Event) :
    after t (past ++ [e]) = ((after t past).advance t e).1 := by
  rw [after, follow_concat, after]

theorem heard_concat (t : Terms) (past : List Event) (e : Event) :
    heard t (past ++ [e]) = heard t past ++ ((after t past).advance t e).2 := by
  rw [heard, follow_concat, heard, after]

theorem unkilled_not_mem_announced (past : List Event) (e : Event) :
    Occurrence.note unkilled ∉ announced past e := by
  have htext (name text : String) : unkilled ≠ Reader.unreadable name text := by
    intro h
    have hhead := congrArg (fun n : Note => n.text.toList.head?) h
    have hleft : (toString "Process ").toList.head? = some 'P' := by decide
    have hright : (toString "Error reading ").toList.head? = some 'E' := by decide
    simp [unkilled, Reader.unreadable, String.toList_append, hleft, hright] at hhead
  cases e with
  | fails c text => simp [announced, complaints, completedBy, htext]
  | _ => simp [announced, complaints]

/-- As long as the output and the exit are awaited, the state follows from the history, and the
lines that became known are the lines completed. -/
theorem follow_of_waiting (h : Waiting t.deadline events) :
    (after t events).Watches events ∧ linesAmong (heard t events) = completed events ∧
      Occurrence.note unkilled ∉ heard t events := by
  -- by the last event, since the history that the state reflects grows at its end
  induction events using List.reverseRecOn with
  | nil =>
      have hstart : start t = initial := initial_watches.expire_of_early (waiting_nil_iff.1 h)
      refine ⟨?_, rfl, by simp [heard, follow]⟩
      rw [after, follow, hstart]
      exact initial_watches
  | append_singleton past e ih =>
      obtain ⟨hpast, hfinished, hearly, hcancel⟩ := waiting_concat_iff.1 h
      obtain ⟨hwatches, hlines, hquiet⟩ := ih hpast
      rw [after_concat, heard_concat, completed_concat, linesAmong_append, hlines, List.mem_append,
        not_or]
      by_cases hsilent : e.IsSilent
      · cases hsilent with
        | cancels => exact absurd rfl hcancel
        | sleeps seconds =>
            obtain ⟨u, hu, hadvance⟩ := hwatches.advance_sleeps t seconds
            rw [hadvance, hu.tick_of_early hearly]
            exact ⟨hu, rfl, hquiet, by simp⟩
      · obtain ⟨u, hu, hadvance⟩ := hwatches.advance t hsilent
        rw [hadvance, hu.settle_of_unfinished hfinished, linesAmong_announced]
        exact ⟨hu, rfl, hquiet, unkilled_not_mem_announced past e⟩

end RunState

end Workcell
