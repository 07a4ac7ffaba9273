import Workcell.Proofs.Run.Fate
import Workcell.Proofs.Run.Watch

namespace Workcell

open History

namespace RunState

variable {t : Terms} {s u : RunState} {past events later : List Event} {e : Event} {cause last : Cause}
  {moment since : Rat} {warned : Bool}

theorem advance_of_over {ending : Ending} {since : Rat} (h : s.stage = .over ending since) (t : Terms)
    (e : Event) : s.advance t e = (s, []) := by
  rw [RunState.advance, h]

theorem follow_of_over {ending : Ending} {since : Rat} (h : s.stage = .over ending since) (t : Terms)
    (events : List Event) : s.follow t events = (s, []) := by
  induction events with
  | nil => rfl
  | cons e events ih => simp [follow, advance_of_over h, ih]

def warningIf (warned : Bool) : List Occurrence := if warned then [.note unkilled] else []

/-- The exit of a child is awaited that was to be killed after `past` and lives on. -/
structure Reaps (s : RunState) (t : Terms) (cause : Cause) (moment : Rat)
    (past later : List Event) : Prop where
  lingers : Lingers t.kill moment past later
  exit : s.exit = none
  clock : s.clock = elapsed (past ++ later)
  stage : s.stage = .reaping cause moment
  kills : s.kills = (killsAsked t.posix past).map (moment, ·)

structure Rests (s : RunState) (t : Terms) (cause : Cause) (moment : Rat) (past later : List Event)
    (last : Cause) (since : Rat) (warned : Bool) : Prop where
  reaped : Reaped t.kill cause moment past later last since warned
  stage : s.stage = .over (.stopped last) since
  kills : s.kills = (killsAsked t.posix past).map (moment, ·)

theorem giveUp_of_reaping (h : s.stage = .reaping cause since) : s.giveUp =
    if since + killGrace ≤ s.clock then
      ({ s with stage := .over (.stopped cause) (since + killGrace) }, [.note unkilled])
    else (s, []) := by
  rw [giveUp, h]

theorem step_sleeps_of_reaping (h : s.stage = .reaping cause since) (t : Terms) (seconds : Rat) :
    s.step t (.sleeps seconds) =
      if since + killGrace ≤ s.clock + seconds then
        ({ s with clock := s.clock + seconds, stage := .over (.stopped cause) (since + killGrace) },
          [.note unkilled])
      else ({ s with clock := s.clock + seconds }, []) := by
  have hexpire : expire t { s with clock := s.clock + seconds } =
      { s with clock := s.clock + seconds } := by
    rw [expire, h]
  rw [step, tick, hexpire]
  exact giveUp_of_reaping h

theorem Watches.cancels (h : s.Watches past) : s.Watches (past ++ [.cancels]) where
  pipes c := (h.pipes c).other rfl rfl
  exit := by
    rw [exitCode?_concat, show Event.cancels.exitCode? = none from rfl, Option.or_none]
    exact h.exit
  clock := by
    rw [elapsed_concat, show Event.cancels.pause = 0 from rfl, Rat.add_zero]
    exact h.clock
  stage := h.stage
  kills := h.kills

theorem Watches.killOf_toList (h : s.Watches past) (t : Terms) :
    (s.killOf t).toList = killsAsked t.posix past := by
  rw [killOf, killsAsked, h.exit]
  cases t.posix <;> cases exitCode? past <;> rfl

theorem Watches.exitAfter_eq_none_iff (h : s.Watches past) (t : Terms) :
    s.exitAfter t = none ↔ Survives t.kill past := by
  rw [exitAfter, killOf, Survives, h.exit]
  cases t.posix <;> cases exitCode? past <;> cases t.kill <;> simp

theorem Watches.kill_of_survives (h : s.Watches past) (hs : Survives t.kill past) :
    s.kill t cause moment =
      { s with stage := .reaping cause moment, kills := (killsAsked t.posix past).map (moment, ·),
               exit := none } := by
  rw [kill, (h.exitAfter_eq_none_iff t).2 hs, h.killOf_toList, h.kills]
  rfl

theorem Watches.kill_of_not_survives (h : s.Watches past) (cause : Cause) (moment : Rat)
    (hs : ¬Survives t.kill past) :
    (s.kill t cause moment).stage = .over (.stopped cause) moment ∧
      (s.kill t cause moment).kills = (killsAsked t.posix past).map (moment, ·) := by
  obtain ⟨code, hcode⟩ := Option.ne_none_iff_exists'.1 (mt (h.exitAfter_eq_none_iff t).1 hs)
  rw [kill, hcode, h.killOf_toList, h.kills]
  exact ⟨rfl, rfl⟩

/-- After `later`, the exit of the child is still awaited, or the run is over. -/
inductive Reaping (s : RunState) (t : Terms) (cause : Cause) (moment : Rat) (past later : List Event) :
    Bool → Prop
  | reaps : s.Reaps t cause moment past later → Reaping s t cause moment past later false
  | rests {part : List Event} {last : Cause} {since : Rat} {warned : Bool} : part <+: later →
      s.Rests t cause moment past part last since warned → Reaping s t cause moment past later warned

/-- A child whose wait is ended goes on living, is gone at once, or has used up its time already. -/
theorem Watches.kill_giveUp (h : s.Watches past) (t : Terms) (cause : Cause) (moment : Rat) :
    ∃ warned, (s.kill t cause moment).giveUp.1.Reaping t cause moment past [] warned ∧
      (s.kill t cause moment).giveUp.2 = warningIf warned := by
  by_cases hs : Survives t.kill past
  · rw [h.kill_of_survives hs, giveUp_of_reaping rfl, h.clock]
    by_cases hlate : moment + killGrace ≤ elapsed past
    · have hreaped : Reaped t.kill cause moment past [] cause (moment + killGrace) true :=
        .outlived until_nil (by rwa [List.append_nil]) List.not_mem_nil (by rwa [List.append_nil])
      rw [if_pos hlate]
      exact ⟨true, .rests List.prefix_rfl ⟨hreaped, rfl, rfl⟩, rfl⟩
    · rw [if_neg hlate]
      refine ⟨false, .reaps ⟨lingers_nil_iff.2 ⟨hs, not_le.1 hlate⟩, rfl, ?_, rfl, rfl⟩, rfl⟩
      rw [List.append_nil]
  · obtain ⟨hstage, hkills⟩ := h.kill_of_not_survives cause moment hs
    rw [giveUp, hstage]
    exact ⟨false, .rests List.prefix_rfl ⟨.gone hs, hstage, hkills⟩, rfl⟩

theorem Watches.giveUp_kill_of_early (h : s.Watches past) (hearly : elapsed past < moment + killGrace) :
    (s.kill t cause moment).giveUp = (s.kill t cause moment, []) := by
  by_cases hs : Survives t.kill past
  · rw [h.kill_of_survives hs, giveUp_of_reaping rfl, h.clock, if_neg (not_le.2 hearly)]
  · obtain ⟨hstage, -⟩ := h.kill_of_not_survives cause moment hs
    rw [giveUp, hstage]

/-- The exit is awaited no longer once the child exits, its time is used up or a cancellation comes. -/
theorem Reaps.advance (h : s.Reaps t cause moment past later) (e : Event) :
    ∃ warned, (s.advance t e).1.Reaping t cause moment past (later ++ [e]) warned ∧
      (s.advance t e).2 = warningIf warned := by
  have hstep : s.advance t e = s.step t e := by rw [RunState.advance, h.stage]
  have hearly := h.lingers.early _ (List.prefix_refl _)
  have hpause : elapsed (past ++ (later ++ [e])) = s.clock + e.pause := by
    rw [← List.append_assoc, elapsed_concat, h.clock]
  -- an event that is neither a pause nor an exit nor a cancellation changes nothing
  have hidle (hexit : e.exitCode? = none) (hzero : e.pause = 0) (hcancel : e ≠ .cancels)
      (hsame : s.step t e = (s, [])) :
      ∃ warned, (s.advance t e).1.Reaping t cause moment past (later ++ [e]) warned ∧
        (s.advance t e).2 = warningIf warned := by
    have hclock : elapsed (past ++ (later ++ [e])) = elapsed (past ++ later) := by
      rw [hpause, hzero, add_zero, h.clock]
    rw [hstep, hsame]
    refine ⟨false, .reaps ⟨lingers_concat_iff.2 ⟨h.lingers, hexit, ?_, hcancel⟩, h.exit, ?_,
      h.stage, h.kills⟩, rfl⟩
    · rwa [hclock]
    · rw [hclock, h.clock]
  cases e with
  | bytes c chunk => exact hidle rfl rfl (by simp) (by rw [step, receive, h.stage])
  | ends c => exact hidle rfl rfl (by simp) (by rw [step, receive, h.stage])
  | fails c text => exact hidle rfl rfl (by simp) (by rw [step, receive, h.stage])
  | sleeps seconds =>
      rw [hstep, step_sleeps_of_reaping h.stage]
      by_cases hlate : moment + killGrace ≤ s.clock + seconds
      · have hreaped : Reaped t.kill cause moment past (later ++ [.sleeps seconds]) cause
            (moment + killGrace) true := by
          refine .outlived (until_lingers_concat.2 h.lingers) ?_ ?_ ?_
          · rw [← List.append_assoc, survives_concat_iff]
            exact ⟨h.lingers.survives, rfl⟩
          · simp [h.lingers.uncancelled]
          · rw [hpause]; exact hlate
        rw [if_pos hlate]
        exact ⟨true, .rests List.prefix_rfl ⟨hreaped, rfl, h.kills⟩, rfl⟩
      · rw [if_neg hlate]
        refine ⟨false, .reaps ⟨lingers_concat_iff.2 ⟨h.lingers, rfl, ?_, by simp⟩, h.exit,
          hpause.symm, h.stage, h.kills⟩, rfl⟩
        rw [hpause]
        exact not_le.1 hlate
  | exits code =>
      rw [hstep, step, h.exit, settle, h.stage]
      exact ⟨false, .rests List.prefix_rfl ⟨.exited h.lingers, by rw [← h.clock], h.kills⟩, rfl⟩
  | cancels =>
      rw [hstep, step, h.stage]
      exact ⟨false, .rests List.prefix_rfl ⟨.cancelled h.lingers, by rw [← h.clock], h.kills⟩, rfl⟩

theorem Reaping.advance (h : s.Reaping t cause moment past later warned) (e : Event) :
    ∃ more, (s.advance t e).1.Reaping t cause moment past (later ++ [e]) (warned || more) ∧
      (s.advance t e).2 = warningIf more := by
  cases h with
  | reaps h => exact h.advance e
  | rests hpart h =>
      rw [advance_of_over h.stage]
      exact ⟨false, by rw [Bool.or_false]; exact .rests (hpart.trans (List.prefix_append _ _)) h, rfl⟩

theorem linesAmong_warningIf (warned : Bool) : linesAmong (warningIf warned) = [] := by
  cases warned <;> rfl

theorem unkilled_mem_warningIf : Occurrence.note unkilled ∈ warningIf warned ↔ warned = true := by
  cases warned <;> simp [warningIf]

/-- The wait is over with the last thing that it waited for, and all lines are known by then. -/
theorem after_of_completes (h : Completes t.deadline past) :
    ∃ code, exitCode? past = some code ∧ (after t past).stage = .over (.exited code) (elapsed past) ∧
      (after t past).kills = [] ∧ linesAmong (heard t past) = completed past ∧
      Occurrence.note unkilled ∉ heard t past := by
  obtain ⟨huntil, hfinished⟩ := h
  cases past using List.reverseRecOn with
  | nil => simp [finished, closed] at hfinished
  | append_singleton past e =>
      have hwaiting := until_waiting_concat.1 huntil
      have hunfinished := hwaiting.unfinished _ (List.prefix_refl _)
      have hloud : ¬e.IsSilent := by
        intro hsilent
        rw [finished_concat_of_silent hsilent] at hfinished
        exact Bool.false_ne_true (hunfinished.symm.trans hfinished)
      obtain ⟨hwatches, hlines, hquiet⟩ := follow_of_waiting hwaiting
      obtain ⟨u, hu, hadvance⟩ := hwatches.advance t hloud
      obtain ⟨code, hcode, hsettle⟩ := hu.settle_of_finished hfinished u.clock
      rw [after_concat, heard_concat, completed_concat, linesAmong_append, hlines, List.mem_append,
        not_or, hadvance, hsettle, linesAmong_announced, ← hu.clock]
      exact ⟨code, hcode, rfl, hu.kills, rfl, hquiet, unkilled_not_mem_announced past e⟩

theorem after_of_stops (hd : ∀ d ∈ t.deadline, 0 ≤ d) (h : Stops t.deadline past cause moment) :
    ∃ warned, (after t past).Reaping t cause moment past [] warned ∧
      linesAmong (heard t past) = completed past ∧
        (Occurrence.note unkilled ∈ heard t past ↔ warned = true) := by
  cases h with
  | timeout huntil hdeadline hdue =>
      cases past using List.reverseRecOn with
      | nil =>
          -- the timeout is due before the first event
          have hexpire : start t = initial.kill t .timeout moment := by
            rw [start, expire, hdeadline]
            exact if_pos hdue
          have hearly : elapsed [] < moment + killGrace :=
            add_pos_of_nonneg_of_pos (hd moment hdeadline) killGrace_pos
          obtain ⟨warned, hreaping, hocc⟩ := initial_watches.kill_giveUp t .timeout moment
          rw [initial_watches.giveUp_kill_of_early hearly] at hreaping hocc
          rw [after, heard, follow, hexpire, hocc, linesAmong_warningIf, unkilled_mem_warningIf]
          exact ⟨warned, hreaping, rfl, Iff.rfl⟩
      | append_singleton past e =>
          have hwaiting := until_waiting_concat.1 huntil
          obtain ⟨seconds, rfl⟩ := sleeps_of_due hwaiting hdeadline hdue
          obtain ⟨hwatches, hlines, hquiet⟩ := follow_of_waiting hwaiting
          obtain ⟨u, hu, hadvance⟩ := hwatches.advance_sleeps t seconds
          have hexpire : u.expire t = u.kill t .timeout moment := by
            rw [expire, hu.stage, hdeadline, hu.clock]
            exact if_pos hdue
          obtain ⟨warned, hreaping, hocc⟩ := hu.kill_giveUp t .timeout moment
          rw [after_concat, heard_concat, completed_concat, linesAmong_append, hlines,
            List.mem_append, hadvance, tick, hexpire, hocc, linesAmong_warningIf,
            unkilled_mem_warningIf]
          exact ⟨warned, hreaping, rfl, by simp [hquiet]⟩
  | cancellation huntil hlast =>
      cases past using List.reverseRecOn with
      | nil => simp at hlast
      | append_singleton past e =>
          obtain rfl : e = .cancels := by simpa using hlast
          obtain ⟨hwatches, hlines, hquiet⟩ := follow_of_waiting (until_waiting_concat.1 huntil)
          have hu := hwatches.cancels
          have hadvance : (after t past).advance t .cancels =
              ((after t past).kill t .cancellation (elapsed (past ++ [.cancels])), []) := by
            rw [hwatches.advance_eq_step, step, hwatches.stage, hu.clock]
          have hearly : elapsed (past ++ [.cancels]) < elapsed (past ++ [.cancels]) + killGrace :=
            lt_add_of_pos_right _ killGrace_pos
          obtain ⟨warned, hreaping, hocc⟩ :=
            hu.kill_giveUp t .cancellation (elapsed (past ++ [.cancels]))
          rw [hu.giveUp_kill_of_early hearly] at hreaping hocc
          rw [after_concat, heard_concat, completed_concat, linesAmong_append, hlines,
            List.mem_append, hadvance, hocc, linesAmong_warningIf, unkilled_mem_warningIf]
          exact ⟨warned, hreaping, rfl, by simp [hquiet]⟩

theorem follow_of_stops (hd : ∀ d ∈ t.deadline, 0 ≤ d) (h : Stops t.deadline past cause moment)
    (later : List Event) :
    ∃ warned, (after t (past ++ later)).Reaping t cause moment past later warned ∧
      linesAmong (heard t (past ++ later)) = completed past ∧
      (Occurrence.note unkilled ∈ heard t (past ++ later) ↔ warned = true) := by
  induction later using List.reverseRecOn with
  | nil => simpa using after_of_stops hd h
  | append_singleton later e ih =>
      obtain ⟨warned, hreaping, hlines, hwarned⟩ := ih
      obtain ⟨more, hnext, hocc⟩ := hreaping.advance e
      rw [← List.append_assoc, after_concat, heard_concat, linesAmong_append, hlines,
        List.mem_append, hocc, hwarned, linesAmong_warningIf, unkilled_mem_warningIf]
      exact ⟨_, hnext, by simp, by simp⟩

theorem Reaping.over_of_late (h : s.Reaping t cause moment past later warned)
    (hlate : moment + killGrace ≤ elapsed (past ++ later)) :
    ∃ ending since, s.stage = .over ending since := by
  cases h with
  | reaps h => exact absurd (h.lingers.early _ (List.prefix_refl _)) (not_lt_of_ge hlate)
  | rests _ h => exact ⟨_, _, h.stage⟩

/-- All that happens in a run: the script, and what comes after it until the run is over. -/
def played (t : Terms) (events : List Event) : List Event := events ++ (after t events).remainder t

theorem over_of_stops (hd : ∀ d ∈ t.deadline, 0 ≤ d) (h : Stops t.deadline past cause moment)
    (hlate : moment + killGrace ≤ elapsed (past ++ later)) :
    ∃ ending since, (after t (past ++ later)).stage = .over ending since := by
  obtain ⟨_, hreaping, -⟩ := follow_of_stops hd h later
  exact hreaping.over_of_late hlate

theorem after_append_of_over {ending : Ending} (h : (after t past).stage = .over ending since)
    (later : List Event) :
    after t (past ++ later) = after t past ∧ heard t (past ++ later) = heard t past := by
  have hfollow := follow_of_over h t later
  rw [after] at hfollow
  rw [after, heard, follow_append, hfollow, after, heard]
  exact ⟨rfl, List.append_nil _⟩

theorem stops_of_waiting (hwaiting : Waiting t.deadline events) :
    ∃ e cause, Stops t.deadline (events ++ [e]) cause (elapsed (events ++ [e])) ∧
      played t events = events ++ [e] ++ [.sleeps killGrace] := by
  obtain ⟨hwatches, -, -⟩ := follow_of_waiting hwaiting
  have huntil (e : Event) : Until (Waiting t.deadline) (events ++ [e]) :=
    until_waiting_concat.2 hwaiting
  cases hdeadline : t.deadline with
  | none =>
      have hstops := Stops.cancellation (huntil .cancels) (by simp)
      rw [hdeadline] at hstops
      refine ⟨.cancels, _, hstops, ?_⟩
      rw [played, remainder, hwatches.stage, hdeadline, List.append_assoc]
      rfl
  | some d =>
      have hdue : elapsed (events ++ [.sleeps (d - elapsed events)]) = d := by
        rw [elapsed_concat, Event.pause]
        exact add_sub_cancel _ _
      have hstops := Stops.timeout (huntil (.sleeps (d - elapsed events))) hdeadline (le_of_eq hdue.symm)
      rw [hdeadline] at hstops
      refine ⟨.sleeps (d - elapsed events), _, by rw [hdue]; exact hstops, ?_⟩
      rw [played, remainder, hwatches.stage, hdeadline, hwatches.clock, List.append_assoc]
      rfl

theorem over_played_of_stops (hd : ∀ d ∈ t.deadline, 0 ≤ d) (h : Stops t.deadline past cause moment)
    (later : List Event) : ∃ ending since, (after t (played t (past ++ later))).stage = .over ending since := by
  obtain ⟨warned, hreaping, -⟩ := follow_of_stops hd h later
  cases hreaping with
  | reaps hreaps =>
      have hplayed : played t (past ++ later) =
          past ++ (later ++ [.sleeps (moment + killGrace - elapsed (past ++ later))]) := by
        rw [played, remainder, hreaps.stage, hreaps.clock, List.append_assoc]
      rw [hplayed]
      refine over_of_stops hd h ?_
      rw [← List.append_assoc, elapsed_concat, Event.pause]
      exact le_of_eq (add_sub_cancel _ _).symm
  | rests _ hrests =>
      rw [played, (after_append_of_over hrests.stage _).1]
      exact ⟨_, _, hrests.stage⟩

/-- Every run comes to its end. -/
theorem played_over (hd : ∀ d ∈ t.deadline, 0 ≤ d) (events : List Event) :
    (∃ past, past <+: played t events ∧
      (Completes t.deadline past ∨ ∃ cause moment, Stops t.deadline past cause moment)) ∧
    ∃ ending since, (after t (played t events)).stage = .over ending since := by
  rcases fate t.deadline events with
    hwaiting | ⟨past, ⟨later, rfl⟩, hcompletes | ⟨cause, moment, hstops⟩⟩
  · obtain ⟨e, cause, hstops, hplayed⟩ := stops_of_waiting hwaiting
    rw [hplayed]
    refine ⟨⟨_, List.prefix_append _ _, .inr ⟨_, _, hstops⟩⟩, over_of_stops hd hstops ?_⟩
    exact le_of_eq (elapsed_concat (events ++ [e]) (.sleeps killGrace)).symm
  · obtain ⟨code, -, hstage, -⟩ := after_of_completes hcompletes
    refine ⟨⟨past, (List.prefix_append _ _).trans (List.prefix_append _ _), .inl hcompletes⟩, ?_⟩
    rw [played, List.append_assoc, (after_append_of_over hstage _).1]
    exact ⟨_, _, hstage⟩
  · exact ⟨⟨past, (List.prefix_append _ _).trans (List.prefix_append _ _), .inr ⟨_, _, hstops⟩⟩,
      over_played_of_stops hd hstops later⟩

/-- A run awaits the output and the exit just as long as its events leave them awaited. -/
theorem stage_eq_watching_iff (hd : ∀ d ∈ t.deadline, 0 ≤ d) :
    (after t events).stage = .watching ↔ Waiting t.deadline events := by
  constructor
  · intro hstage
    rcases fate t.deadline events with
      hwaiting | ⟨past, ⟨later, rfl⟩, hcompletes | ⟨cause, moment, hstops⟩⟩
    · exact hwaiting
    · obtain ⟨code, -, hover, -⟩ := after_of_completes hcompletes
      rw [(after_append_of_over hover later).1, hover] at hstage
      simp at hstage
    · obtain ⟨warned, hreaping, -⟩ := follow_of_stops hd hstops later
      cases hreaping with
      | reaps h => simp [h.stage] at hstage
      | rests _ h => simp [h.stage] at hstage
  · intro hwaiting
    exact (follow_of_waiting hwaiting).1.stage

theorem linesAmong_advance_of_silent (s : RunState) (t : Terms) (h : e.IsSilent) :
    linesAmong (s.advance t e).2 = [] := by
  have hgiveUp (u : RunState) : linesAmong u.giveUp.2 = [] := by
    unfold giveUp
    split
    · split <;> rfl
    · rfl
  rw [RunState.advance]
  split
  · rfl
  · cases h with
    | sleeps seconds => exact hgiveUp _
    | cancels =>
        rw [step]
        split <;> rfl

theorem linesAmong_follow_of_silent (s : RunState) (t : Terms) (h : ∀ e ∈ events, e.IsSilent) :
    linesAmong (s.follow t events).2 = [] := by
  induction events generalizing s with
  | nil => rfl
  | cons e events ih =>
      obtain ⟨he, hevents⟩ := List.forall_mem_cons.1 h
      rw [follow, linesAmong_append, linesAmong_advance_of_silent s t he, ih _ hevents]
      rfl

theorem silent_of_mem_remainder (t : Terms) (s : RunState) : ∀ e ∈ s.remainder t, e.IsSilent := by
  unfold remainder
  split <;> simp [Event.IsSilent.sleeps, Event.IsSilent.cancels]

theorem linesAmong_heard_played (t : Terms) (events : List Event) :
    linesAmong (heard t (played t events)) = linesAmong (heard t events) := by
  rw [played, heard, follow_append, linesAmong_append, ← after,
    linesAmong_follow_of_silent _ t (silent_of_mem_remainder t _), List.append_nil, heard]

theorem after_played_of_completes {life : List Event} (hpast : past <+: life)
    (h : Completes t.deadline past) :
    ∃ code, exitCode? past = some code ∧ (after t life).stage = .over (.exited code) (elapsed past) ∧
      (after t life).kills = [] ∧ linesAmong (heard t life) = completed past ∧
      Occurrence.note unkilled ∉ heard t life := by
  obtain ⟨later, rfl⟩ := hpast
  obtain ⟨code, hcode, hstage, hrest⟩ := after_of_completes h
  obtain ⟨hafter, hheard⟩ := after_append_of_over hstage later
  rw [hafter, hheard]
  exact ⟨code, hcode, hstage, hrest⟩

theorem after_played_of_stops {rest : List Event} (hd : ∀ d ∈ t.deadline, 0 ≤ d)
    (hlife : past ++ rest = played t events) (h : Stops t.deadline past cause moment) :
    ∃ part last since warned, part <+: rest ∧
      (after t (played t events)).Rests t cause moment past part last since warned ∧
      linesAmong (heard t (played t events)) = completed past ∧
      (Occurrence.note unkilled ∈ heard t (played t events) ↔ warned = true) := by
  obtain ⟨ending, since, hover⟩ := (played_over hd events).2
  rw [← hlife] at hover ⊢
  obtain ⟨warned, hreaping, hlines, hwarned⟩ := follow_of_stops hd h rest
  cases hreaping with
  | reaps hon => simp [hon.stage] at hover
  | rests hpart hrests => exact ⟨_, _, _, _, hpart, hrests, hlines, hwarned⟩

end RunState

end Workcell
