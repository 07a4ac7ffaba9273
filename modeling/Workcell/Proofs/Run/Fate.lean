import Workcell.Proofs.Run.History
import Mathlib.Algebra.Order.Ring.Rat

namespace Workcell

theorem killGrace_pos : 0 < killGrace := by decide

namespace History

variable {P : List Event → Prop} {past events a b : List Event} {e : Event}

/-- A property holds until the last of some events, of which nothing is said. -/
def Until (P : List Event → Prop) (events : List Event) : Prop :=
  ∀ past, past <+: events → past ≠ events → P past

theorem until_nil : Until P [] := fun _ hp hne => absurd (List.prefix_nil.1 hp) hne

theorem until_concat (hmono : ∀ a b, a <+: b → P b → P a) : Until P (past ++ [e]) ↔ P past := by
  constructor
  · intro h
    exact h past (List.prefix_append _ _) (by simp)
  · intro h q hq hne
    rcases List.prefix_concat_iff.1 hq with rfl | hq
    · exact absurd rfl hne
    · exact hmono q past hq h

theorem exists_until (h : ¬P events) : ∃ past, past <+: events ∧ Until P past ∧ ¬P past := by
  -- a first failure within a shorter list is one within the whole list
  induction hn : events.length using Nat.strongRecOn generalizing events with
  | _ n ih =>
    by_cases hall : Until P events
    · exact ⟨events, List.prefix_refl _, hall, h⟩
    · unfold Until at hall
      push Not at hall
      obtain ⟨past, hp, hne, hpast⟩ := hall
      have hlt : past.length < n := hn ▸ lt_of_le_of_ne hp.length_le fun hl => hne (hp.eq_of_length hl)
      obtain ⟨first, hf, hfirst⟩ := ih _ hlt hpast rfl
      exact ⟨first, hf.trans hp, hfirst⟩

theorem until_unique (ha : a <+: events) (hb : b <+: events) (hua : Until P a) (hub : Until P b)
    (hna : ¬P a) (hnb : ¬P b) : a = b := by
  by_contra hne
  rcases List.prefix_or_prefix_of_prefix ha hb with hab | hba
  · exact hna (hub a hab hne)
  · exact hnb (hua b hba (Ne.symm hne))

variable {deadline : Option Rat}

/-- The wait for the output and the exit ends with the last of some events, because both pipes have
ended and the child has exited. -/
structure Completes (deadline : Option Rat) (events : List Event) : Prop where
  waiting : Until (Waiting deadline) events
  finished : finished events = true

/-- The wait for the output and the exit is ended with the last of some events, for a cause and at a
moment. -/
inductive Stops (deadline : Option Rat) (events : List Event) : Cause → Rat → Prop
  | timeout {d : Rat} : Until (Waiting deadline) events → deadline = some d → d ≤ elapsed events →
      Stops deadline events .timeout d
  | cancellation : Until (Waiting deadline) events → events.getLast? = some .cancels →
      Stops deadline events .cancellation (elapsed events)

theorem until_waiting_concat : Until (Waiting deadline) (past ++ [e]) ↔ Waiting deadline past :=
  until_concat fun _ _ hp h => h.mono hp

/-- Events either leave the output and the exit awaited, or the wait ends within them. -/
theorem fate (deadline : Option Rat) (events : List Event) : Waiting deadline events ∨
    ∃ past, past <+: events ∧
      (Completes deadline past ∨ ∃ cause moment, Stops deadline past cause moment) := by
  by_cases h : Waiting deadline events
  · exact .inl h
  · obtain ⟨past, hp, huntil, hpast⟩ := exists_until h
    refine .inr ⟨past, hp, ?_⟩
    cases past using List.reverseRecOn with
    | nil =>
        rw [waiting_nil_iff] at hpast
        push Not at hpast
        obtain ⟨d, hdeadline, hdue⟩ := hpast
        exact .inr ⟨.timeout, d, .timeout huntil hdeadline hdue⟩
    | append_singleton past e =>
        by_cases hfinished : finished (past ++ [e]) = true
        · exact .inl ⟨huntil, hfinished⟩
        · by_cases hearly : ∀ d ∈ deadline, elapsed (past ++ [e]) < d
          · have hcancel : e = .cancels := by
              by_contra he
              exact hpast (waiting_concat_iff.2
                ⟨until_waiting_concat.1 huntil, Bool.eq_false_iff.2 hfinished, hearly, he⟩)
            exact .inr ⟨.cancellation, _, .cancellation huntil (by simp [hcancel])⟩
          · push Not at hearly
            obtain ⟨d, hdeadline, hdue⟩ := hearly
            exact .inr ⟨.timeout, d, .timeout huntil hdeadline hdue⟩

theorem sleeps_of_due {d : Rat} (hwaiting : Waiting deadline past) (hdeadline : deadline = some d)
    (hdue : d ≤ elapsed (past ++ [e])) : ∃ seconds, e = .sleeps seconds := by
  cases e with
  | sleeps seconds => exact ⟨seconds, rfl⟩
  | _ =>
      have hearly := hwaiting.early past (List.prefix_refl _) d hdeadline
      simp only [elapsed_concat, Event.pause, add_zero] at hdue
      exact absurd hearly (not_lt_of_ge hdue)

theorem finished_concat_of_silent (h : e.IsSilent) (past : List Event) :
    finished (past ++ [e]) = finished past := by
  cases h <;> simp [finished, closed_concat, exitCode?_concat, Event.closes, Event.exitCode?]

theorem completed_concat_of_silent (h : e.IsSilent) (past : List Event) :
    completed (past ++ [e]) = completed past := by
  cases h <;> simp [completed_concat, completedBy]

theorem Stops.concat {cause : Cause} {moment : Rat} (h : Stops deadline (past ++ [e]) cause moment) :
    Waiting deadline past ∧ e.IsSilent := by
  cases h with
  | timeout huntil hdeadline hdue =>
      have hwaiting := until_waiting_concat.1 huntil
      obtain ⟨seconds, rfl⟩ := sleeps_of_due hwaiting hdeadline hdue
      exact ⟨hwaiting, .sleeps seconds⟩
  | cancellation huntil hlast =>
      obtain rfl : e = .cancels := by simpa using hlast
      exact ⟨until_waiting_concat.1 huntil, .cancels⟩

theorem Stops.finished_eq_false {cause : Cause} {moment : Rat} (h : Stops deadline past cause moment) :
    finished past = false := by
  cases past using List.reverseRecOn with
  | nil => rfl
  | append_singleton past e =>
      obtain ⟨hwaiting, hsilent⟩ := h.concat
      rw [finished_concat_of_silent hsilent]
      exact hwaiting.unfinished past (List.prefix_refl _)

def Survives (kill : KillReply) (past : List Event) : Prop := kill ≠ .works ∧ exitCode? past = none

/-- A child that was to be killed at a moment after `past` lives on through `later`: it does not
exit, its time is not used up, and the wait for its exit is not cancelled. -/
structure Lingers (kill : KillReply) (moment : Rat) (past later : List Event) : Prop where
  survives : Survives kill (past ++ later)
  early : ∀ part, part <+: later → elapsed (past ++ part) < moment + killGrace
  uncancelled : Event.cancels ∉ later

/-- How the wait for the exit of a child that was to be killed after `past` is over with the last of
some later events: the cause that is reported, the moment, and whether the child outlived its time. -/
inductive Reaped (kill : KillReply) (cause : Cause) (moment : Rat) (past : List Event) :
    List Event → Cause → Rat → Bool → Prop
  | gone : ¬Survives kill past → Reaped kill cause moment past [] cause moment false
  | exited {later : List Event} {code : Int} : Lingers kill moment past later →
      Reaped kill cause moment past (later ++ [.exits code]) cause (elapsed (past ++ later)) false
  | cancelled {later : List Event} : Lingers kill moment past later →
      Reaped kill cause moment past (later ++ [.cancels]) .cancellation (elapsed (past ++ later)) false
  | outlived {later : List Event} : Until (Lingers kill moment past) later →
      Survives kill (past ++ later) → Event.cancels ∉ later →
      moment + killGrace ≤ elapsed (past ++ later) →
      Reaped kill cause moment past later cause (moment + killGrace) true

def Recalled (kill : KillReply) (cause : Cause) (moment : Rat) (past rest : List Event) : Prop :=
  cause = .cancellation ∨ ∃ later, later ++ [.cancels] <+: rest ∧ Lingers kill moment past later

def Outlives (kill : KillReply) (moment : Rat) (past rest : List Event) : Prop :=
  ∃ later, later <+: rest ∧ Survives kill (past ++ later) ∧ Event.cancels ∉ later ∧
    moment + killGrace ≤ elapsed (past ++ later)

def killsAsked (posix : Bool) (past : List Event) : List Kill :=
  if posix then [.group] else if (exitCode? past).isSome then [] else [.child]

variable {kill : KillReply} {moment : Rat} {later part : List Event} {cause last : Cause} {since : Rat}
  {warned : Bool}

theorem survives_concat_iff :
    Survives kill (past ++ [e]) ↔ Survives kill past ∧ e.exitCode? = none := by
  rw [Survives, Survives, exitCode?_concat, Option.or_eq_none_iff, and_assoc]

theorem Survives.mono (h : Survives kill (past ++ later)) : Survives kill past := by
  refine ⟨h.1, ?_⟩
  have hnone := h.2
  rw [exitCode?, List.findSome?_append, Option.or_eq_none_iff] at hnone
  exact hnone.1

theorem lingers_nil_iff :
    Lingers kill moment past [] ↔ Survives kill past ∧ elapsed past < moment + killGrace := by
  constructor
  · intro h
    have hearly := h.early [] (List.prefix_refl _)
    have hsurvives := h.survives
    rw [List.append_nil] at hearly hsurvives
    exact ⟨hsurvives, hearly⟩
  · rintro ⟨hsurvives, hearly⟩
    refine ⟨by rwa [List.append_nil], fun part hp => ?_, List.not_mem_nil⟩
    rwa [List.prefix_nil.1 hp, List.append_nil]

theorem lingers_concat_iff : Lingers kill moment past (later ++ [e]) ↔
    Lingers kill moment past later ∧ e.exitCode? = none ∧
      elapsed (past ++ (later ++ [e])) < moment + killGrace ∧ e ≠ .cancels := by
  constructor
  · intro h
    have hsurvives := h.survives
    rw [← List.append_assoc, survives_concat_iff] at hsurvives
    refine ⟨⟨hsurvives.1, fun part hp => h.early part (hp.trans (List.prefix_append _ _)), ?_⟩,
      hsurvives.2, h.early _ (List.prefix_refl _), ?_⟩
    · exact fun hc => h.uncancelled (List.mem_append_left _ hc)
    · rintro rfl
      exact h.uncancelled (by simp)
  · rintro ⟨h, hexit, hearly, he⟩
    refine ⟨?_, fun part hp => ?_, by simp [h.uncancelled, Ne.symm he]⟩
    · rw [← List.append_assoc, survives_concat_iff]
      exact ⟨h.survives, hexit⟩
    · rcases List.prefix_concat_iff.1 hp with rfl | hp
      · exact hearly
      · exact h.early part hp

theorem Lingers.mono (h : Lingers kill moment past later) (hp : part <+: later) :
    Lingers kill moment past part where
  survives := by
    obtain ⟨rest, rfl⟩ := hp
    exact (List.append_assoc past part rest ▸ h.survives).mono
  early _ hq := h.early _ (hq.trans hp)
  uncancelled hc := h.uncancelled (hp.subset hc)

theorem until_lingers_concat :
    Until (Lingers kill moment past) (later ++ [e]) ↔ Lingers kill moment past later :=
  until_concat fun _ _ hp h => h.mono hp

theorem Reaped.until (h : Reaped kill cause moment past later last since warned) :
    Until (Lingers kill moment past) later ∧ ¬Lingers kill moment past later := by
  cases h with
  | gone hdead => exact ⟨until_nil, fun hl => hdead (lingers_nil_iff.1 hl).1⟩
  | exited hl =>
      refine ⟨until_lingers_concat.2 hl, fun hnext => ?_⟩
      simp [lingers_concat_iff, Event.exitCode?] at hnext
  | cancelled hl =>
      refine ⟨until_lingers_concat.2 hl, fun hnext => ?_⟩
      simp [lingers_concat_iff] at hnext
  | outlived huntil _ _ hlate =>
      exact ⟨huntil, fun hl => not_lt_of_ge hlate (hl.early _ (List.prefix_refl _))⟩

theorem Reaped.since_le (h : Reaped kill cause moment past later last since warned) :
    since ≤ moment + killGrace := by
  cases h with
  | gone _ => exact le_add_of_nonneg_right (le_of_lt killGrace_pos)
  | exited hl => exact le_of_lt (hl.early _ (List.prefix_refl _))
  | cancelled hl => exact le_of_lt (hl.early _ (List.prefix_refl _))
  | outlived _ _ _ _ => exact le_refl _

variable {rest : List Event}

theorem Reaped.eq_of_not_lingers (h : Reaped kill cause moment past part last since warned)
    (hp : part <+: rest)
    (hlater : later <+: rest) (huntil : Until (Lingers kill moment past) later)
    (hnot : ¬Lingers kill moment past later) : part = later :=
  until_unique hp hlater h.until.1 huntil h.until.2 hnot

theorem Reaped.last_eq_cancellation_iff (h : Reaped kill cause moment past part last since warned)
    (hp : part <+: rest) : last = .cancellation ↔ Recalled kill cause moment past rest := by
  constructor
  · intro hlast
    cases h with
    | cancelled hl => exact .inr ⟨_, hp, hl⟩
    | _ => exact .inl hlast
  · rintro (hcause | ⟨later, hlater, hl⟩)
    · cases h with
      | cancelled _ => rfl
      | _ => exact hcause
    · have hnot : ¬Lingers kill moment past (later ++ [.cancels]) := by simp [lingers_concat_iff]
      have hpart := h.eq_of_not_lingers hp hlater (until_lingers_concat.2 hl) hnot
      cases h with
      | gone _ => simp at hpart
      | exited _ => simp at hpart
      | cancelled _ => rfl
      | outlived _ _ huncancelled _ => exact absurd (hpart ▸ List.mem_concat_self) huncancelled

theorem not_survives_of_exits {code : Int} (hp : part ++ [.exits code] <+: later) :
    ¬Survives kill (past ++ later) := by
  obtain ⟨more, rfl⟩ := hp
  intro hs
  rw [← List.append_assoc, ← List.append_assoc] at hs
  have hexit := (survives_concat_iff.1 hs.mono).2
  simp [Event.exitCode?] at hexit

theorem Reaped.warned_iff (h : Reaped kill cause moment past part last since warned)
    (hp : part <+: rest) :
    warned = true ↔ Outlives kill moment past rest := by
  constructor
  · rintro rfl
    cases h with
    | outlived _ hs hc hlate => exact ⟨part, hp, hs, hc, hlate⟩
  · rintro ⟨later, hlater, hs, hc, hlate⟩
    have hnot : ¬Lingers kill moment past later :=
      fun hl => not_lt_of_ge hlate (hl.early _ (List.prefix_refl _))
    obtain ⟨first, hfirst, huntil, hfirstNot⟩ := exists_until hnot
    have hpart := h.eq_of_not_lingers hp (hfirst.trans hlater) huntil hfirstNot
    subst hpart
    cases h with
    | gone hdead => exact absurd hs.mono hdead
    | exited _ => exact absurd hs (not_survives_of_exits hfirst)
    | cancelled _ => exact absurd (hfirst.subset List.mem_concat_self) hc
    | outlived _ _ _ _ => rfl

end History

end Workcell
