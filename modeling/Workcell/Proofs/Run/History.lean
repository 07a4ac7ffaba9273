import Workcell.Proofs.Run.Lines
import Workcell.Run.Engine
import Mathlib.Data.List.Induction
import Mathlib.Data.List.Infix
import Mathlib.Data.Rat.Defs

namespace Workcell

namespace Event

def pause : Event → Rat
  | .sleeps seconds => seconds
  | _ => 0

def exitCode? : Event → Option Int
  | .exits code => some code
  | _ => none

def bytesOn (c : Channel) : Event → List UInt8
  | .bytes d chunk => if d = c then chunk else []
  | _ => []

def closes (c : Channel) : Event → Bool
  | .ends d => d = c
  | .fails d _ => d = c
  | _ => false

inductive IsSilent : Event → Prop
  | sleeps (seconds : Rat) : IsSilent (.sleeps seconds)
  | cancels : IsSilent .cancels

end Event

namespace History

def elapsed : List Event → Rat
  | [] => 0
  | e :: r => e.pause + elapsed r

def exitCode? (events : List Event) : Option Int := events.findSome? Event.exitCode?

def closed (c : Channel) (events : List Event) : Bool := events.any (Event.closes c)

def delivered (c : Channel) (events : List Event) : List UInt8 :=
  (events.takeWhile fun e => !e.closes c).flatMap (Event.bytesOn c)

def readToEnd (c : Channel) (events : List Event) : Bool :=
  events.find? (Event.closes c) == some (.ends c)

def finished (events : List Event) : Bool :=
  closed .out events && closed .err events && (exitCode? events).isSome

/-- The lines of all that came through a pipe. A last line without a line feed counts only if the
pipe was read to its end. -/
def linesOn (c : Channel) (events : List Event) : List (List UInt8) :=
  (cut (delivered c events)).1 ++
    if readToEnd c events then lastLine (cut (delivered c events)).2 else []

/-- The lines completed by an event that comes after others: by the one that brings their line feed,
or by the end of the pipe for a last line that is not empty. -/
def completedBy (past : List Event) (e : Event) : List (Channel × List UInt8) :=
  match e with
  | .bytes c _ =>
    ((cut (delivered c (past ++ [e]))).1.drop (cut (delivered c past)).1.length).map (c, ·)
  | .ends c => if closed c past then [] else (lastLine (cut (delivered c past)).2).map (c, ·)
  | _ => []

def completedFrom (past : List Event) : List Event → List (Channel × List UInt8)
  | [] => []
  | e :: r => completedBy past e ++ completedFrom (past ++ [e]) r

def completed (events : List Event) : List (Channel × List UInt8) := completedFrom [] events

variable {c : Channel} {e : Event} {past events : List Event}

theorem elapsed_concat (past : List Event) (e : Event) :
    elapsed (past ++ [e]) = elapsed past + e.pause := by
  induction past with
  | nil => simp [elapsed]
  | cons x past ih => rw [List.cons_append, elapsed, elapsed, ih, Rat.add_assoc]

theorem exitCode?_concat (past : List Event) (e : Event) :
    exitCode? (past ++ [e]) = (exitCode? past).or e.exitCode? := by
  simp [exitCode?, List.findSome?_append]

theorem closed_concat (c : Channel) (past : List Event) (e : Event) :
    closed c (past ++ [e]) = (closed c past || e.closes c) := by
  simp [closed]

theorem delivered_cons (c : Channel) (e : Event) (events : List Event) :
    delivered c (e :: events) = if e.closes c then [] else e.bytesOn c ++ delivered c events := by
  cases h : e.closes c <;> simp [delivered, h]

theorem bytesOn_of_closes (h : e.closes c = true) : e.bytesOn c = [] := by
  cases e <;> simp_all [Event.closes, Event.bytesOn]

theorem delivered_concat (c : Channel) (past : List Event) (e : Event) :
    delivered c (past ++ [e]) =
      if closed c past then delivered c past else delivered c past ++ e.bytesOn c := by
  induction past with
  | nil =>
      cases h : e.closes c with
      | false => simp [closed, h, delivered]
      | true => simp [closed, h, delivered, bytesOn_of_closes h]
  | cons x past ih =>
      have hclosed : closed c (x :: past) = (x.closes c || closed c past) := rfl
      cases h : x.closes c with
      | false =>
          rw [List.cons_append, delivered_cons, delivered_cons, hclosed, h, ih]
          cases closed c past <;> simp
      | true => simp [delivered_cons, h, hclosed]

theorem delivered_of_closed (h : closed c past = true) (e : Event) :
    delivered c (past ++ [e]) = delivered c past := by
  rw [delivered_concat, if_pos h]

theorem delivered_of_open (h : closed c past = false) (e : Event) :
    delivered c (past ++ [e]) = delivered c past ++ e.bytesOn c := by
  rw [delivered_concat, h]
  rfl

theorem readToEnd_concat (c : Channel) (past : List Event) (e : Event) :
    readToEnd c (past ++ [e]) = if closed c past then readToEnd c past else decide (e = .ends c) := by
  rw [readToEnd, readToEnd, List.find?_append]
  cases h : past.find? (Event.closes c) with
  | some x =>
      have hclosed : closed c past = true :=
        List.any_eq_true.2 ⟨x, List.mem_of_find?_eq_some h, List.find?_some h⟩
      simp [hclosed]
  | none =>
      have hopen : closed c past = false := by simpa [closed] using h
      have hlast : ([e].find? (Event.closes c) == some (.ends c)) = decide (e = .ends c) := by
        cases e with
        | ends d => by_cases hd : d = c <;> simp [Event.closes, hd]
        | fails d text => by_cases hd : d = c <;> simp [Event.closes, hd]
        | _ => simp [Event.closes]
      simpa [hopen] using hlast

theorem completedFrom_append (past a b : List Event) :
    completedFrom past (a ++ b) = completedFrom past a ++ completedFrom (past ++ a) b := by
  induction a generalizing past with
  | nil => simp [completedFrom]
  | cons e a ih => simp [completedFrom, ih, List.append_assoc]

theorem completed_concat (past : List Event) (e : Event) :
    completed (past ++ [e]) = completed past ++ completedBy past e := by
  simp [completed, completedFrom_append, completedFrom]

theorem readToEnd_of_open (h : closed c past = false) : readToEnd c past = false := by
  have hnone : past.find? (Event.closes c) = none := by simpa [closed] using h
  simp [readToEnd, hnone]

theorem linesOn_of_open (h : closed c past = false) : linesOn c past = (cut (delivered c past)).1 := by
  simp [linesOn, readToEnd_of_open h]

theorem linesOn_of_closed (h : closed c past = true) (e : Event) :
    linesOn c (past ++ [e]) = linesOn c past := by
  rw [linesOn, linesOn, delivered_of_closed h, readToEnd_concat, if_pos h]

theorem completedBy_bytes_of_closed (h : closed c past = true) (chunk : List UInt8) :
    completedBy past (.bytes c chunk) = [] := by
  simp [completedBy, delivered_of_closed h]

theorem completedBy_bytes_of_open (h : closed c past = false) (chunk : List UInt8) :
    completedBy past (.bytes c chunk) = (cut ((cut (delivered c past)).2 ++ chunk)).1.map (c, ·) := by
  have hbytes : (Event.bytes c chunk).bytesOn c = chunk := by simp [Event.bytesOn]
  simp only [completedBy, delivered_of_open h, hbytes]
  rw [cut_append, List.drop_left]

def onChannel {α : Type} (c : Channel) (lines : List (Channel × α)) : List α :=
  (lines.filter fun p => p.1 = c).map Prod.snd

theorem onChannel_append {α : Type} (c : Channel) (a b : List (Channel × α)) :
    onChannel c (a ++ b) = onChannel c a ++ onChannel c b := by
  simp [onChannel]

theorem onChannel_map {α : Type} (c d : Channel) (l : List α) :
    onChannel c (l.map (d, ·)) = if d = c then l else [] := by
  by_cases h : d = c <;> simp [onChannel, h, List.filter_map, Function.comp_def]

theorem onChannel_completedBy_of_ne {d : Channel} (hd : d ≠ c) :
    (∀ chunk, onChannel c (completedBy past (.bytes d chunk)) = []) ∧
      onChannel c (completedBy past (.ends d)) = [] := by
  refine ⟨fun chunk => ?_, ?_⟩
  · rw [completedBy, onChannel_map, if_neg hd]
  · rw [completedBy]
    split
    · rfl
    · rw [onChannel_map, if_neg hd]

theorem onChannel_completedBy_of_closed (h : closed c past = true) (e : Event) :
    onChannel c (completedBy past e) = [] := by
  cases e with
  | bytes d chunk =>
      by_cases hd : d = c
      · subst hd; rw [completedBy_bytes_of_closed h]; rfl
      · exact (onChannel_completedBy_of_ne hd).1 chunk
  | ends d =>
      by_cases hd : d = c
      · subst hd; simp [completedBy, h, onChannel]
      · exact (onChannel_completedBy_of_ne hd).2
  | _ => rfl

theorem linesOn_concat (c : Channel) (past : List Event) (e : Event) :
    linesOn c (past ++ [e]) = linesOn c past ++ onChannel c (completedBy past e) := by
  cases h : closed c past with
  | true => rw [linesOn_of_closed h, onChannel_completedBy_of_closed h, List.append_nil]
  | false =>
      rw [linesOn_of_open h, linesOn, delivered_of_open h, readToEnd_concat, h]
      cases e with
      | bytes d chunk =>
          by_cases hd : d = c
          · subst hd
            rw [completedBy_bytes_of_open h, onChannel_map, cut_append]
            simp [Event.bytesOn]
          · rw [(onChannel_completedBy_of_ne hd).1]
            simp [Event.bytesOn, hd]
      | ends d =>
          by_cases hd : d = c
          · subst hd; simp [Event.bytesOn, completedBy, h, onChannel_map]
          · rw [(onChannel_completedBy_of_ne hd).2]
            simp [Event.bytesOn, hd]
      | _ => simp [Event.bytesOn, completedBy, onChannel]

/-- The lines completed on a channel are the lines of its pipe. -/
theorem onChannel_completed (c : Channel) (events : List Event) :
    onChannel c (completed events) = linesOn c events := by
  induction events using List.reverseRecOn with
  | nil => simp [completed, completedFrom, onChannel, linesOn, delivered, cut, readToEnd]
  | append_singleton past e ih => rw [completed_concat, onChannel_append, ih, linesOn_concat]

/-- The output and the exit are still awaited after some events: at no time were both pipes ended
and the child gone, at no time was the timeout due, and no cancellation came. -/
structure Waiting (deadline : Option Rat) (events : List Event) : Prop where
  unfinished : ∀ past, past <+: events → finished past = false
  early : ∀ past, past <+: events → ∀ d ∈ deadline, elapsed past < d
  uncancelled : Event.cancels ∉ events

instance (deadline : Option Rat) (events : List Event) : Decidable (Waiting deadline events) :=
  decidable_of_iff ((∀ past ∈ events.inits, finished past = false) ∧
      (∀ past ∈ events.inits, ∀ d ∈ deadline, elapsed past < d) ∧ Event.cancels ∉ events)
    (by simp only [List.mem_inits]; exact ⟨fun h => ⟨h.1, h.2.1, h.2.2⟩, fun h => ⟨h.1, h.2, h.3⟩⟩)

variable {deadline : Option Rat}

theorem Waiting.mono (h : Waiting deadline events) (hp : past <+: events) : Waiting deadline past where
  unfinished _ hq := h.unfinished _ (hq.trans hp)
  early _ hq := h.early _ (hq.trans hp)
  uncancelled hc := h.uncancelled (hp.subset hc)

theorem waiting_nil_iff : Waiting deadline [] ↔ ∀ d ∈ deadline, 0 < d := by
  constructor
  · intro h d hd
    exact h.early [] (List.prefix_refl _) d hd
  · intro h
    refine ⟨fun past hp => ?_, fun past hp d hd => ?_, by simp⟩
    · rw [List.prefix_nil.1 hp]; rfl
    · rw [List.prefix_nil.1 hp]; exact h d hd

theorem waiting_concat_iff : Waiting deadline (past ++ [e]) ↔
    Waiting deadline past ∧ finished (past ++ [e]) = false ∧
      (∀ d ∈ deadline, elapsed (past ++ [e]) < d) ∧ e ≠ .cancels := by
  constructor
  · intro h
    refine ⟨h.mono (List.prefix_append _ _), h.unfinished _ (List.prefix_refl _),
      h.early _ (List.prefix_refl _), ?_⟩
    rintro rfl
    exact h.uncancelled (by simp)
  · rintro ⟨h, hfinished, hearly, he⟩
    refine ⟨fun q hq => ?_, fun q hq => ?_, ?_⟩
    · rcases List.prefix_concat_iff.1 hq with rfl | hq
      · exact hfinished
      · exact h.unfinished q hq
    · rcases List.prefix_concat_iff.1 hq with rfl | hq
      · exact hearly
      · exact h.early q hq
    · simp [h.uncancelled, Ne.symm he]

end History

end Workcell
