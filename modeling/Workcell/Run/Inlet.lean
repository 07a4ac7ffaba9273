import Workcell.Reader

namespace Workcell

inductive Supply
  | flowing
  | ended
  | failed (text : String)
  deriving DecidableEq, Repr

structure Inlet where
  buffer : List UInt8
  supply : Supply
  deriving DecidableEq, Repr

namespace Inlet

open Reader

def hand (s : Inlet) (n : Nat) : Reply × Inlet :=
  (.data (s.buffer.take n), { s with buffer := s.buffer.drop n })

def handLast (s : Inlet) : Option (Reply × Inlet) :=
  match s.supply with
  | .ended => some (.incomplete s.buffer, { s with buffer := [] })
  | _ => none

def lineLength (s : Inlet) : Nat := s.buffer.idxOf Line.feed

def handLine (limit : Nat) (s : Inlet) : Option (Reply × Inlet) :=
  if limit < s.lineLength then some (.overrun s.lineLength, s)
  else if s.lineLength < s.buffer.length then some (s.hand (s.lineLength + 1))
  else s.handLast

def handPart (n : Nat) (s : Inlet) : Option (Reply × Inlet) :=
  if n ≤ s.buffer.length then some (s.hand n) else s.handLast

/-- The reply to a request, and what is left then; none as long as the request has to wait. -/
def answer (limit : Nat) (s : Inlet) (request : Request) : Option (Reply × Inlet) :=
  match s.supply, request with
  | .failed text, _ => some (.systemError text, s)
  | _, .untilFeed => s.handLine limit
  | _, .exactly n => s.handPart n

theorem handLast_eq_some {s s' : Inlet} {reply : Reply} (h : s.handLast = some (reply, s')) :
    reply = .incomplete s.buffer ∧ s'.buffer = [] := by
  unfold handLast at h
  split at h
  · simp only [Option.some.injEq, Prod.mk.injEq] at h
    exact ⟨h.1.symm, by rw [← h.2]⟩
  · simp at h

theorem handLine_eq_some {limit : Nat} {s s' : Inlet} {reply : Reply}
    (h : s.handLine limit = some (reply, s')) :
    (∃ n, reply = .overrun n ∧ s' = s) ∨
      (∃ bytes, reply = .data bytes ∧ s'.buffer.length < s.buffer.length) ∨
      (reply = .incomplete s.buffer ∧ s'.buffer = []) := by
  unfold handLine at h
  split at h
  · simp only [Option.some.injEq, Prod.mk.injEq] at h
    exact .inl ⟨_, h.1.symm, h.2.symm⟩
  · split at h
    · simp only [hand, Option.some.injEq, Prod.mk.injEq] at h
      refine .inr (.inl ⟨_, h.1.symm, ?_⟩)
      rw [← h.2]
      simp only [List.length_drop]
      omega
    · exact .inr (.inr (handLast_eq_some h))

theorem handPart_eq_some {n : Nat} {s s' : Inlet} {reply : Reply}
    (h : s.handPart n = some (reply, s')) :
    (∃ bytes, reply = .data bytes ∧ s'.buffer.length + n = s.buffer.length) ∨
      (reply = .incomplete s.buffer ∧ s'.buffer = []) := by
  unfold handPart at h
  split at h
  · simp only [hand, Option.some.injEq, Prod.mk.injEq] at h
    refine .inl ⟨_, h.1.symm, ?_⟩
    rw [← h.2]
    simp only [List.length_drop]
    omega
  · exact .inr (handLast_eq_some h)

def work (s : Inlet) (place : Position) : Nat :=
  4 * s.buffer.length + (if place.parts = [] then 0 else 2) + (if place.owed = none then 1 else 0)

/-- Every reply after which a reader goes on leaves less for it to do. -/
theorem work_lt {limit : Nat} {name : String} {s s' : Inlet} {place next : Position} {reply : Reply}
    {line : Option (List UInt8)} (ha : s.answer limit place.request = some (reply, s'))
    (ht : place.take name reply = .goOn next line) : s'.work next < s.work place := by
  obtain ⟨parts, owed⟩ := place
  unfold answer at ha
  split at ha
  · simp only [Option.some.injEq, Prod.mk.injEq] at ha
    rw [← ha.1] at ht
    cases owed <;> simp [Position.take] at ht
  · next hr _ =>
    cases owed with
    | some n => simp [Position.request] at hr
    | none =>
        rcases handLine_eq_some ha with ⟨n, rfl, rfl⟩ | ⟨bytes, rfl, hlt⟩ | ⟨rfl, hs'⟩
        · simp only [Position.take, Move.goOn.injEq] at ht
          simp [← ht.1, work]
        · simp only [Position.take, Move.goOn.injEq] at ht
          simp only [← ht.1, work, Position.start, if_true]
          omega
        · simp only [Position.take] at ht
          split at ht
          · simp at ht
          · next hend =>
            simp only [Move.goOn.injEq] at ht
            simp only [← ht.1, work, Position.start, if_true, hs', List.length_nil]
            by_cases hparts : parts = []
            · have := List.length_pos_iff.2 fun h => hend ⟨hparts, h⟩
              omega
            · rw [if_neg hparts]
              omega
  · next n hr _ =>
    cases owed with
    | none => simp [Position.request] at hr
    | some m =>
        simp only [Position.request, Request.exactly.injEq] at hr
        rcases handPart_eq_some ha with ⟨bytes, rfl, hlen⟩ | ⟨rfl, hs'⟩
        · simp only [Position.take, Move.goOn.injEq] at ht
          have := m.property
          simp only [← ht.1, work, if_true, List.append_eq_nil_iff, List.cons_ne_nil, and_false,
            if_false, reduceCtorEq]
          omega
        · simp [Position.take] at ht

end Inlet

end Workcell
