import Workcell.Run.Pipe
import Mathlib.Data.List.Basic

namespace Workcell

/-- The lines of some bytes, each with its line feed, and the unfinished line after them. -/
def cut : List UInt8 → List (List UInt8) × List UInt8
  | [] => ([], [])
  | b :: r =>
    if b = Line.feed then ([b] :: (cut r).1, (cut r).2)
    else match cut r with
      | ([], rest) => ([], b :: rest)
      | (l :: ls, rest) => ((b :: l) :: ls, rest)

def lastLine (rest : List UInt8) : List (List UInt8) := if rest = [] then [] else [rest]

theorem cut_append (a b : List UInt8) :
    cut (a ++ b) = ((cut a).1 ++ (cut ((cut a).2 ++ b)).1, (cut ((cut a).2 ++ b)).2) := by
  induction a with
  | nil => simp [cut]
  | cons x a ih =>
      by_cases hx : x = Line.feed
      · simp [cut, hx, ih]
      · simp only [List.cons_append, cut, hx, if_false, ih]
        rcases cut a with ⟨ls, rest⟩
        cases ls with
        | nil => simp [cut, hx]
        | cons l ls => simp

theorem cut_of_not_mem {l : List UInt8} (h : Line.feed ∉ l) : cut l = ([], l) := by
  induction l with
  | nil => rfl
  | cons b l ih =>
      simp only [List.mem_cons, not_or] at h
      simp [cut, Ne.symm h.1, ih h.2]

theorem cut_line {body : List UInt8} (h : Line.feed ∉ body) (r : List UInt8) :
    cut (body ++ Line.feed :: r) = ((body ++ [Line.feed]) :: (cut r).1, (cut r).2) := by
  induction body with
  | nil => simp [cut]
  | cons b body ih =>
      simp only [List.mem_cons, not_or] at h
      simp [cut, Ne.symm h.1, ih h.2]

theorem feed_not_mem_rest (l : List UInt8) : Line.feed ∉ (cut l).2 := by
  induction l with
  | nil => simp [cut]
  | cons b l ih =>
      by_cases hb : b = Line.feed
      · simpa [cut, hb] using ih
      · simp only [cut, hb, if_false]
        rcases hc : cut l with ⟨ls, rest⟩
        rw [hc] at ih
        cases ls with
        | nil => simpa [Ne.symm hb] using ih
        | cons l ls => exact ih

theorem flatten_cut (l : List UInt8) : (cut l).1.flatten ++ (cut l).2 = l := by
  induction l with
  | nil => rfl
  | cons b l ih =>
      by_cases hb : b = Line.feed
      · simp [cut, hb, ih]
      · simp only [cut, hb, if_false]
        rcases hc : cut l with ⟨ls, rest⟩
        rw [hc] at ih
        cases ls with
        | nil => simpa using ih
        | cons l ls => simpa using ih

theorem exists_bodies_cut (l : List UInt8) :
    ∃ bodies : List (List UInt8), (cut l).1 = bodies.map (· ++ [Line.feed]) ∧
      ∀ body ∈ bodies, Line.feed ∉ body := by
  induction l with
  | nil => exact ⟨[], rfl, by simp⟩
  | cons b l ih =>
      obtain ⟨bodies, hcut, hbodies⟩ := ih
      by_cases hb : b = Line.feed
      · refine ⟨[] :: bodies, by simp [cut, hb, hcut], ?_⟩
        simpa using hbodies
      · simp only [cut, hb, if_false]
        rcases hc : cut l with ⟨ls, rest⟩
        rw [hc] at hcut
        cases bodies with
        | nil => exact ⟨[], by simp [show ls = [] from hcut], by simp⟩
        | cons body bodies =>
            simp only [show ls = (body ++ [Line.feed]) :: bodies.map (· ++ [Line.feed]) from hcut]
            obtain ⟨hbody, hbodies⟩ := List.forall_mem_cons.1 hbodies
            refine ⟨(b :: body) :: bodies, rfl, List.forall_mem_cons.2 ⟨?_, hbodies⟩⟩
            rw [List.mem_cons, not_or]
            exact ⟨Ne.symm hb, hbody⟩

namespace Inlet

open Reader

variable {limit : Nat} {name : String} {s rest : Inlet} {place next : Position} {reply : Reply}
  {bytes : List UInt8}

/-- All bytes that are not part of a line given out: the parts that the reader holds and the buffer. -/
def held (s : Inlet) (place : Position) : List UInt8 := place.parts.flatten ++ s.buffer

/-- A reader holds no whole line, and asks for no part that is not there or goes past a line feed. -/
structure Tidy (s : Inlet) (place : Position) : Prop where
  solid : [] ∉ place.parts
  parts : Line.feed ∉ place.parts.flatten
  owed : ∀ n ∈ place.owed, n.val ≤ s.buffer.length ∧ Line.feed ∉ s.buffer.take n.val

structure Waits (s : Inlet) (place : Position) (bytes : List UInt8) : Prop where
  supply : s.supply = .flowing
  solid : [] ∉ place.parts
  owed : place.owed = none
  held : s.held place = bytes
  unfinished : Line.feed ∉ bytes

theorem readOn_wait (h : s.answer limit place.request = none) :
    s.readOn limit name place = ⟨s, some place, [], none⟩ := by
  rw [readOn]
  split
  · rfl
  · next ha => rw [h] at ha; simp at ha

theorem readOn_goOn {line : Option (List UInt8)}
    (ha : s.answer limit place.request = some (reply, rest))
    (ht : place.take name reply = .goOn next line) :
    s.readOn limit name place = (rest.readOn limit name next).after line := by
  rw [readOn]
  split
  · next hn => rw [ha] at hn; simp at hn
  · next reply' rest' hr =>
    rw [ha] at hr
    simp only [Option.some.injEq, Prod.mk.injEq] at hr
    obtain ⟨rfl, rfl⟩ := hr
    split
    · next hg =>
      rw [ht] at hg
      simp only [Move.goOn.injEq] at hg
      obtain ⟨rfl, rfl⟩ := hg
      rfl
    · next hg => rw [ht] at hg; simp at hg

theorem readOn_stop {warning : Option Note} {escaped : Option Escape}
    (ha : s.answer limit place.request = some (reply, rest))
    (ht : place.take name reply = .stop warning escaped) :
    s.readOn limit name place = ⟨rest, none, [], warning⟩ := by
  rw [readOn]
  split
  · next hn => rw [ha] at hn; simp at hn
  · next reply' rest' hr =>
    rw [ha] at hr
    simp only [Option.some.injEq, Prod.mk.injEq] at hr
    obtain ⟨rfl, rfl⟩ := hr
    split
    · next hg => rw [ht] at hg; simp at hg
    · next hg =>
      rw [ht] at hg
      simp only [Move.stop.injEq] at hg
      rw [hg.1]

theorem lineLength_of_not_mem (h : Line.feed ∉ s.buffer) : s.lineLength = s.buffer.length :=
  List.idxOf_eq_length h

theorem lineLength_of_line {body more : List UInt8} (h : s.buffer = body ++ Line.feed :: more)
    (hbody : Line.feed ∉ body) : s.lineLength = body.length := by
  simp [lineLength, h, List.idxOf_append, hbody]

theorem feed_not_mem_take (s : Inlet) : Line.feed ∉ s.buffer.take s.lineLength := by
  by_cases h : Line.feed ∈ s.buffer
  · obtain ⟨body, more, hb, hbody⟩ := List.eq_append_cons_of_mem h
    rw [lineLength_of_line hb hbody, hb, List.take_left]
    exact hbody
  · rw [lineLength_of_not_mem h, List.take_length]
    exact h

theorem Tidy.of_whole (hsolid : [] ∉ place.parts) (hparts : Line.feed ∉ place.parts.flatten)
    (howed : place.owed = none) : s.Tidy place :=
  ⟨hsolid, hparts, by simp [howed]⟩

theorem Tidy.start : s.Tidy .start :=
  .of_whole (by simp [Position.start]) (by simp [Position.start]) rfl

theorem answer_part (limit : Nat) (hs : ∀ text, s.supply ≠ .failed text) {n : {n : Nat // 0 < n}}
    (howed : place.owed = some n) (hn : n.val ≤ s.buffer.length) :
    s.answer limit place.request = some (s.hand n) := by
  unfold answer
  split
  · next hsupply => exact absurd hsupply (hs _)
  · next hr _ => simp [Position.request, howed] at hr
  · next hr _ =>
    simp only [Position.request, howed, Request.exactly.injEq] at hr
    rw [← hr, handPart, if_pos hn]

theorem answer_line (limit : Nat) (hs : ∀ text, s.supply ≠ .failed text) (howed : place.owed = none) :
    s.answer limit place.request = s.handLine limit := by
  unfold answer
  split
  · next hsupply => exact absurd hsupply (hs _)
  · rfl
  · next hr _ => simp [Position.request, howed] at hr

/-- An exchange gives out a line, or only moves bytes from the buffer to the reader. -/
def Proceeds (limit : Nat) (name : String) (s : Inlet) (place : Position) : Prop :=
  ∃ reply rest next line, s.answer limit place.request = some (reply, rest) ∧
    place.take name reply = .goOn next line ∧ rest.supply = s.supply ∧ rest.Tidy next ∧
    cut (s.held place) = (line.toList ++ (cut (rest.held next)).1, (cut (rest.held next)).2)

theorem Tidy.proceeds_of_owed (h : s.Tidy place) (hs : ∀ text, s.supply ≠ .failed text)
    {n : {n : Nat // 0 < n}} (howed : place.owed = some n) : s.Proceeds limit name place := by
  obtain ⟨hn, hfeed⟩ := h.owed n howed
  have ha := answer_part limit hs howed hn
  obtain ⟨parts, owed⟩ := place
  obtain rfl : owed = some n := howed
  refine ⟨_, _, _, _, ha, rfl, rfl, .of_whole ?_ ?_ rfl, by simp [held]⟩
  · have hn' := n.property
    have hpart : s.buffer.take n.val ≠ [] := by
      rw [← List.length_pos_iff, List.length_take]
      omega
    rw [List.mem_append, List.mem_singleton, not_or]
    exact ⟨h.solid, hpart.symm⟩
  · rw [List.flatten_append, List.mem_append, not_or]
    exact ⟨h.parts, by simpa using hfeed⟩

theorem Tidy.proceeds_of_overrun (h : s.Tidy place) (hs : ∀ text, s.supply ≠ .failed text)
    (howed : place.owed = none) (hlimit : limit < s.lineLength) : s.Proceeds limit name place := by
  have ha := answer_line limit hs howed
  obtain ⟨parts, owed⟩ := place
  obtain rfl : owed = none := howed
  -- the length of the part is the overrun's own, so nothing past the line feed is taken
  rw [handLine, if_pos hlimit] at ha
  refine ⟨_, _, _, _, ha, rfl, rfl, ⟨h.solid, h.parts, ?_⟩, by simp [held]⟩
  have hmax : max s.lineLength 1 = s.lineLength := by omega
  simp only [Option.mem_def, Option.some.injEq, forall_eq', hmax]
  exact ⟨List.idxOf_le_length, s.feed_not_mem_take⟩

theorem Tidy.proceeds_of_line (h : s.Tidy place) (hs : ∀ text, s.supply ≠ .failed text)
    (howed : place.owed = none) (hlimit : ¬limit < s.lineLength) (hfeed : Line.feed ∈ s.buffer) :
    s.Proceeds limit name place := by
  have ha := answer_line limit hs howed
  obtain ⟨parts, owed⟩ := place
  obtain rfl : owed = none := howed
  obtain ⟨body, more, hb, hbody⟩ := List.eq_append_cons_of_mem hfeed
  have hlength := lineLength_of_line hb hbody
  rw [handLine, if_neg hlimit, if_pos (by simp [hlength, hb])] at ha
  have hb' : s.buffer = (body ++ [Line.feed]) ++ more := by simp [hb]
  have htake : s.buffer.take (s.lineLength + 1) = body ++ [Line.feed] := by
    rw [hb', List.take_left' (by simp [hlength])]
  have hdrop : s.buffer.drop (s.lineLength + 1) = more := by
    rw [hb', List.drop_left' (by simp [hlength])]
  have hbefore : Line.feed ∉ parts.flatten ++ body := by
    rw [List.mem_append, not_or]
    exact ⟨h.parts, hbody⟩
  refine ⟨_, _, _, _, ha, rfl, rfl, .start, ?_⟩
  rw [htake]
  simp only [held, hdrop, Position.start]
  rw [hb, ← List.append_assoc, cut_line hbefore]
  simp

/-- A tidy reader goes on, or all that is held is an unfinished line. -/
theorem Tidy.exchange (limit : Nat) (name : String) (h : s.Tidy place)
    (hs : ∀ text, s.supply ≠ .failed text) : s.Proceeds limit name place ∨
      (place.owed = none ∧ Line.feed ∉ s.held place ∧ s.answer limit place.request = s.handLast) := by
  cases howed : place.owed with
  | some n => exact .inl (h.proceeds_of_owed hs howed)
  | none =>
      by_cases hlimit : limit < s.lineLength
      · exact .inl (h.proceeds_of_overrun hs howed hlimit)
      · by_cases hfeed : Line.feed ∈ s.buffer
        · exact .inl (h.proceeds_of_line hs howed hlimit hfeed)
        · have hlength := lineLength_of_not_mem hfeed
          have ha := answer_line limit hs howed
          rw [handLine, if_neg hlimit, if_neg (by omega)] at ha
          have hheld : Line.feed ∉ s.held place := by
            rw [held, List.mem_append, not_or]
            exact ⟨h.parts, hfeed⟩
          exact .inr ⟨rfl, hheld, ha⟩

/-- As long as more bytes can come, a reader gives the lines that are there and waits with the rest. -/
theorem Tidy.readOn_flowing (limit : Nat) (name : String) (h : s.Tidy place)
    (hs : s.supply = .flowing) :
    ∃ rest next, s.readOn limit name place = ⟨rest, some next, (cut (s.held place)).1, none⟩ ∧
      rest.Waits next (cut (s.held place)).2 := by
  -- on the work left: an exchange that gives no line only moves bytes to the reader
  induction hw : s.work place using Nat.strongRecOn generalizing s place with
  | _ w ih =>
    rcases h.exchange limit name (by simp [hs]) with
      ⟨reply, rest, next, line, ha, ht, hsupply, htidy, hcut⟩ | ⟨howed, hfeed, ha⟩
    · obtain ⟨last, final, hread, hwaits⟩ := ih _ (hw ▸ work_lt ha ht) htidy (hsupply.trans hs) rfl
      refine ⟨last, final, ?_, by rw [hcut]; exact hwaits⟩
      rw [readOn_goOn ha ht, hread, hcut]
      rfl
    · rw [show s.handLast = none by simp [handLast, hs]] at ha
      refine ⟨s, place, ?_, hs, h.solid, howed, ?_, ?_⟩
      · rw [readOn_wait ha, cut_of_not_mem hfeed]
      · rw [cut_of_not_mem hfeed]
      · rw [cut_of_not_mem hfeed]
        exact hfeed

theorem readOn_drained (limit : Nat) (name : String) (hs : s.supply = .ended) (hb : s.buffer = []) :
    ∃ rest, s.readOn limit name .start = ⟨rest, none, [], none⟩ := by
  have ha : s.answer limit Position.start.request = some (.incomplete [], { s with buffer := [] }) := by
    simp [answer, hs, Position.request, Position.start, handLine, lineLength, handLast, hb]
  have ht : Position.start.take name (.incomplete []) = .stop none none := by
    simp [Position.take, Position.start]
  exact ⟨_, readOn_stop ha ht⟩

theorem Tidy.readOn_ended (limit : Nat) (name : String) (h : s.Tidy place)
    (hs : s.supply = .ended) :
    ∃ rest, s.readOn limit name place =
      ⟨rest, none, (cut (s.held place)).1 ++ lastLine (cut (s.held place)).2, none⟩ := by
  induction hw : s.work place using Nat.strongRecOn generalizing s place with
  | _ w ih =>
    rcases h.exchange limit name (by simp [hs]) with
      ⟨reply, rest, next, line, ha, ht, hsupply, htidy, hcut⟩ | ⟨howed, hfeed, ha⟩
    · obtain ⟨last, hread⟩ := ih _ (hw ▸ work_lt ha ht) htidy (hsupply.trans hs) rfl
      refine ⟨last, ?_⟩
      rw [readOn_goOn ha ht, hread, hcut]
      simp [Reading.after]
    · obtain ⟨parts, owed⟩ := place
      subst howed
      rw [cut_of_not_mem hfeed]
      by_cases hend : parts = [] ∧ s.buffer = []
      · obtain ⟨rfl, hb⟩ := hend
        obtain ⟨last, hread⟩ := readOn_drained limit name hs hb
        exact ⟨last, by rw [held, hb]; exact hread⟩
      · have hheld : s.held ⟨parts, none⟩ ≠ [] := by
          intro hnil
          obtain ⟨hflat, hb⟩ := List.append_eq_nil_iff.1 hnil
          refine hend ⟨List.eq_nil_iff_forall_not_mem.2 fun part hpart => ?_, hb⟩
          exact h.solid (List.flatten_eq_nil_iff.1 hflat part hpart ▸ hpart)
        rw [show s.handLast = some (.incomplete s.buffer, { s with buffer := [] }) by
          rw [handLast, hs]] at ha
        have ht : Position.take name ⟨parts, none⟩ (.incomplete s.buffer) =
            .goOn .start (some (s.held ⟨parts, none⟩)) := by
          simp only [Position.take, if_neg hend]; rfl
        obtain ⟨last, hread⟩ :=
          readOn_drained limit name (s := { s with buffer := [] }) hs rfl
        refine ⟨last, ?_⟩
        rw [readOn_goOn ha ht, hread, lastLine, if_neg hheld]
        rfl

theorem readOn_failed (limit : Nat) (name : String) (place : Position) {text : String}
    (hs : s.supply = .failed text) :
    ∃ rest, s.readOn limit name place = ⟨rest, none, [], some (unreadable name text)⟩ := by
  have ha : s.answer limit place.request = some (.systemError text, s) := by
    simp only [answer, hs]
  have ht : place.take name (.systemError text) = .stop (some (unreadable name text)) none := by
    obtain ⟨parts, owed⟩ := place
    cases owed <;> rfl
  exact ⟨s, readOn_stop ha ht⟩

theorem Waits.tidy (h : s.Waits place bytes) (more : List UInt8) (supply : Supply) :
    Tidy ⟨s.buffer ++ more, supply⟩ place := by
  have hparts : Line.feed ∉ place.parts.flatten := fun hfeed => by
    apply h.unfinished
    rw [← h.held]
    exact List.mem_append_left _ hfeed
  exact .of_whole h.solid hparts h.owed

end Inlet

namespace Pipe

variable (limit : Nat) {c : Channel} {p : Pipe} {bytes : List UInt8}

/-- The pipe has not ended, and `bytes` are the beginning of a line that it is in the middle of. -/
def Holds (p : Pipe) (bytes : List UInt8) : Prop :=
  ∃ place, p.place = some place ∧ p.inlet.Waits place bytes

theorem fresh_holds : fresh.Holds [] :=
  ⟨.start, rfl, rfl, by simp [Reader.Position.start], rfl, rfl, by simp⟩

theorem Holds.not_ended (h : p.Holds bytes) : p.ended = false := by
  obtain ⟨place, hplace, -⟩ := h
  simp [ended, hplace]

theorem ended_iff : p.ended = true ↔ p.place = none := by simp [ended]

theorem proceed_of_ended (h : p.ended = true) (inlet : Inlet) : p.proceed limit c inlet = (p, []) := by
  rw [proceed, ended_iff.1 h]

/-- More bytes complete the lines that they and the bytes held hold together. -/
theorem Holds.feed (h : p.Holds bytes) (more : List UInt8) :
    (p.feed limit c more).1.Holds (cut (bytes ++ more)).2 ∧
      (p.feed limit c more).2 = (cut (bytes ++ more)).1.map (.line c) := by
  obtain ⟨place, hplace, hwaits⟩ := h
  obtain ⟨rest, next, hread, hnext⟩ :=
    (hwaits.tidy more p.inlet.supply).readOn_flowing limit c.name hwaits.supply
  have hheld : Inlet.held ⟨p.inlet.buffer ++ more, p.inlet.supply⟩ place = bytes ++ more := by
    rw [← hwaits.held]
    simp [Inlet.held]
  rw [hheld] at hread hnext
  simp only [Pipe.feed, proceed, hplace, hread]
  exact ⟨⟨next, rfl, hnext⟩, by simp [Reading.occurrences]⟩

theorem Holds.finish (h : p.Holds bytes) :
    (p.finish limit c).1.ended = true ∧ (p.finish limit c).2 = (lastLine bytes).map (.line c) := by
  obtain ⟨place, hplace, hwaits⟩ := h
  have htidy : Inlet.Tidy ⟨p.inlet.buffer, .ended⟩ place := by simpa using hwaits.tidy [] .ended
  obtain ⟨rest, hread⟩ := htidy.readOn_ended limit c.name rfl
  have hheld : Inlet.held ⟨p.inlet.buffer, .ended⟩ place = bytes := hwaits.held
  rw [hheld, cut_of_not_mem hwaits.unfinished] at hread
  simp only [Pipe.finish, proceed, hplace, hread]
  exact ⟨rfl, by simp [Reading.occurrences]⟩

theorem Holds.abandon (h : p.Holds bytes) (text : String) :
    (p.abandon limit c text).1.ended = true ∧
      (p.abandon limit c text).2 = [.note (Reader.unreadable c.name text)] := by
  obtain ⟨place, hplace, -⟩ := h
  obtain ⟨rest, hread⟩ :=
    Inlet.readOn_failed limit c.name place (s := { p.inlet with supply := .failed text }) rfl
  simp only [Pipe.abandon, proceed, hplace, hread]
  exact ⟨rfl, rfl⟩

end Pipe

end Workcell
