import Mathlib.Data.List.DropRight
import Workcell.Reader

namespace Workcell.Reader

structure Exchange where
  request : Request
  reply : Reply
  deriving DecidableEq, Repr

namespace Exchange

/-- The bytes that an exchange delivers. A part of a line that did not come whole is not delivered. -/
def delivered : Exchange → List UInt8
  | ⟨_, .data bytes⟩ | ⟨.untilFeed, .incomplete bytes⟩ => bytes
  | _ => []

def endsLine : Exchange → Bool
  | ⟨.untilFeed, .data _⟩ | ⟨.untilFeed, .incomplete _⟩ => true
  | _ => false

def next : Exchange → Request
  | ⟨.untilFeed, .overrun consumed⟩ => .exactly (max consumed 1)
  | _ => .untilFeed

def warning? (name : String) : Exchange → Option Note
  | ⟨_, .systemError text⟩ => some (unreadable name text)
  | ⟨.exactly _, .incomplete bytes⟩ => some (unreadable name (incompleteText bytes))
  | _ => none

def escape? : Exchange → Option Escape
  | ⟨_, .otherError text⟩ => some (.other text)
  | ⟨.exactly _, .overrun consumed⟩ => some (.overrunAgain consumed)
  | _ => none

end Exchange

variable {name : String} {place next : Position} {reply : Reply} {line : Option (List UInt8)}
  {warning : Option Note} {escaped : Option Escape}

structure Continues (name : String) (place next : Position) (e : Exchange) (line : Option (List UInt8)) : Prop where
  warning_eq : e.warning? name = none
  escape_eq : e.escape? = none
  request : next.request = e.next
  ended : e.endsLine → line = some (place.parts.flatten ++ e.delivered) ∧ next.parts = []
  begun : e.endsLine = false → line = none ∧ next.parts.flatten = place.parts.flatten ++ e.delivered

theorem continues_of_goOn (h : place.take name reply = .goOn next line) :
    Continues name place next ⟨place.request, reply⟩ line := by
  obtain ⟨parts, owed⟩ := place
  cases owed with
  | some n =>
      cases reply with
      | data bytes =>
          cases h
          exact ⟨rfl, rfl, rfl, nofun, fun _ => ⟨rfl, by simp [Exchange.delivered]⟩⟩
      | _ => cases h
  | none =>
      cases reply with
      | data bytes =>
          cases h
          exact ⟨rfl, rfl, rfl, fun _ => ⟨rfl, rfl⟩, nofun⟩
      | incomplete bytes =>
          rw [Position.take] at h
          split at h
          · cases h
          · cases h
            exact ⟨rfl, rfl, rfl, fun _ => ⟨rfl, rfl⟩, nofun⟩
      | overrun consumed =>
          cases h
          exact ⟨rfl, rfl, rfl, nofun, fun _ => ⟨rfl, by simp [Exchange.delivered]⟩⟩
      | _ => cases h

structure Stops (name : String) (place : Position) (e : Exchange) (warning : Option Note)
    (escaped : Option Escape) : Prop where
  warning_eq : e.warning? name = warning
  escape_eq : e.escape? = escaped
  once : warning = none ∨ escaped = none
  faultless : e.endsLine ↔ warning = none ∧ escaped = none
  ended : e.endsLine → place.parts = [] ∧ e.delivered = []

theorem stops_of_stop (h : place.take name reply = .stop warning escaped) :
    Stops name place ⟨place.request, reply⟩ warning escaped := by
  obtain ⟨parts, owed⟩ := place
  cases owed with
  | some n =>
      cases reply with
      | data bytes => cases h
      | incomplete bytes | systemError text =>
          cases h
          exact ⟨rfl, rfl, .inr rfl, by simp [Position.request, Exchange.endsLine], nofun⟩
      | overrun consumed | otherError text =>
          cases h
          exact ⟨rfl, rfl, .inl rfl, by simp [Position.request, Exchange.endsLine], nofun⟩
  | none =>
      cases reply with
      | incomplete bytes =>
          rw [Position.take] at h
          split at h
          · next hend =>
            cases h
            exact ⟨rfl, rfl, .inl rfl, by simp [Position.request, Exchange.endsLine], fun _ => hend⟩
          · cases h
      | systemError text =>
          cases h
          exact ⟨rfl, rfl, .inr rfl, by simp [Position.request, Exchange.endsLine], nofun⟩
      | otherError text =>
          cases h
          exact ⟨rfl, rfl, .inl rfl, by simp [Position.request, Exchange.endsLine], nofun⟩
      | _ => cases h

/-- All exchanges of a reader from a place on, with what it has done then. -/
inductive Dialogue (name : String) : Position → List Exchange → Outcome → Prop
  | stop {place : Position} {reply : Reply} {warning : Option Note} {escaped : Option Escape} :
      place.take name reply = .stop warning escaped →
      Dialogue name place [⟨place.request, reply⟩] ((Outcome.stopped name warning escaped).asks place.request)
  | goOn {place next : Position} {reply : Reply} {line : Option (List UInt8)} {es : List Exchange} {o : Outcome} :
      place.take name reply = .goOn next line → Dialogue name next es o →
      Dialogue name place (⟨place.request, reply⟩ :: es) ((o.reads name line).asks place.request)

namespace Outcome

@[simp]
theorem lines_asks (r : Request) (o : Outcome) : (o.asks r).lines = o.lines := rfl

@[simp]
theorem lines_reads (name : String) (line : Option (List UInt8)) (o : Outcome) :
    (o.reads name line).lines = line.toList ++ o.lines := by
  cases line <;> simp [lines, reads, Entry.bytes?]

@[simp]
theorem lines_stopped (name : String) (warning : Option Note) (escaped : Option Escape) :
    (stopped name warning escaped).lines = [] := rfl

end Outcome

namespace Dialogue

variable {es : List Exchange} {o : Outcome}

theorem request_eq (h : Dialogue name place es o) {before after : List Exchange} {e : Exchange}
    (hes : es = before ++ e :: after) : e.request = (before.getLast?.map Exchange.next).getD place.request := by
  induction h generalizing before with
  | stop =>
      cases before with
      | nil =>
          obtain ⟨rfl, -⟩ := List.cons.inj hes
          rfl
      | cons first before => simp at hes
  | goOn hmove _ ih =>
      cases before with
      | nil =>
          obtain ⟨rfl, -⟩ := List.cons.inj hes
          rfl
      | cons first before =>
          obtain ⟨rfl, hrest⟩ := List.cons.inj hes
          rw [ih hrest, (continues_of_goOn hmove).request, List.getLast?_cons]
          cases before.getLast? <;> rfl

theorem warning_eq (h : Dialogue name place es o) : o.warning.toList = es.filterMap (Exchange.warning? name) := by
  induction h with
  | @stop place reply warning escaped hmove =>
      rw [List.filterMap_cons, (stops_of_stop hmove).warning_eq]
      cases warning <;> rfl
  | goOn hmove _ ih =>
      rw [List.filterMap_cons_none (continues_of_goOn hmove).warning_eq]
      exact ih

theorem escape_eq (h : Dialogue name place es o) : o.escaped.toList = es.filterMap Exchange.escape? := by
  induction h with
  | @stop place reply warning escaped hmove =>
      rw [List.filterMap_cons, (stops_of_stop hmove).escape_eq]
      cases escaped <;> rfl
  | goOn hmove _ ih =>
      rw [List.filterMap_cons_none (continues_of_goOn hmove).escape_eq]
      exact ih

theorem ne_nil (h : Dialogue name place es o) : es ≠ [] := by
  cases h <;> simp

section Cut

variable {kept rest : List Exchange} (h : Dialogue name place es o) (hes : es = kept ++ rest)
  (hlast : ∀ e ∈ kept.getLast?, e.endsLine) (hrest : ∀ e ∈ rest, e.endsLine = false)
include h hes hlast hrest

end Cut

end Dialogue

/-- A chunk of a long line is lost with the error that comes after it. -/
example : run "stderr" .start [.data [97, 10], .overrun 2, .data [98, 98], .systemError "gone"] =
    ⟨[.untilFeed, .untilFeed, .exactly 2, .untilFeed], [.line "stderr" [97, 10], .ended "stderr"],
      some (unreadable "stderr" "gone"), none⟩ := by
  decide

end Workcell.Reader
