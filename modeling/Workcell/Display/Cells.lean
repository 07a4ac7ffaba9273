import Workcell.Display.CellWidth

namespace Workcell.Display

def joiner : Char := '\u200d'

def emojiSelector : Char := '\ufe0f'

def isWidened (c : Char) : Bool := Text.inRanges widened c.toNat

/-- The cells of the rest of a text after the character `last`, the latest that took any. A joiner hides
the character after it. -/
def widthFrom (last : Option Char) : List Char → Nat
  | [] => 0
  | [c] => if c = joiner then 0 else single last c
  | c :: d :: r =>
    if c = joiner then widthFrom last r
    else if c = emojiSelector then single last c + widthFrom none (d :: r)
    else single last c + widthFrom (if cellWidth c = 0 then last else some c) (d :: r)
where
  /-- The cells that one character adds. -/
  single (last : Option Char) (c : Char) : Nat :=
    if c = emojiSelector then if last.any isWidened then 1 else 0 else cellWidth c

def textWidth (cs : List Char) : Nat := widthFrom none cs

structure Cluster where
  chars : List Char
  width : Nat
  deriving Repr

def attach (cs : List Char) (extra : Nat) : List Cluster → List Cluster
  | [] => [⟨cs, extra⟩]
  | c :: r => ⟨c.chars ++ cs, c.width + extra⟩ :: r

def clustersFrom (last : Option Char) (done : List Cluster) : List Char → List Cluster
  | [] => done
  | [c] => if c = joiner then attach [c] 0 done else (single last done c).2
  | c :: d :: r =>
    if c = joiner then
      if done = [] then clustersFrom last (attach [c] 0 []) (d :: r)
      else clustersFrom last (attach [c, d] 0 done) r
    else clustersFrom (single last done c).1 (single last done c).2 (d :: r)
where
  /-- One character that is no joiner: the latest character that took a cell, and the clusters. -/
  single (last : Option Char) (done : List Cluster) (c : Char) : Option Char × List Cluster :=
    if c = emojiSelector then
      if done ≠ [] ∧ last.any isWidened then (none, attach [c] 1 done) else (last, attach [c] 0 done)
    else if cellWidth c = 0 then (last, attach [c] 0 done)
    else (some c, ⟨[c], cellWidth c⟩ :: done)

def clusters (cs : List Char) : List Cluster := (clustersFrom none [] cs).reverse

/-- The clusters that fit into some cells. One that would be cut in half gives way to a space. -/
def takeClusters : Nat → List Cluster → List Char
  | _, [] => []
  | room, c :: r =>
    if c.width ≤ room then
      if c.width = room then c.chars else c.chars ++ takeClusters (room - c.width) r
    else if room = 0 then [] else [' ']

def fitCells (room : Nat) (cs : List Char) : List Char :=
  let width := textWidth cs
  if width ≤ room then cs ++ List.replicate (room - width) ' '
  else if room = 0 then [] else takeClusters room (clusters cs)

end Workcell.Display
