import Workcell.Display.Cells
import Workcell.Text.Blank
import Workcell.Text.Split

namespace Workcell.Display

open Text

inductive Overflow
  | fold
  | ellipsis
  deriving DecidableEq, Repr

inductive WordScan
  | before
  | inside
  | behind

def wordsFrom : WordScan → (current : List Char) → List Char → List (List Char)
  | .before, _, [] => []
  | _, current, [] => [current.reverse]
  | .before, current, c :: r => wordsFrom (if isSpacing c then .before else .inside) (c :: current) r
  | .inside, current, c :: r => wordsFrom (if isSpacing c then .behind else .inside) (c :: current) r
  | .behind, current, c :: r =>
    if isSpacing c then wordsFrom .behind (c :: current) r
    else current.reverse :: wordsFrom .inside [c] r

def words (cs : List Char) : List (List Char) := wordsFrom .before [] cs

def chop (width : Nat) : (line : List Char) → (used : Nat) → List Cluster → List (List Char)
  | line, _, [] => if line = [] then [] else [line]
  | line, used, c :: r =>
    if width < used + c.width then line :: chop width c.chars c.width r
    else chop width (line ++ c.chars) (used + c.width) r

/-- Puts words into lines. `line` is the current line and `used` its cells; no line is broken before the
first word. -/
def fill (overflow : Overflow) (width : Nat) : (line : List Char) → (used : Nat) → (first : Bool) →
    List (List Char) → List (List Char)
  | line, _, _, [] => [line]
  | line, used, first, w :: r =>
    let needed := textWidth (trimEnd isSpacing w)
    if used + needed ≤ width then fill overflow width (line ++ w) (used + textWidth w) false r
    else
      let finished := if first then [] else [line]
      if width < needed then
        match overflow with
        | .ellipsis => finished ++ fill overflow width w (textWidth w) false r
        | .fold =>
          let pieces := chop (max width 1) [] 0 (clusters w)
          let last := pieces.getLast?.getD []
          finished ++ pieces.dropLast ++ fill overflow width last (textWidth last) false r
      else finished ++ fill overflow width w (textWidth w) false r

def dropExcess (width : Nat) (cs : List Char) : List Char :=
  let blanks := (cs.reverse.takeWhile isSpacing).length
  cs.take (cs.length - min blanks (cs.length - width))

/-- Replaces tabs by spaces up to the next stop; stops are eight cells apart, and the stretch between two
tabs is measured on its own. -/
def expandTabs (used : Nat) : List (List Char) → List Char
  | [] => []
  | [s] => s
  | s :: r =>
    let used := used + textWidth s + 1
    let fillers := (8 - used % 8) % 8
    s ++ List.replicate (fillers + 1) ' ' ++ expandTabs (used + fillers) r

def detab (cs : List Char) : List Char :=
  if '\t' ∈ cs then expandTabs 0 (split '\t' cs) else cs

def cutOff (overflow : Overflow) (width : Nat) (cs : List Char) : List Char :=
  if textWidth cs ≤ width then cs
  else match overflow with
    | .fold => fitCells width cs
    | .ellipsis => fitCells (width - 1) cs ++ ['…']

def breakLine (overflow : Overflow) (width : Nat) (cs : List Char) : List (List Char) :=
  match words cs with
  | [] => [cs]
  | ws => fill overflow width [] 0 true ws

def wrapLine (overflow : Overflow) (width : Nat) (cs : List Char) : List (List Char) :=
  (breakLine overflow width (detab cs)).map (dropExcess width)

def wrapLeft (width : Nat) (cs : List Char) : List (List Char) :=
  (split '\n' cs).flatMap fun line =>
    (wrapLine .ellipsis width line).map fun l => fitCells width (cutOff .ellipsis width l)

/-- How many characters of a line are kept where it is too long. -/
def keptLength (width : Nat) (line : List Char) : Nat := (cutOff .ellipsis width (dropExcess width line)).length

/-- Where in the text the characters of `expandTabs` come from. -/
def expandPlaces (used place : Nat) : List (List Char) → List Nat
  | [] => []
  | [s] => List.range' place s.length
  | s :: r =>
    let used := used + textWidth s + 1
    let fillers := (8 - used % 8) % 8
    List.range' place s.length ++ List.replicate (fillers + 1) (place + s.length) ++
      expandPlaces (used + fillers) (place + s.length + 1) r

def placesOfLines (width : Nat) : List (List Char) → List Nat → List (List Nat)
  | [], _ => []
  | line :: r, places =>
    places.take (min (keptLength width line) line.length) :: placesOfLines width r (places.drop line.length)

/-- Where in the text the characters come from that are kept of the lines of `wrapLeft`. -/
def wrapPlaces (width : Nat) : (place : Nat) → List (List Char) → List (List Nat)
  | _, [] => []
  | place, line :: r =>
    placesOfLines width (breakLine .ellipsis width (detab line)) (expandPlaces 0 place (split '\t' line)) ++
      wrapPlaces width (place + line.length + 1) r

def isUnbroken (width : Nat) (cs : List Char) : Bool :=
  !cs.contains '\n' && !cs.contains '\t' && (breakLine .ellipsis width cs).length == 1

def centre (width : Nat) (cs : List Char) : List Char :=
  let cs := cutOff .fold width (trimEnd isSpacing cs)
  fitCells width (List.replicate ((width - textWidth cs) / 2) ' ' ++ cs)

def wrapCentre (width : Nat) (cs : List Char) : List (List Char) :=
  (split '\n' cs).flatMap fun line => (wrapLine .fold width line).map (centre width)

end Workcell.Display
