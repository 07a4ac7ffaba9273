import Workcell.Display.Markup
import Workcell.Display.Wrap

namespace Workcell.Display

structure Frame where
  topLeft : Char
  topMiddle : Char
  topRight : Char
  bottomLeft : Char
  bottomMiddle : Char
  bottomRight : Char

def Frame.rounded : Frame := ⟨'╭', '┬', '╮', '╰', '┴', '╯'⟩

def Frame.square : Frame := ⟨'┌', '┬', '┐', '└', '┴', '┘'⟩

structure Table where
  title : String
  frame : Frame
  rows : List (String × String)

def endsLine (c : Char) : Bool :=
  c == '\n' || c == '\r' || c == '\x0b' || c == '\x0c' || ('\x1c' ≤ c && c ≤ '\x1e') || c == '\x85' ||
    c == '\u2028' || c == '\u2029'

def lineWidth (cs : List Char) : Nat :=
  ((Text.split '\n' (cs.map fun c => if endsLine c then '\n' else c)).map textWidth).foldl max 0

def padding : Nat := 2

def total : List Nat → Nat
  | [] => 0
  | w :: r => w + total r

def columnWidth (limit : Nat) (cells : List (List Char)) : Nat :=
  if limit = 0 then 0
  else if limit ≤ padding then limit
  else min limit ((cells.map fun c => lineWidth c + padding).foldl max 0)

/-- Takes a total away from the chosen widths in equal shares, a half rounded to even, no width losing
more than its bound. -/
def takeShares : (total chosen : Nat) → List (Nat × Bool × Nat) → List Nat
  | _, _, [] => []
  | total, chosen, (width, isChosen, bound) :: r =>
    if isChosen ∧ bound ≠ 0 then
      let share := min bound (Double.roundHalfEven total chosen)
      (width - share) :: takeShares (total - share) (chosen - 1) r
    else width :: takeShares total chosen r

def reduce (total : Nat) (columns : List (Nat × Bool × Nat)) : List Nat :=
  let chosen := (columns.filter fun c => c.2.1 && c.2.2 ≠ 0).length
  if chosen = 0 then columns.map (·.1) else takeShares total chosen columns

/-- Shrinks the widest columns, again and again, to the width of the next widest, until all fit. -/
def collapse (limit : Nat) : (fuel : Nat) → List Nat → List Nat
  | 0, widths => widths
  | fuel + 1, widths =>
    let excess := total widths - limit
    if excess = 0 then widths
    else
      let widest := widths.foldl max 0
      let next := (widths.filter (· ≠ widest)).foldl max 0
      if widest = next then widths
      else
        collapse limit fuel
          (reduce excess (widths.map fun w => (w, w == widest, min excess (widest - next))))

def columnWidths (limit : Nat) (columns : List (List (List Char))) : List Nat :=
  let widths := columns.map fun cells => max (columnWidth limit cells) 1
  if total widths ≤ limit then widths
  else
    let widths := collapse limit (total widths + 1) widths
    let widths := if total widths ≤ limit then widths
      else reduce (total widths - limit) (widths.map fun w => (w, true, w))
    (widths.zip columns).map fun c => columnWidth c.1 c.2

def cellLines (width : Nat) (cs : List Char) : List (List Char) :=
  if width ≤ padding then []
  else (wrapLeft (width - padding) cs).map fun l => fitCells width (' ' :: l ++ [' '])

def rule (left middle right : Char) (widths : List Nat) : List Char :=
  left :: [middle].intercalate (widths.map fun w => List.replicate w '─') ++ [right]

def rowLines (widths : List Nat) (cells : List (List Char)) : List (List Char) :=
  let columns := (widths.zip cells).map fun (w, cs) => (w, cellLines w cs)
  let height := (columns.map fun c => c.2.length).foldl max 1
  (List.range height).map fun n =>
    '│' :: ['│'].intercalate (columns.map fun (w, lines) => lines.getD n (List.replicate w ' ')) ++ ['│']

def frameWidth : Nat := 3

structure Cell where
  text : List Char
  spans : List Span

namespace Cell

def blank : Cell := ⟨[], []⟩

/-- The spans of the lines of a cell. A text that is not broken also keeps those that hold nothing. -/
def spanLines (width : Nat) (c : Cell) : List (List Span) :=
  if isUnbroken width c.text then
    let kept := keptLength width c.text
    [c.spans.filter fun s => c.text.length ≤ kept || s.start < kept]
  else (wrapPlaces width 0 (Text.split '\n' c.text)).map fun places =>
    c.spans.filter fun s => places.any fun place => s.start ≤ place && place < s.stop

/-- What is wrong with the styles of the text in a cell. Where there is no room for text they do not matter. -/
def fault? (width : Nat) (c : Cell) : Option MarkupError :=
  if width ≤ padding then none
  else (c.spanLines (width - padding)).findSome? fun line => line.findSome? Span.fault?

end Cell

def Console.cell (k : Console) (s : String) : Except MarkupError Cell :=
  (render k s.toList).map fun text => ⟨text, spans s.toList⟩

/-- Reads the cells of a column from top to bottom; the first that cannot be shown fails. Where there is no
room for text its markup is not looked at. -/
def Console.cells (k : Console) (column : List String) : Except MarkupError (List Cell) :=
  if k.width - frameWidth ≤ padding then .ok (column.map fun _ => .blank) else column.mapM k.cell

def cellWidths (k : Console) (keys values : List Cell) : List Nat :=
  columnWidths (k.width - frameWidth) [keys.map Cell.text, values.map Cell.text]

def rowsFault? (widths : List Nat) (rows : List (Cell × Cell)) : Option MarkupError :=
  rows.findSome? fun row => (widths.zip [row.1, row.2]).findSome? fun (width, cell) => cell.fault? width

/-- The lines of a table. All markup is read before the first line is shown. What does not fit beside the frame is cut
off; a console without a cell shows nothing. -/
def Table.lines (t : Table) (k : Console) : Except MarkupError (List String) :=
  match k.cells (t.rows.map (·.1)), k.cells (t.rows.map (·.2)) with
  | .error e, _ => .error e
  | _, .error e => .error e
  | .ok keys, .ok values =>
    let widths := cellWidths k keys values
    let rows := keys.zip values
    match rowsFault? widths rows with
    | some e => .error e
    | none =>
      let title := wrapCentre (total widths + frameWidth) t.title.toList
      let lines := title ++ [rule t.frame.topLeft t.frame.topMiddle t.frame.topRight widths] ++
        rows.flatMap (fun row => rowLines widths [row.1.text, row.2.text]) ++
        [rule t.frame.bottomLeft t.frame.bottomMiddle t.frame.bottomRight widths]
      .ok (if k.width = 0 then [] else lines.map fun line => String.ofList (cutOff .fold k.width line))

end Workcell.Display
