namespace Workcell.Utf8

inductive Reason
  | badStart
  | badContinuation
  | unexpectedEnd
  deriving DecidableEq, Repr

/-- A character whose last bytes are still to come: the payload of the bytes so far, their number, the
number of bytes owed after the next one, and the bounds of the next one. -/
structure Partial where
  payload : Nat
  taken : Nat
  owed : Nat
  low : UInt8
  high : UInt8
  deriving DecidableEq, Repr

inductive Piece
  | char (c : Char)
  | fault (length : Nat) (reason : Reason)
  deriving DecidableEq, Repr

/-- The first byte of a piece. The bounds on the second byte leave out overlong forms, surrogates and
values above U+10FFFF. -/
def lead (b : UInt8) : List Piece × Option Partial :=
  let n := b.toNat
  if n < 0x80 then ([.char (Char.ofNat n)], none)
  else if n < 0xC2 then ([.fault 1 .badStart], none)
  else if n < 0xE0 then ([], some ⟨n % 0x20, 1, 0, 0x80, 0xBF⟩)
  else if n = 0xE0 then ([], some ⟨0, 1, 1, 0xA0, 0xBF⟩)
  else if n = 0xED then ([], some ⟨0xD, 1, 1, 0x80, 0x9F⟩)
  else if n < 0xF0 then ([], some ⟨n % 0x10, 1, 1, 0x80, 0xBF⟩)
  else if n = 0xF0 then ([], some ⟨0, 1, 2, 0x90, 0xBF⟩)
  else if n < 0xF4 then ([], some ⟨n % 8, 1, 2, 0x80, 0xBF⟩)
  else if n = 0xF4 then ([], some ⟨4, 1, 2, 0x80, 0x8F⟩)
  else ([.fault 1 .badStart], none)

def feed : Option Partial → UInt8 → List Piece × Option Partial
  | none, b => lead b
  | some p, b =>
    if p.low ≤ b ∧ b ≤ p.high then
      let payload := p.payload * 64 + b.toNat % 64
      match p.owed with
      | 0 => ([.char (Char.ofNat payload)], none)
      | n + 1 => ([], some ⟨payload, p.taken + 1, n, 0x80, 0xBF⟩)
    else
      (.fault p.taken .badContinuation :: (lead b).1, (lead b).2)

def flush : Option Partial → List Piece
  | none => []
  | some p => [.fault p.taken .unexpectedEnd]

def piecesFrom : Option Partial → List UInt8 → List Piece
  | p, [] => flush p
  | p, b :: r => (feed p b).1 ++ piecesFrom (feed p b).2 r

def pieces (bytes : List UInt8) : List Piece := piecesFrom none bytes

/-- The replacement character stands for every fault. -/
def Piece.shown : Piece → Char
  | .char c => c
  | .fault .. => '\uFFFD'

def decodeLossy (bytes : List UInt8) : List Char :=
  (pieces bytes).map Piece.shown

structure Fault where
  start : Nat
  length : Nat
  first : UInt8
  reason : Reason
  deriving DecidableEq, Repr

def Piece.chars? (offset : Nat) : List Piece → Except (Nat × Nat × Reason) (List Char)
  | [] => .ok []
  | .char c :: r => (Piece.chars? (offset + c.utf8Size) r).map (c :: ·)
  | .fault length reason :: _ => .error (offset, length, reason)

def decode (bytes : List UInt8) : Except Fault (List Char) :=
  (Piece.chars? 0 (pieces bytes)).mapError fun (start, length, reason) =>
    ⟨start, length, bytes.getD start 0, reason⟩

def encode (cs : List Char) : List UInt8 :=
  cs.flatMap String.utf8EncodeChar

def Reason.message : Reason → String
  | .badStart => "invalid start byte"
  | .badContinuation => "invalid continuation byte"
  | .unexpectedEnd => "unexpected end of data"

def hexByte (b : UInt8) : String :=
  String.ofList [Nat.digitChar (b.toNat / 16), Nat.digitChar (b.toNat % 16)]

/-- The report of a fault: a single byte is shown, a longer run by its first and last position. -/
def Fault.message (f : Fault) : String :=
  let place :=
    if f.length = 1 then s!"byte 0x{hexByte f.first} in position {f.start}"
    else s!"bytes in position {f.start}-{f.start + f.length - 1}"
  s!"'utf-8' codec can't decode {place}: {f.reason.message}"

end Workcell.Utf8
