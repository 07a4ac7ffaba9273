import Workcell.Text.Utf8

namespace Workcell.Line

def feed : UInt8 := 0x0A

def carriageReturn : UInt8 := 0x0D

def dropLastByte (b : UInt8) (bytes : List UInt8) : List UInt8 :=
  if bytes.getLast? = some b then bytes.dropLast else bytes

def text (bytes : List UInt8) : String :=
  String.ofList (Utf8.decodeLossy (dropLastByte carriageReturn (dropLastByte feed bytes)))

end Workcell.Line
