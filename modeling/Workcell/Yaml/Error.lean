import Workcell.Text.Quoted

namespace Workcell.Yaml

/-- A scalar whose text contradicts its type. Such a text is well-formed YAML, yet has no value. -/
inductive ScalarError
  | notInteger (base : Nat) (text : String)
  | tooManyDigits (count : Nat)
  | notFloat (text : String)
  | emptyNumber
  | notBool (text : String)
  | notTimestamp
  | badMoment (text : String)
  | notCharacter (code : Nat)
  | tooLarge
  /-- Of a mapping that stands for itself there is no text. -/
  | endless
  deriving DecidableEq, Repr

def leastUnsigned : Nat := 2147483648

/-- Only the first 200 characters of what should be a whole number are shown. -/
def ScalarError.message : ScalarError → String
  | notInteger base text =>
    s!"invalid literal for int() with base {base}: {String.ofList ((Text.quoted text).toList.take 200)}"
  | tooManyDigits count =>
    s!"Exceeds the limit (4300 digits) for integer string conversion: value has {count} digits; " ++
      "use sys.set_int_max_str_digits() to increase the limit"
  | notFloat text => s!"could not convert string to float: {Text.quoted text}"
  | emptyNumber => "string index out of range"
  | notBool text => Text.quoted text
  | notTimestamp => "'NoneType' object has no attribute 'groupdict'"
  | badMoment text => text
  | notCharacter code =>
    if code < leastUnsigned then "chr() arg not in range(0x110000)"
    else "Python int too large to convert to C int"
  | tooLarge => "int too large to convert to float"
  | endless => "maximum recursion depth exceeded"

inductive Error
  | malformed
  | scalar (e : ScalarError)
  deriving DecidableEq, Repr

end Workcell.Yaml
