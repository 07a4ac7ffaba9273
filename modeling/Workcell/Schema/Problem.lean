namespace Workcell

inductive Step
  | name (s : String)
  | index (n : Int)
  deriving DecidableEq, Repr

inductive Fault
  | missing
  | boolType
  | boolParsing
  | stringType
  | stringTooShort
  | stringUnicode
  /-- No fault of the data: a text that is taken over though it has no UTF-8 form, and so is none here. -/
  | halfPair
  | bytesType
  | intType
  | intParsing
  | intParsingSize
  | intFromFloat
  | finiteNumber
  | floatType
  | floatParsing
  | greaterThan
  | listType
  | tupleType
  | tooShort
  | dictType
  | modelType
  | pathType
  | enumeration
  | rule (text : String)
  deriving DecidableEq, Repr

def Fault.code : Fault → String
  | missing => "missing"
  | boolType => "bool_type"
  | boolParsing => "bool_parsing"
  | stringType => "string_type"
  | stringTooShort => "string_too_short"
  | stringUnicode => "string_unicode"
  | halfPair => ""
  | bytesType => "bytes_type"
  | intType => "int_type"
  | intParsing => "int_parsing"
  | intParsingSize => "int_parsing_size"
  | intFromFloat => "int_from_float"
  | finiteNumber => "finite_number"
  | floatType => "float_type"
  | floatParsing => "float_parsing"
  | greaterThan => "greater_than"
  | listType => "list_type"
  | tupleType => "tuple_type"
  | tooShort => "too_short"
  | dictType => "dict_type"
  | modelType => "model_type"
  | pathType => "path_type"
  | enumeration => "enum"
  | rule _ => "value_error"

structure Problem where
  fault : Fault
  steps : List Step
  deriving DecidableEq, Repr

def Problem.within (s : Step) (p : Problem) : Problem := { p with steps := s :: p.steps }

end Workcell
