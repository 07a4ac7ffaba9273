namespace Workcell

inductive Level
  | info
  | warning
  | error
  deriving DecidableEq, Repr

def Level.name : Level → String
  | info => "INFO"
  | warning => "WARNING"
  | error => "ERROR"

structure Note where
  level : Level
  text : String
  deriving DecidableEq, Repr

end Workcell
