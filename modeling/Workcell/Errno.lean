import Workcell.Text.Quoted

namespace Workcell

structure Errno where
  code : Nat
  deriving DecidableEq, Repr

namespace Errno

def noEntry : Errno := ⟨2⟩
def inputOutput : Errno := ⟨5⟩
def badDescriptor : Errno := ⟨9⟩
def permissionDenied : Errno := ⟨13⟩
def notDirectory : Errno := ⟨20⟩
def isDirectory : Errno := ⟨21⟩
def noSpace : Errno := ⟨28⟩
def nameTooLong : Errno := ⟨36⟩
def notImplemented : Errno := ⟨38⟩
def tooManyLinks : Errno := ⟨40⟩

def description (e : Errno) : String :=
  match e.code with
  | 1 => "Operation not permitted"
  | 2 => "No such file or directory"
  | 5 => "Input/output error"
  | 7 => "Argument list too long"
  | 8 => "Exec format error"
  | 9 => "Bad file descriptor"
  | 12 => "Cannot allocate memory"
  | 13 => "Permission denied"
  | 20 => "Not a directory"
  | 21 => "Is a directory"
  | 24 => "Too many open files"
  | 28 => "No space left on device"
  | 36 => "File name too long"
  | 38 => "Function not implemented"
  | 40 => "Too many levels of symbolic links"
  | n => s!"Unknown error {n}"

def message (e : Errno) : String := s!"[Errno {e.code}] {e.description}"

def messageAt (e : Errno) (path : String) : String := s!"{e.message}: {Text.quoted path}"

end Errno

end Workcell
