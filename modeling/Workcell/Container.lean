namespace Workcell

structure Container where
  image : String
  network : Bool
  engine : String
  image_ne : image ≠ ""
  engine_ne : engine ≠ ""
  deriving DecidableEq

def defaultEngine : String := "docker"

theorem defaultEngine_ne : defaultEngine ≠ "" := by decide

end Workcell
