import DualSlot.Text.Tenths

/-!
# Counters across sessions
-/

namespace DualSlot

/-- How many sessions were started, and how they ended. -/
structure Statistics where
  total : UInt32
  successful : UInt32
  failed : UInt32
  deriving DecidableEq, Repr

namespace Statistics

def zero : Statistics := ⟨0, 0, 0⟩

/-- The percentage of started sessions that gave a valid image. -/
def successRate (s : Statistics) : Float32 :=
  if s.total = 0 then 0
  else s.successful.toFloat32 * 100 / s.total.toFloat32

def text (s : Statistics) : String :=
  "OTA statistics\n"
    ++ s!"  Total Updates:    {s.total}\n"
    ++ s!"  Successful:       {s.successful}\n"
    ++ s!"  Failed:           {s.failed}\n"
    ++ s!"  Success Rate:     {Text.oneDecimal s.successRate}%"

end Statistics

end DualSlot
