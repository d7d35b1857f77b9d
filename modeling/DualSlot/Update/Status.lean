import DualSlot.Boot.Status
import DualSlot.Update.Error
import DualSlot.Update.Phase
import DualSlot.Update.Transfer

/-!
# A snapshot of an update session, for printing
-/

namespace DualSlot

/-- What there is to tell about an update session. -/
structure UpdateStatus where
  phase : Phase
  lastError : Option UpdateError
  progress : UInt8
  transfer : Transfer
  restartRequired : Bool
  abortRequested : Bool
  deriving DecidableEq, Repr

namespace UpdateStatus

/-- The text of the last error, or `none`. -/
def errorText (s : UpdateStatus) : String :=
  match s.lastError with
  | some e => e.message
  | none => "none"

def text (s : UpdateStatus) : String :=
  "OTA manager status\n"
    ++ s!"  State:            {s.phase.name}\n"
    ++ s!"  Last Error:       {s.errorText}\n"
    ++ s!"  Progress:         {s.progress}%\n"
    ++ s!"  Received Bytes:   {s.transfer.receivedBytes}/{s.transfer.totalSize}\n"
    ++ s!"  Received Chunks:  {s.transfer.receivedChunks}/{s.transfer.totalChunks}\n"
    ++ s!"  Restart Required: {yesNo s.restartRequired}\n"
    ++ s!"  Abort Requested:  {yesNo s.abortRequested}"

end UpdateStatus

end DualSlot
