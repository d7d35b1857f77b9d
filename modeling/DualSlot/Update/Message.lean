import DualSlot.Boot.Message
import DualSlot.Update.Error
import DualSlot.Update.Phase

/-!
# What an update session reports

A session reports in two ways. Messages are for the log. Notices are for the application: progress,
changes of phase, and the question whether an image is acceptable.
-/

namespace DualSlot

/-- A report of an update session for the log. -/
inductive UpdateMessage where
  | initialized (maxChunk timeout : UInt32)
  | cannotStart (phase : Phase)
  | invalidChunkSize (size : UInt32)
  | invalidTotalSize (size : UInt32) (room : Nat)
  | overRunningImage (slot : Nat)
  | starting (total chunks chunk : UInt32)
  | slotLocked
  | eraseFailed (cause : BootError)
  | notReceiving (phase : Phase)
  | unexpectedChunk (number expected : UInt32)
  | invalidChunk (number : UInt32) (length remaining : Nat)
  | chunkNotWritten (number : UInt32) (cause : BootError)
  | received (chunks total : UInt32) (length : Nat)
  | cannotFinalize (phase : Phase)
  | incomplete (received total : UInt32)
  | finalizing
  | headerNotRead (cause : BootError)
  | invalidHeader
  | sizeMismatch (declared received : UInt32)
  | crcMismatch (calculated expected : UInt32)
  | payloadNotRead (cause : BootError)
  | rejected
  | validated (header : Header)
  | nothingToAbort (phase : Phase)
  | aborted
  | nothingToApply (phase : Phase)
  | applying
  | refused (cause : BootError)
  | applied
  | noData (idle : UInt32) (phase : Phase)
  | illegalTransition (phase next : Phase)
  | transition (phase next : Phase)
  | dropped (phase : Phase)
  deriving DecidableEq

namespace UpdateMessage

open Text

def level : UpdateMessage → LogLevel
  | initialized .. | starting .. | finalizing | validated _ | applying | applied => .info
  | cannotStart _ | invalidChunkSize _ | invalidTotalSize .. | overRunningImage _ | slotLocked
  | notReceiving _ | unexpectedChunk .. | invalidChunk .. | cannotFinalize _ | incomplete ..
  | nothingToAbort _ | aborted | nothingToApply _ | noData .. | dropped _ => .warn
  | eraseFailed _ | chunkNotWritten .. | headerNotRead _ | invalidHeader | sizeMismatch ..
  | crcMismatch .. | payloadNotRead _ | rejected | refused _ | illegalTransition .. => .error
  | received .. | transition .. => .debug

/-- What a message says, behind the name of the session. -/
def body : UpdateMessage → String
  | initialized maxChunk timeout =>
    s!"Initialized, max chunk {maxChunk} bytes, timeout {timeout} ms"
  | cannotStart phase => s!"Cannot start update in state {phase.name}"
  | invalidChunkSize size => s!"Invalid chunk size: {size}"
  | invalidTotalSize size room => s!"Invalid total size: {size} (update slot holds {room})"
  | overRunningImage slot =>
    s!"Update slot {hex slot} holds the running image, it will be erased"
  | starting total chunks chunk =>
    s!"Starting update: {total} bytes in {chunks} chunks of {chunk}"
  | slotLocked => "Update slot is locked"
  | eraseFailed cause => s!"Failed to erase update slot: {cause.message}"
  | notReceiving phase => s!"Not receiving, state is {phase.name}"
  | unexpectedChunk number expected => s!"Unexpected chunk {number} (expected {expected})"
  | invalidChunk number length remaining =>
    s!"Invalid chunk {number} size: {length} ({remaining} bytes remaining)"
  | chunkNotWritten number cause => s!"Failed to write chunk {number}: {cause.message}"
  | received chunks total length => s!"Received chunk {chunks}/{total} ({length} bytes)"
  | cannotFinalize phase => s!"Cannot finalize in state {phase.name}"
  | incomplete count total => s!"Incomplete transfer: {count}/{total} bytes"
  | finalizing => "Finalizing update..."
  | headerNotRead cause => s!"Cannot read update header: {cause.message}"
  | invalidHeader => "Invalid firmware header"
  | sizeMismatch declared count =>
    s!"Size mismatch: header says {declared}, received {count}"
  | crcMismatch calculated expected =>
    s!"CRC mismatch: calculated={word calculated}, expected={word expected}"
  | payloadNotRead cause => s!"Cannot read update payload: {cause.message}"
  | rejected => "Firmware rejected by application"
  | validated header =>
    s!"Firmware validated: v{header.version} ({header.versionText}), {header.size} bytes"
  | nothingToAbort phase => s!"Nothing to abort in state {phase.name}"
  | aborted => "Update aborted"
  | nothingToApply phase => s!"No validated update to apply (state {phase.name})"
  | applying => "Applying update..."
  | refused cause => s!"Bootloader refused the update: {cause.message}"
  | applied => "Update applied, restart required"
  | noData idle phase => s!"No data for {idle} ms in state {phase.name}"
  | illegalTransition phase next => s!"Illegal transition {phase.name} -> {next.name}"
  | transition phase next => s!"{phase.name} -> {next.name}"
  | dropped phase => s!"Dropped in state {phase.name}, releasing update slot"

def record (m : UpdateMessage) : LogRecord := ⟨m.level, "[OTA_MANAGER] " ++ m.body⟩

end UpdateMessage

/-- A notice to the application. -/
inductive Notice where
  | progress (percent : UInt8)
  /-- The session entered a phase, because of an error if one is given. -/
  | status (phase : Phase) (cause : Option UpdateError)
  /-- The application is asked for its verdict on an image. -/
  | validate (header : Header)
  deriving DecidableEq

/-- What a session reports: the board's events among its own. A notice comes with the state of the
update lock at that moment. -/
inductive SessionEvent where
  | board (event : BoardEvent)
  | log (message : UpdateMessage)
  | notice (notice : Notice) (locked : Bool)
  deriving DecidableEq

end DualSlot
