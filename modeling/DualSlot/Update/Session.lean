import DualSlot.Boot.Board
import DualSlot.Update.Message
import DualSlot.Update.Statistics
import DualSlot.Update.Status

/-!
# Update sessions

A session receives an image into the update slot of a board. The image arrives as a declared size
followed by numbered chunks, strictly in order. Once all bytes are there the image is checked, and can
then be handed to the boot loader to become the active one.

```text
start -> receive* -> finalize -> apply
```

From `start` to the end of the transfer the session holds the lock of the update slot, so that nothing
switches to a half-written image.

* `Session` is what one session remembers; `Link` connects it to its board.
* `Link.enter` is the only way to change the phase. It gives the update slot back when the session stops
  being busy, and notifies the application.

The calls of the application stand in `Update.Calls`.
-/

namespace DualSlot

/-! ## State -/

/-- The limits of a session. -/
structure SessionConfig where
  /-- The largest chunk that may be declared. -/
  maxChunk : UInt32 := 1024
  /-- The milliseconds without data after which a poll reports a stalled transfer. -/
  timeout : UInt32 := 30000
  deriving DecidableEq, Repr

/-- What a session remembers. -/
structure Session where
  config : SessionConfig
  /-- The application's verdict on a received image. -/
  accepts : Header → Bool
  phase : Phase
  lastError : Option UpdateError
  transfer : Transfer
  /-- The header of the last image that was looked at. -/
  header : Option Header
  progress : UInt8
  restartRequired : Bool
  abortRequested : Bool
  /-- The milliseconds since the last accepted chunk. -/
  idle : UInt32
  statistics : Statistics

namespace Session

/-- A session before its first transfer. -/
def fresh (config : SessionConfig) (accepts : Header → Bool) : Session where
  config
  accepts
  phase := .idle
  lastError := none
  transfer := .none
  header := none
  progress := 0
  restartRequired := false
  abortRequested := false
  idle := 0
  statistics := .zero

/-- A checked image waits for a restart. -/
def updateAvailable (s : Session) : Bool := s.phase == .complete && s.restartRequired

/-- A snapshot for printing. -/
def status (s : Session) : UpdateStatus where
  phase := s.phase
  lastError := s.lastError
  progress := s.progress
  transfer := s.transfer
  restartRequired := s.restartRequired
  abortRequested := s.abortRequested

/-- The report of a session that opens. -/
def opening (config : SessionConfig) : SessionEvent :=
  .log (.initialized config.maxChunk config.timeout)

end Session

/-- A session connected to the board that it updates. -/
structure Link (g : Geometry) where
  session : Session
  board : Board g

/-- A call on a session. -/
abbrev SessionAction (g : Geometry) (α : Type) : Type :=
  Action SessionEvent (Link g) UpdateError α

namespace Link

variable {g : Geometry} {α : Type}

/-! ## Reaching the parts -/

/-- Run a call on the board and answer its result. -/
@[inline] def onBoard (x : BoardAction g α) : SessionAction g (Except BootError α) := fun link =>
  match link with
  | ⟨session, board⟩ =>
    match x board with
    | ⟨r, board', events⟩ => ⟨.ok r, ⟨session, board'⟩, events.map .board⟩

/-- Read something off the session. -/
@[inline] def look (f : Session → α) : SessionAction g α := Action.look fun link => f link.session

/-- Read something off the boot loader. -/
@[inline] def lookLoader (f : Loader g → α) : SessionAction g α :=
  Action.look fun link => f link.board.loader

/-- Change the session. -/
@[inline] def change (f : Session → Session) : SessionAction g Unit := fun link =>
  match link with
  | ⟨session, board⟩ => ⟨.ok (), ⟨f session, board⟩, []⟩

/-- Report something for the log. -/
@[inline] def log (message : UpdateMessage) : SessionAction g Unit := Action.say (.log message)

/-- Refuse a call: report why, and change nothing. -/
def refuse (message : UpdateMessage) (e : UpdateError) : SessionAction g α := do
  log message
  Action.fail e

/-- Notify the application. -/
def notify (notice : Notice) : SessionAction g Unit := do
  let locked ← lookLoader (·.updateLocked)
  Action.say (.notice notice locked)

/-! ## Phases -/

/-- Give the update slot back. -/
def release : SessionAction g Unit := do
  let _ ← onBoard Board.unlockUpdateSlot

/-- Move to a phase. A session that stops being busy gives the update slot back. -/
def enter (next : Phase) (cause : Option UpdateError) : SessionAction g Unit := do
  let phase ← look (·.phase)
  if !phase.allows next then
    refuse (.illegalTransition phase next) .invalidState
  else
    log (.transition phase next)
    change fun s => { s with phase := next, lastError := cause <|> s.lastError }
    -- The lock has no owner: it is released whoever took it.
    if phase.busy && !next.busy then release
    notify (.status next cause)

/-- Tell the progress. -/
def setProgress (percent : UInt8) : SessionAction g Unit := do
  change fun s => { s with progress := percent }
  notify (.progress percent)

/-- End the session with an error, as a failed update. -/
def giveUp (e : UpdateError) : SessionAction g Unit := do
  change fun s =>
    { s with statistics := { s.statistics with failed := s.statistics.failed + 1 } }
  let _ ← (enter .failed (some e)).attempt

/-- End the session with an error, and fail with it. -/
def abandon (message : UpdateMessage) (e : UpdateError) : SessionAction g α := do
  log message
  giveUp e
  Action.fail e

end Link

end DualSlot
