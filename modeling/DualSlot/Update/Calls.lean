import DualSlot.Bytes.Pieces
import DualSlot.Update.Session

/-!
# The calls of an update session

* `Link.start` declares a transfer, locks the update slot and erases it.
* `Link.receive` writes the next chunk.
* `Link.finalize` checks the received image: header, size, CRC, and the verdict of the application.
* `Link.apply` makes the boot loader switch to the image.
* `Link.abort` ends the session, `Link.poll` watches for stalls, `Link.close` forgets the session.

Nobody else uses the board while a call is made on it, but for one: a session may be closed at any moment.
`Link.close` is told whether the board is in use elsewhere just then.
-/

namespace DualSlot.Link

variable {g : Geometry}

/-! ## Starting -/

/-- The bytes from the start of the update slot to the end of the flash. -/
def room : SessionAction g Nat := do
  pure (g.capacity - (← lookLoader (·.updateSlot)))

/-- Forget the last transfer and declare a new one. -/
def declare (total chunk : UInt32) : SessionAction g Unit :=
  change fun s =>
    { s with
      transfer := .declare total chunk
      header := none
      progress := 0
      restartRequired := false
      abortRequested := false
      idle := 0
      lastError := none }

/-- Lock the update slot and erase its first `total` bytes. If the erase fails, the lock is given back. -/
def reserve (total : UInt32) : SessionAction g Unit := do
  match ← onBoard Board.lockUpdateSlot with
  | .error _ => refuse .slotLocked .invalidState
  | .ok () =>
    match ← onBoard (Board.eraseUpdateSlot total.toNat) with
    | .ok () => pure ()
    | .error e =>
      -- The session is not busy yet, so entering `failed` would not give the lock back.
      release
      log (.eraseFailed e)
      enter .failed (some .flashError)
      Action.fail .flashError

/-- Begin a transfer of `total` bytes in chunks of `chunk` bytes. -/
def start (total chunk : UInt32) : SessionAction g Unit := do
  let phase ← look (·.phase)
  let maxChunk ← look (·.config.maxChunk)
  let room ← room
  if phase ≠ .idle ∧ phase.terminal = false then
    refuse (.cannotStart phase) .invalidState
  else if chunk = 0 ∨ maxChunk < chunk then
    refuse (.invalidChunkSize chunk) .invalidSize
  else if total = 0 ∨ room < total.toNat then
    refuse (.invalidTotalSize total room) .invalidSize
  else
    if (← lookLoader (·.context.active)) = .b then
      log (.overRunningImage (← lookLoader (·.updateSlot)))
    -- From here on the last transfer is forgotten, even if the slot turns out to be locked.
    if phase ≠ .idle then enter .idle none
    declare total chunk
    log (.starting total (Transfer.declare total chunk).totalChunks chunk)
    reserve total
    change fun s =>
      { s with statistics := { s.statistics with total := s.statistics.total + 1 } }
    enter .waitingForStart none
    setProgress 0

/-! ## Receiving -/

/-- Write the next chunk. -/
def receive (number : UInt32) (data : List UInt8) : SessionAction g Unit := do
  let phase ← look (·.phase)
  let transfer ← look (·.transfer)
  let length := data.length
  if !phase.receiving then
    refuse (.notReceiving phase) .invalidState
  else if number ≠ transfer.nextChunk then
    refuse (.unexpectedChunk number transfer.nextChunk) .communication
  else if length = 0 ∨ transfer.chunkSize.toNat < length ∨ transfer.remaining < length then
    refuse (.invalidChunk number length transfer.remaining) .invalidSize
  else
    match ← onBoard (Board.programUpdateSlot transfer.receivedBytes.toNat data) with
    | .error e => abandon (.chunkNotWritten number e) .flashError
    | .ok () =>
      if phase = .waitingForStart then enter .receivingData none
      let transfer := transfer.accept length
      change fun s => { s with transfer, idle := 0 }
      log (.received transfer.receivedChunks transfer.totalChunks length)
      setProgress transfer.percent

/-- Declare a transfer and send the pieces of `data` as its chunks, numbered from zero, until one is
refused. With a limit no more chunks than that are sent. The answer is the number of chunks. -/
def transmit (total chunk : UInt32) (data : List UInt8) (limit : Option Nat) :
    SessionAction g Nat := do
  start total chunk
  let all := pieces chunk.toNat data
  let chunks := all.take (limit.getD all.length)
  Action.forEach chunks.zipIdx fun (piece, i) => receive i.toUInt32 piece
  pure chunks.length

/-! ## Checking -/

/-- Check the header of the received image against the transfer. -/
def checkHeader (header : Header) : SessionAction g Unit := do
  let total ← look (·.transfer.totalSize)
  if !header.wellShaped then
    abandon .invalidHeader .validationFailed
  else if total.toNat ≤ Header.length ∨ header.size ≠ total then
    abandon (.sizeMismatch header.size total) .validationFailed

/-- Check the payload of the received image against its header. -/
def checkPayload (header : Header) : SessionAction g Unit := do
  let slot ← lookLoader (·.updateSlot)
  match ← onBoard (Board.payloadCrc slot header) with
  | .error e => abandon (.payloadNotRead e) .flashError
  | .ok calculated =>
    if calculated ≠ header.crc32 then
      abandon (.crcMismatch calculated header.crc32) .crcMismatch

/-- Ask the application about the received image. -/
def askApplication (header : Header) : SessionAction g Unit := do
  notify (.validate header)
  let accepts ← look (·.accepts)
  if !accepts header then
    abandon .rejected .validationFailed

/-- Check the received image. -/
def validate : SessionAction g Unit := do
  if (← look (·.phase)) ≠ .validating then
    Action.fail .invalidState
  else
    let slot ← lookLoader (·.updateSlot)
    match ← onBoard (Board.readHeader slot) with
    | .error e => abandon (.headerNotRead e) .flashError
    | .ok header =>
      change fun s => { s with header := some header }
      checkHeader header
      checkPayload header
      askApplication header
      log (.validated header)
      enter .complete none
      setProgress 100
      change fun s =>
        { s with
          statistics := { s.statistics with successful := s.statistics.successful + 1 }
          restartRequired := true }

/-- All bytes are there: check the image. -/
def finalize : SessionAction g Unit := do
  let phase ← look (·.phase)
  let transfer ← look (·.transfer)
  if phase ≠ .receivingData then
    refuse (.cannotFinalize phase) .invalidState
  else if transfer.receivedBytes ≠ transfer.totalSize then
    refuse (.incomplete transfer.receivedBytes transfer.totalSize) .invalidSize
  else
    log .finalizing
    enter .validating none
    setProgress 95
    validate

/-! ## Applying and ending -/

/-- Let the boot loader check for the update and switch to it. -/
def takeOver : BoardAction g Unit := do
  let _ ← Board.checkUpdate
  Board.switchToUpdate

/-- Make the checked image the active one. -/
def apply : SessionAction g Unit := do
  let phase ← look (·.phase)
  if phase ≠ .complete then
    refuse (.nothingToApply phase) .invalidState
  else
    log .applying
    -- `updating` counts as busy: leaving it gives the update slot back.
    enter .updating none
    match ← onBoard takeOver with
    | .error e =>
      log (.refused e)
      enter .failed (some (.ofBoot e))
      Action.fail (.ofBoot e)
    | .ok () =>
      change fun s => { s with restartRequired := true }
      enter .complete none
      log .applied

/-- Give up on the session. What was written stays in the flash. -/
def abort : SessionAction g Unit := do
  let phase ← look (·.phase)
  if phase.terminal then
    refuse (.nothingToAbort phase) .invalidState
  else
    log .aborted
    change fun s => { s with abortRequested := true }
    giveUp .communication

/-- The sum of two 32-bit numbers, held at the largest one. -/
def saturatingAdd (a b : UInt32) : UInt32 :=
  (min (a.toNat + b.toNat) (UInt32.size - 1)).toUInt32

/-- Account for some milliseconds without data, and fail once they are more than the session allows. -/
def poll (elapsed : UInt32) : SessionAction g Unit := do
  let phase ← look (·.phase)
  if !phase.busy then
    change fun s => { s with idle := 0 }
  else
    let idle := saturatingAdd (← look (·.idle)) elapsed
    change fun s => { s with idle }
    if (← look (·.config.timeout)) < idle then
      refuse (.noData idle phase) .timeout

/-- Forget the session. One that is in flight gives the update slot back, if the board is not in use
elsewhere at that moment. Otherwise nobody can change the board, and the slot stays locked. -/
def close (inUse : Bool) : SessionAction g Unit := do
  let phase ← look (·.phase)
  if phase.busy && !inUse then
    log (.dropped phase)
    release

end DualSlot.Link
