import DualSlot.Simulation.CommandLine
import DualSlot.Update.Message

/-!
# Transcripts

A simulation leaves a transcript: printed text and log records in order. On the screen a record is one
line, with its level in five columns and the name of its source in brackets, and a verbosity decides
which records are shown.

* `Transcript.report` is what the user sees of a transcript.
* `showEvents` turns the events of a session into entries. It is the console as the application of the
  session: it remarks on every change of phase, and on progress once for each quarter.
-/

namespace DualSlot.Simulation

/-! ## Entries -/

/-- One entry of a transcript: text for the console, or a log record with the name of its source. -/
inductive Entry where
  | text (text : String)
  | log (source : String) (record : LogRecord)
  deriving DecidableEq, Repr

/-- How a run ended, and all that it said. -/
structure Transcript where
  entries : List Entry
  /-- The error that ended the run, if any. -/
  failure : Option String
  deriving DecidableEq, Repr

/-- A log record of the simulation itself. -/
def remark (level : LogLevel) (text : String) : Entry := .log "otasim" ⟨level, text⟩

/-- What the board reports, as log records. -/
def boardEntry : BoardEvent → Entry
  | .flash message => .log "simflash" message.record
  | .loader message => .log "boot::bootloader" message.record

/-! ## Sessions on the console -/

/-- The remark on a change of phase. -/
def statusRemark (phase : Phase) : Option UpdateError → Entry
  | none => remark .info s!"OTA state: {phase.name}"
  | some cause => remark .warn s!"OTA state: {phase.name} ({cause.message})"

/-- Show the events of a session. Progress is shown when it enters another quarter than the last one
shown, which is given. Entries so far come latest first. -/
def showFrom : (quarter : Option UInt8) → (sofar : List Entry) → List SessionEvent → List Entry
  | _, sofar, [] => sofar.reverse
  | quarter, sofar, .board event :: rest => showFrom quarter (boardEntry event :: sofar) rest
  | quarter, sofar, .log message :: rest =>
    showFrom quarter (.log "ota::manager" message.record :: sofar) rest
  | quarter, sofar, .notice (.status phase cause) _ :: rest =>
    showFrom quarter (statusRemark phase cause :: sofar) rest
  | quarter, sofar, .notice (.validate _) _ :: rest => showFrom quarter sofar rest
  | quarter, sofar, .notice (.progress percent) _ :: rest =>
    if quarter = some (percent / 25) then showFrom quarter sofar rest
    else
      showFrom (some (percent / 25)) (remark .info s!"Progress: {percent}%" :: sofar) rest

/-- Show the events of a session from its start. -/
def showEvents (events : List SessionEvent) : List Entry := showFrom none [] events

/-! ## What the user sees -/

/-- What a command leaves behind: its exit code, the lines of its output, and its error line. -/
structure Report where
  exitCode : Nat
  output : List String
  error : String
  deriving DecidableEq, Repr

/-- The first line of a text. Its end is a line feed, or a carriage return and a line feed. -/
def firstLine : List Char → List Char
  | [] | '\n' :: _ | '\r' :: '\n' :: _ => []
  | c :: rest => c :: firstLine rest

/-- What the user sees of a wrong command line. Its error stream is no terminal. -/
def refusal (e : UsageError) : Report where
  exitCode := 2
  output := []
  error := String.ofList (firstLine (Text.plain e.advice).toList)

/-- A log record as a line of output. -/
def recordLine (source : String) (record : LogRecord) : String :=
  let level := String.ofList (record.level.name.toList.rightpad 5 ' ')
  s!"{level} [{source}] {record.text}"

/-- The lines of output of an entry. -/
def entryLines (v : Verbosity) : Entry → List String
  | .text text => text.splitOn "\n"
  | .log source record =>
    if v.shows record.level then [recordLine source record] else []

/-- What the user sees of a transcript at some verbosity. -/
def Transcript.report (t : Transcript) (v : Verbosity) : Report where
  exitCode := if t.failure.isSome then 1 else 0
  output := t.entries.flatMap (entryLines v)
  error :=
    match t.failure with
    | some message => s!"Error: {message}"
    | none => ""

end DualSlot.Simulation
