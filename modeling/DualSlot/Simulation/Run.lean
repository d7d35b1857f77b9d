import DualSlot.Firmware.Image
import DualSlot.Flash.Dump
import DualSlot.Simulation.Transcript
import DualSlot.Update.Calls

/-!
# A simulated update from end to end

A standard flash gets a factory image in slot A. A generated update is sent through a session, applied,
and booted.

* `setUp` makes the board, `update` talks to the session, and `bootEntries` boots.
* `run` is the whole, with payloads from any source, and `reportOf` answers a command line.
-/

namespace DualSlot.Simulation

/-! ## Images -/

/-- The device of the simulation. -/
abbrev device : Geometry := .standard

/-- The slots of the simulation. -/
abbrev slots : Layout := .standard

/-- The factory image. -/
def factorySpec : ImageSpec where
  seed := 1
  version := ⟨1, 0, 0⟩
  entryPoint := Layout.mapped slots.slotA

/-- The update image that the options ask for. -/
def updateSpec (o : Options) : ImageSpec where
  size := o.size.toNat
  seed := o.seed
  version := o.version
  entryPoint := Layout.mapped slots.slotB

/-- The bytes with the lowest bit of the last one flipped. -/
def flipLast (bytes : List UInt8) : List UInt8 :=
  bytes.modify (bytes.length - 1) (· ^^^ 1)

/-- The bytes that are sent. -/
def sent (o : Options) (image : Image) : List UInt8 :=
  if o.corrupt then flipLast image.bytes else image.bytes

/-! ## The run -/

/-- Install the factory image and switch the board on. -/
def setUp (factory : Image) : Action BoardEvent (Flash device) String (Loader device) := do
  (Flash.install slots.slotA factory.bytes).relabel .flash fun e =>
    s!"factory image: {e.message}"
  (Board.powerOn slots).relabel id BootError.message

/-- The session of the simulation, connected to its board. It accepts every image. -/
def connect (board : Board device) : Link device where
  session := .fresh {} fun _ => true
  board

/-- Send an image through the session and apply it. -/
def update (image : List UInt8) (chunkSize : UInt32) : SessionAction device Unit := do
  let _ ← Link.transmit image.length.toUInt32 chunkSize image none
  Link.finalize
  Link.apply

/-- The texts that sum up a session and its board. -/
def summary (link : Link device) : List Entry :=
  [.text link.session.status.text,
    .text link.session.statistics.text,
    .text link.board.loader.status.text]

/-- The report on where the board booted. -/
def bootedText (board : Board device) (entry : AppEntry) : String :=
  s!"Booted {board.loader.label} from {Text.word (Layout.mapped entry.slot)}: "
    ++ s!"SP={Text.word entry.stackPointer} PC={Text.word entry.programCounter}"

/-- Boot the board and show the header of the image that runs. -/
def bootEntries (board : Board device) : List Entry × Option String :=
  match Board.boot board with
  | ⟨.error e, _, events⟩ => (events.map boardEntry, some e.message)
  | ⟨.ok entry, board, events⟩ =>
    let booted := events.map boardEntry ++ [.text (bootedText board entry)]
    match board.flash.dump entry.slot Header.length with
    | .error e => (booted, some s!"dump: {e.message}")
    | .ok dump =>
      -- Every line of a dump ends by itself, so the last end is not printed again.
      (booted ++ [.text (String.ofList dump.lines.flatten.dropLast)], none)

/-- The part of the run behind the update: the summary, and the boot if all went well. -/
def finish (outcome : Outcome SessionEvent (Link device) UpdateError Unit) :
    List Entry × Option String :=
  let link := outcome.state
  match outcome.result with
  | .error e =>
    let active := Text.word (Layout.mapped link.board.loader.activeSlot)
    let closing := (Link.close false link).events
    (summary link
        ++ [remark .error s!"Update failed: {e.message}",
          remark .info s!"Active slot unchanged at {active}"]
        ++ showEvents closing,
      some s!"update failed: {e.message}")
  | .ok () =>
    let restarting :=
      if link.session.restartRequired then [remark .info "Restarting into the new image"]
      else []
    let (booted, failure) := bootEntries link.board
    (restarting ++ summary link ++ booted, failure)

/-- The whole run, with payloads from a source of bytes. -/
def run (source : ByteSource) (o : Options) : Transcript :=
  match factorySpec.build source, (updateSpec o).build source with
  | .error e, _ | _, .error e => ⟨[], some e.message⟩
  | .ok factory, .ok image =>
    match setUp factory (Flash.erased device) with
    | ⟨.error message, _, events⟩ => ⟨events.map boardEntry, some message⟩
    | ⟨.ok loader, flash, events⟩ =>
      let link := connect ⟨flash, loader⟩
      let opening := Session.opening link.session.config
      let outcome := update (sent o image) o.chunkSize link
      let (ending, failure) := finish outcome
      ⟨events.map boardEntry
          ++ [.text ("Factory image:\n" ++ factory.header.text)]
          ++ showEvents (opening :: outcome.events)
          ++ ending,
        failure⟩

/-- Read a command line and run the simulation with random payloads. -/
def reportOf (arguments : List String) : Report :=
  match CommandLine.parse arguments with
  | .error e => refusal e
  | .ok o => (run Random.source o).report o.verbosity

end DualSlot.Simulation
