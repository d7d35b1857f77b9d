import DualSlot.Firmware.Version
import DualSlot.Log
import DualSlot.Text.Numeral

/-!
# Settings of the simulation

* `Verbosity` says which log records are shown.
* `Options` holds the settings, and `OptionName` names them.
* `Options.set` reads the value of one of them.
-/

namespace DualSlot

/-! ## Verbosity -/

/-- Which log records are shown. -/
inductive Verbosity where
  | off
  | error
  | warn
  | info
  | debug
  | trace
  deriving DecidableEq, Repr

namespace Verbosity

/-- How many levels are shown. -/
def rank : Verbosity → Nat
  | off => 0
  | error => 1
  | warn => 2
  | info => 3
  | debug => 4
  | trace => 5

/-- Is a level shown? -/
def shows (v : Verbosity) (level : LogLevel) : Bool := level.rank ≤ v.rank

/-- Read a verbosity, in letters of either case. -/
def parse (text : String) : Option Verbosity :=
  match text.toLower with
  | "off" => some off
  | "error" => some error
  | "warn" => some warn
  | "info" => some info
  | "debug" => some debug
  | "trace" => some trace
  | _ => none

end Verbosity

/-! ## Options -/

/-- The settings of a simulation. -/
structure Options where
  /-- The number of bytes in a chunk. -/
  chunkSize : UInt32 := 1024
  /-- The size of the update image. -/
  size : UInt64 := 4096
  /-- The seed of the update's payload. -/
  seed : UInt64 := 2
  version : Version := ⟨1, 1, 0⟩
  /-- Flip a bit of the last chunk. -/
  corrupt : Bool := false
  verbosity : Verbosity := .info
  deriving DecidableEq, Repr

/-- The name of an option. -/
inductive OptionName where
  | chunkSize
  | size
  | seed
  | version
  | corrupt
  | logLevel
  deriving DecidableEq, Repr

namespace OptionName

/-- The option as it is typed. -/
def flag : OptionName → String
  | chunkSize => "--chunk-size"
  | size => "--size"
  | seed => "--seed"
  | version => "--version"
  | corrupt => "--corrupt"
  | logLevel => "--log-level"

/-- The option with the name of its value. -/
def usage : OptionName → String
  | chunkSize => "--chunk-size <CHUNK_SIZE>"
  | size => "--size <SIZE>"
  | seed => "--seed <SEED>"
  | version => "--version <VERSION>"
  | corrupt => "--corrupt"
  | logLevel => "--log-level <LOG_LEVEL>"

def all : List OptionName := [chunkSize, size, seed, version, corrupt, logLevel]

/-- The option that is typed so. -/
def ofFlag? (text : String) : Option OptionName := all.find? fun name => name.flag == text

end OptionName

namespace Options

/-! ## Values -/

/-- Read a chunk size. It is read as a signed 64-bit number first, and then held to 32 bits. -/
def readChunkSize (value : String) : Except String UInt32 :=
  match Text.readInt (Int64.size / 2) (Int64.size / 2 - 1) value.toList with
  | .error e => .error e.message
  | .ok n =>
    if 0 ≤ n ∧ n < UInt32.size then .ok n.toNat.toUInt32
    else .error s!"{n} is not in 0..=4294967295"

/-- Read a 64-bit number. -/
def readLong (value : String) : Except String UInt64 :=
  (Text.readLong value.toList).mapError Text.NumeralError.message

/-- Read a version. -/
def readVersion (value : String) : Except String Version :=
  (Version.parse value.toList).mapError Version.ParseError.message

/-- Read a verbosity. -/
def readVerbosity (value : String) : Except String Verbosity :=
  match Verbosity.parse value with
  | some v => .ok v
  | none => .error s!"unknown log level {value}"

/-- The options with one of them set to a value, or the reason why that is none of its values. The
switch `--corrupt` has no value: it is turned on. -/
def set (o : Options) (name : OptionName) (value : String) : Except String Options :=
  match name with
  | .chunkSize => (readChunkSize value).map fun chunkSize => { o with chunkSize }
  | .size => (readLong value).map fun size => { o with size }
  | .seed => (readLong value).map fun seed => { o with seed }
  | .version => (readVersion value).map fun version => { o with version }
  | .logLevel => (readVerbosity value).map fun verbosity => { o with verbosity }
  | .corrupt => .ok { o with corrupt := true }

end Options

end DualSlot
