import DualSlot.Boot.Status
import DualSlot.Flash.Message

/-!
# What the boot loader reports
-/

namespace DualSlot

/-- A report of the boot loader. -/
inductive BootMessage where
  | initialized
  | activeSlot (offset : Nat)
  | updateSlot (offset : Nat)
  | invalidMagic (slot : Nat) (magic : UInt32)
  | badSize (slot : Nat) (size : UInt32)
  | crcMismatch (slot : Nat) (calculated stored : UInt32)
  | valid (slot : Nat) (header : Header)
  | notChecking
  | checking
  | noValidUpdate (cause : BootError)
  | updateAvailable (current update : Version)
  | noNewerUpdate (current update : Version)
  | noUpdatePending
  | switching
  | updateInvalid (cause : BootError)
  | switched (slot : Nat) (header : Header)
  | rollingBack
  | rollbackInvalid (cause : BootError)
  | rolledBack (slot : Nat) (header : Header)
  | invalidAddress (slot : Nat)
  | jumping (slot : Nat)
  | settingStack (word : UInt32)
  | settingCounter (word : UInt32)
  | staying (cause : BootError)
  | noUpdateTaken (cause : BootError)
  | slotANotBootable (cause : BootError)
  | activeNotBootable (cause : BootError)
  | erasing (start stop : Nat)
  | writeFailed (offset : Nat) (cause : FlashError)
  deriving DecidableEq

namespace BootMessage

open Text

/-- The address of an offset as the memory map shows it. -/
def place (offset : Nat) : String := word (Layout.mapped offset)

def level : BootMessage → LogLevel
  | initialized | activeSlot _ | updateSlot _ | checking | noValidUpdate _ | updateAvailable ..
  | noNewerUpdate .. | switching | switched .. | rollingBack | rolledBack .. | jumping _
  | settingStack _ | settingCounter _ | erasing .. => .info
  | invalidMagic .. | badSize .. | crcMismatch .. | notChecking | noUpdatePending | staying _
  | activeNotBootable _ => .warn
  | updateInvalid _ | rollbackInvalid _ | invalidAddress _ | slotANotBootable _
  | writeFailed .. => .error
  | valid .. | noUpdateTaken _ => .debug

/-- What a message says, behind the name of the boot loader. -/
def body : BootMessage → String
  | initialized => "Initialized"
  | activeSlot offset => s!"Active slot: {place offset}"
  | updateSlot offset => s!"Update slot: {place offset}"
  | invalidMagic slot magic =>
    s!"Invalid magic at {hex slot}: {word magic} (expected: {word firmwareMagic})"
  | badSize slot size => s!"Invalid size at {hex slot}: {size}"
  | crcMismatch slot calculated stored =>
    s!"CRC mismatch at {hex slot}: calculated={word calculated}, stored={word stored}"
  | valid slot header =>
    s!"Firmware at {hex slot} is valid: v{header.version} ({header.versionText}), "
      ++ s!"{header.size} bytes, crc {word header.crc32}, entry {word header.entryPoint}"
  | notChecking => "Update slot is being written, not checking"
  | checking => "Checking for updates..."
  | noValidUpdate cause => s!"No valid update found: {cause.message}"
  | updateAvailable current update => s!"Update available: v{current} -> v{update}"
  | noNewerUpdate current update =>
    s!"No newer update available (v{current} installed, v{update} offered)"
  | noUpdatePending => "No update pending"
  | switching => "Switching to update..."
  | updateInvalid cause => s!"Update validation failed: {cause.message}"
  | switched slot header =>
    s!"Switched to update, active slot {place slot}, version {header.versionText}"
  | rollingBack => "Rolling back to slot A..."
  | rollbackInvalid cause => s!"Rollback validation failed: {cause.message}"
  | rolledBack slot header =>
    s!"Rollback successful, active slot {place slot}, version {header.versionText}"
  | invalidAddress slot => s!"Invalid application address {hex slot}"
  | jumping slot => s!"Jumping to application at {place slot}"
  | settingStack value => s!"Setting SP = {word value}"
  | settingCounter value => s!"Setting PC = {word value}"
  | staying cause => s!"Staying on the current image: {cause.message}"
  | noUpdateTaken cause => s!"No update taken: {cause.message}"
  | slotANotBootable cause => s!"Slot A is not bootable: {cause.message}"
  | activeNotBootable cause =>
    s!"Active image is not bootable ({cause.message}), rolling back"
  | erasing start stop => s!"Erasing update area {hex start}..{hex stop}"
  | writeFailed offset cause => s!"Failed to write flash at {hex offset}: {cause.message}"

def record (m : BootMessage) : LogRecord := ⟨m.level, "[BOOTLOADER] " ++ m.body⟩

end BootMessage

/-- What a board reports: its flash and its boot loader in turn. -/
inductive BoardEvent where
  | flash (message : FlashMessage)
  | loader (message : BootMessage)
  deriving DecidableEq

end DualSlot
