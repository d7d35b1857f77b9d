import DualSlot.Update.Calls

/-!
# Calls as data

A run of the system is a list of calls. Each layer has its alphabet of calls, and `run` says what a call
does there and what it answers.
-/

namespace DualSlot

/-- What a successful call answers. -/
inductive Answer where
  | done
  | word (value : UInt32)
  | count (value : Nat)
  | bytes (value : List UInt8)
  | offer (value : UpdateOffer)
  | entry (value : AppEntry)
  | header (value : Header)
  | existed (value : Bool)
  deriving DecidableEq

/-! ## The flash -/

/-- A call on a flash. -/
inductive FlashCall where
  | erase (start stop : Nat)
  | erasePage (offset : Nat)
  | write (offset : Nat) (data : List UInt8)
  | writeWord (offset : Nat) (value : UInt32)
  | read (offset length : Nat)
  | readWord (offset : Nat)
  | checksum (offset length : Nat)
  | install (offset : Nat) (data : List UInt8)
  | corrupt (offset : Nat) (value : UInt8)
  | breakErase (broken : Bool)
  | planReads (plan : Option FaultPlan)
  | planWrites (plan : Option FaultPlan)

def FlashCall.run {g : Geometry} : FlashCall → FlashAction g Answer
  | erase start stop => (Flash.erase start stop).answering .done
  | erasePage offset => (Flash.erasePage offset).answering .done
  | write offset data => (Flash.write offset data).answering .done
  | writeWord offset value => (Flash.writeWord offset value).answering .done
  | read offset length => Answer.bytes <$> Flash.read offset length
  | readWord offset => Answer.word <$> Flash.readWord offset
  | checksum offset length => Answer.word <$> Flash.checksum offset length
  | install offset data => (Flash.install offset data).answering .done
  | corrupt offset value => (Flash.corrupt offset value).answering .done
  | breakErase broken => (Flash.breakErase broken).answering .done
  | planReads plan => (Flash.planReads plan).answering .done
  | planWrites plan => (Flash.planWrites plan).answering .done

/-! ## The boot loader -/

/-- A call on a boot loader. -/
inductive BootCall where
  | checkUpdate
  | switchToUpdate
  | rollback
  | jump (slot : Nat)
  | boot
  | validate (slot : Nat)
  | readHeader (slot : Nat)
  | payloadCrc (slot : Nat) (header : Header)
  | eraseUpdateSlot (length : Nat)
  | programUpdateSlot (offset : Nat) (data : List UInt8)
  | lockUpdateSlot
  | unlockUpdateSlot
  /-- A power cycle. -/
  | restart (layout : Layout)

def BootCall.run {g : Geometry} : BootCall → BoardAction g Answer
  | checkUpdate => Answer.offer <$> Board.checkUpdate
  | switchToUpdate => (Board.switchToUpdate).answering .done
  | rollback => (Board.rollback).answering .done
  | jump slot => Answer.entry <$> Board.jump slot
  | boot => Answer.entry <$> Board.boot
  | validate slot => Answer.header <$> Board.validate slot
  | readHeader slot => Answer.header <$> Board.readHeader slot
  | payloadCrc slot header => Answer.word <$> Board.payloadCrc slot header
  | eraseUpdateSlot length => (Board.eraseUpdateSlot length).answering .done
  | programUpdateSlot offset data => (Board.programUpdateSlot offset data).answering .done
  | lockUpdateSlot => (Board.lockUpdateSlot).answering .done
  | unlockUpdateSlot => (Board.unlockUpdateSlot).answering .done
  | restart layout => (Board.restart layout).answering .done

/-! ## Sessions -/

/-- A call on a session. -/
inductive SessionCall where
  | start (total chunk : UInt32)
  | receive (number : UInt32) (data : List UInt8)
  | transmit (total chunk : UInt32) (data : List UInt8) (limit : Option Nat)
  | finalize
  | validate
  | abort
  | apply
  | poll (elapsed : UInt32)

def SessionCall.run {g : Geometry} : SessionCall → SessionAction g Answer
  | start total chunk => (Link.start total chunk).answering .done
  | receive number data => (Link.receive number data).answering .done
  | transmit total chunk data limit => Answer.count <$> Link.transmit total chunk data limit
  | finalize => (Link.finalize).answering .done
  | validate => (Link.validate).answering .done
  | abort => (Link.abort).answering .done
  | apply => (Link.apply).answering .done
  | poll elapsed => (Link.poll elapsed).answering .done

end DualSlot
