import DualSlot.Flash.Error

/-!
# Planned faults

A test bench can make accesses fail. A plan says of every coming call whether it goes through, and
keeps count of the calls made so far.
-/

namespace DualSlot

/-- The verdict on every call of one kind, numbered from zero since the plan was made. -/
structure FaultPlan where
  verdict : Nat → Option FlashError
  calls : Nat := 0

namespace FaultPlan

/-- The verdict on the next call. -/
def now (plan : FaultPlan) : Option FlashError := plan.verdict plan.calls

/-- The plan after one more call. -/
def next (plan : FaultPlan) : FaultPlan := { plan with calls := plan.calls + 1 }

/-- Let `skip` calls through, then fail `times` calls, or all that follow when no number is given. -/
def window (error : FlashError) (skip : Nat) (times : Option Nat) : FaultPlan where
  verdict := fun call =>
    if call < skip then none
    else
      match times with
      | none => some error
      | some count => if call < skip + count then some error else none

end FaultPlan

end DualSlot
