/-!
# The phases of an update session

```text
idle -> waitingForStart -> receivingData -> validating -> complete
complete -> updating -> complete
any busy phase -> failed
complete, failed -> idle
```

`complete` and `failed` end a session; the next one starts from `idle`.
-/

namespace DualSlot

/-- The phase of an update session. -/
inductive Phase where
  | idle
  | waitingForStart
  | receivingData
  | validating
  | updating
  | complete
  | failed
  deriving DecidableEq, Repr

namespace Phase

def name : Phase → String
  | idle => "IDLE"
  | waitingForStart => "WAITING_FOR_START"
  | receivingData => "RECEIVING_DATA"
  | validating => "VALIDATING"
  | updating => "UPDATING"
  | complete => "COMPLETE"
  | failed => "ERROR"

/-- May a session go from one phase to another? -/
def allows : Phase → Phase → Bool
  | idle, waitingForStart | idle, failed
  | waitingForStart, receivingData | waitingForStart, failed
  | receivingData, validating | receivingData, failed
  | validating, complete | validating, failed
  | complete, updating | complete, idle
  | updating, complete | updating, failed
  | failed, idle => true
  | _, _ => false

/-- The session is over, successfully or not. -/
def terminal : Phase → Bool
  | complete | failed => true
  | _ => false

/-- A session is in flight. -/
def busy : Phase → Bool
  | waitingForStart | receivingData | validating | updating => true
  | _ => false

/-- Data may arrive. -/
def receiving : Phase → Bool
  | waitingForStart | receivingData => true
  | _ => false

end Phase

end DualSlot
