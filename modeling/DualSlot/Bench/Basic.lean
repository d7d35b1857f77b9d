import DualSlot.Bench.Call

/-!
# A bench: several sessions over one board

Any number of applications may open a session over the same board and call it in any order, next to
direct calls on the boot loader and on the flash. `Bench.step` does one call of such a run.
-/

namespace DualSlot

/-- An application's session. -/
structure Client where
  session : Session
  /-- Does the application listen to the notices of its session? -/
  listens : Bool
  /-- Does the application turn every image down? Only one that listens is asked. -/
  rejects : Bool

namespace Client

/-- An application that opens a session. -/
def opened (config : SessionConfig) (listens rejects : Bool) : Client where
  session := .fresh config fun _ => !(listens && rejects)
  listens
  rejects

/-- The same application with another verdict on images. -/
def withVerdict (client : Client) (rejects : Bool) : Client :=
  { client with
    session := { client.session with accepts := fun _ => !(client.listens && rejects) }
    rejects }

/-- Does the application, or the log, hear of an event? -/
def hears (client : Client) : SessionEvent → Bool
  | .notice .. => client.listens
  | _ => true

end Client

/-- A board and the sessions over it, by name. -/
structure Bench (g : Geometry) where
  board : Board g
  clients : List (String × Client)

/-- What can go wrong on a bench: an error of one of the layers. -/
inductive BenchError where
  | flash (cause : FlashError)
  | boot (cause : BootError)
  | update (cause : UpdateError)
  /-- No session has the name. -/
  | noSession (name : String)
  deriving DecidableEq, Repr

/-- What a bench reports. -/
inductive BenchEvent where
  | session (event : SessionEvent)
  /-- The verdict of an application was replaced; it is given as it was before. -/
  | verdict (rejects : Bool)
  deriving DecidableEq

/-- A call on a bench. -/
inductive BenchCall where
  | flash (call : FlashCall)
  | boot (call : BootCall)
  | session (name : String) (call : SessionCall)
  /-- Open a session, closing first one of the same name. -/
  | openSession (name : String) (config : SessionConfig) (listens rejects : Bool)
  /-- Close a session, at a moment at which the board may be in use elsewhere. -/
  | closeSession (name : String) (inUse : Bool := false)
  /-- Change an application's verdict on images. -/
  | setVerdict (name : String) (rejects : Bool)

/-- A step on a bench. -/
abbrev BenchAction (g : Geometry) (α : Type) : Type := Action BenchEvent (Bench g) BenchError α

namespace Bench

variable {g : Geometry} {α : Type}

/-- A board without sessions. -/
def ofBoard (board : Board g) : Bench g := ⟨board, []⟩

/-- The session of a name. -/
def client? (bench : Bench g) (name : String) : Option Client := bench.clients.lookup name

/-- The sessions without the one of a name. -/
def without (name : String) (clients : List (String × Client)) : List (String × Client) :=
  clients.filter fun entry => entry.1 != name

/-- The bench with a session under a name. -/
def put (bench : Bench g) (name : String) (client : Client) : Bench g :=
  match bench with
  | ⟨board, clients⟩ => ⟨board, (name, client) :: without name clients⟩

/-- The bench without the session of a name. -/
def remove (bench : Bench g) (name : String) : Bench g :=
  match bench with
  | ⟨board, clients⟩ => ⟨board, without name clients⟩

/-- Run a call on the board. -/
def onBoard {ε : Type} (wrap : ε → BenchError) (x : Action BoardEvent (Board g) ε α) :
    BenchAction g α := fun bench =>
  match bench with
  | ⟨board, clients⟩ =>
    match x board with
    | ⟨r, board', events⟩ =>
      ⟨r.mapError wrap, ⟨board', clients⟩, events.map fun e => .session (.board e)⟩

/-- Run a call on the session of a name. -/
def onSession (name : String) (x : SessionAction g α) : BenchAction g α := fun bench =>
  match bench.client? name with
  | none => ⟨.error (.noSession name), bench, []⟩
  | some client =>
    match bench with
    | ⟨board, clients⟩ =>
      match x ⟨client.session, board⟩ with
      | ⟨r, ⟨session, board'⟩, events⟩ =>
        ⟨r.mapError .update,
          ⟨board', (name, { client with session }) :: without name clients⟩,
          (events.filter client.hears).map .session⟩

/-- Close the session of a name and answer whether there was one. -/
def closeSession (name : String) (inUse : Bool) : BenchAction g Bool := do
  if (← Action.look (·.client? name)).isSome then
    onSession name (Link.close inUse)
    Action.change (·.remove name)
    pure true
  else pure false

/-- Open a session. -/
def openSession (name : String) (config : SessionConfig) (listens rejects : Bool) :
    BenchAction g Unit := do
  let _ ← closeSession name false
  Action.say (.session (Session.opening config))
  Action.change (·.put name (.opened config listens rejects))

/-- Change an application's verdict on images. One that does not listen has none to change. -/
def setVerdict (name : String) (rejects : Bool) : BenchAction g Unit := do
  match ← Action.look (·.client? name) with
  | none => Action.fail (.noSession name)
  | some client =>
    if client.listens then
      Action.say (.verdict client.rejects)
      Action.change (·.put name (client.withVerdict rejects))

/-- One call. -/
def step : BenchCall → BenchAction g Answer
  | .flash call => onBoard .flash (Board.onFlash id call.run)
  | .boot call => onBoard .boot call.run
  | .session name call => onSession name call.run
  | .openSession name config listens rejects =>
    (openSession name config listens rejects).answering .done
  | .closeSession name inUse => Answer.existed <$> closeSession name inUse
  | .setVerdict name rejects => (setVerdict name rejects).answering .done

/-- The bench after a run of calls, whatever they answer. -/
def steps (bench : Bench g) (calls : List BenchCall) : Bench g :=
  calls.foldl (fun bench call => (step call bench).state) bench

end Bench

end DualSlot
