import DualSlot.Simulation.Options
import DualSlot.Text.Terminal

/-!
# The command line of the simulation

Options stand in any order, each at most once; all but `--corrupt` take a value, as the next argument or
behind `=`. Two dashes alone end the options, and nothing may stand behind them.

A value behind `=` is read at once. One that is an argument of its own is only held, and read when the
next option turns up or the arguments end. An argument that has no place decides the error even while
a wrong value is held.

* `CommandLine.parse` reads a command line.
* `UsageError.message` says what is wrong with one.
-/

namespace DualSlot

/-! ## Errors -/

/-- What is wrong with a command line. -/
inductive UsageError where
  | badValue (name : OptionName) (value reason : String)
  | noValue (name : OptionName)
  | surplusValue (name : OptionName) (value : String)
  | repeated (name : OptionName)
  | unexpected (argument : String)
  deriving DecidableEq, Repr

namespace UsageError

/-- The message for a terminal. Arguments stand out in it. -/
def message : UsageError → String
  | badValue name value reason =>
    s!"invalid value '{Text.emphasized value}' for '{name.usage}': {reason}"
  | noValue name => s!"a value is required for '{name.usage}' but none was supplied"
  | surplusValue name value =>
    s!"unexpected value '{Text.emphasized value}' for '{name.usage}' found; no more were expected"
  | repeated name => s!"the argument '{name.usage}' cannot be used multiple times"
  | unexpected argument => s!"unexpected argument '{Text.emphasized argument}' found"

/-- The message, and where to find help. -/
def advice (e : UsageError) : String :=
  let help := Text.emphasized "--help"
  s!"error: {e.message}\n\nFor more information, try '{help}'.\n"

end UsageError

namespace CommandLine

/-! ## Arguments -/

/-- An argument by its form. -/
inductive Argument where
  /-- Two dashes alone. -/
  | endOfOptions
  /-- An option, with the value behind its `=` if there is one. -/
  | option (flag : String) (value : Option String)
  /-- Letters behind a single dash. No option is written so. -/
  | letters (first : Char)
  /-- Anything else, and a lone dash. -/
  | plain (text : String)
  deriving DecidableEq, Repr

namespace Argument

/-- A text cut at its first `=`, if it has one. -/
def cut (text : List Char) : String × Option String :=
  match text.span (· != '=') with
  | (flag, '=' :: value) => (String.ofList flag, some (String.ofList value))
  | (flag, _) => (String.ofList flag, none)

/-- The form of an argument. -/
def ofText (text : String) : Argument :=
  match text.toList with
  | ['-', '-'] => endOfOptions
  | '-' :: '-' :: rest =>
    let (flag, value) := cut ('-' :: '-' :: rest)
    option flag value
  | '-' :: letter :: _ => letters letter
  | _ => plain text

end Argument

/-! ## Reading -/

/-- The option whose value is still to be read. -/
inductive Pending where
  | nothing
  /-- Its value should be the next argument. -/
  | awaiting (name : OptionName)
  /-- Its value is held. -/
  | holding (name : OptionName) (value : String)
  deriving DecidableEq, Repr

/-- What is known of a command line that is partly read. -/
structure Reading where
  options : Options := {}
  /-- The options that have their value. -/
  given : List OptionName := []
  pending : Pending := .nothing
  deriving DecidableEq, Repr

namespace Reading

/-- Give an option its value. It must be the first one. -/
def give (r : Reading) (name : OptionName) (value : String) : Except UsageError Reading :=
  if r.given.contains name then .error (.repeated name)
  else
    match r.options.set name value with
    | .error reason => .error (.badValue name value reason)
    | .ok options => .ok ⟨options, name :: r.given, .nothing⟩

/-- Give the pending option its value. -/
def settle (r : Reading) : Except UsageError Reading :=
  match r.pending with
  | .nothing => .ok r
  | .awaiting name => .error (.noValue name)
  | .holding name value => r.give name value

/-- Read an option, with the value behind its `=` if there is one. -/
def readOption (r : Reading) (name : OptionName) (value : Option String) :
    Except UsageError Reading :=
  match name, value with
  | .corrupt, some value => .error (.surplusValue .corrupt value)
  | .corrupt, none => do (← r.settle).give .corrupt ""
  | name, some value => do (← r.settle).give name value
  | name, none => do pure { ← r.settle with pending := .awaiting name }

/-- Read an argument that can only be a value. -/
def readPlain (r : Reading) (text : String) : Except UsageError Reading :=
  match r.pending with
  | .awaiting name => .ok { r with pending := .holding name text }
  | .nothing | .holding _ _ => .error (.unexpected text)

/-- The options, once the arguments have ended. -/
def finish (r : Reading) : Except UsageError Options := do pure (← r.settle).options

/-- Read on to the end of the arguments. -/
def readAll (r : Reading) : List String → Except UsageError Options
  | [] => r.finish
  | argument :: rest =>
    match Argument.ofText argument with
    | .endOfOptions =>
      match rest with
      | [] => r.finish
      | surplus :: _ => .error (.unexpected surplus)
    | .option flag value =>
      match OptionName.ofFlag? flag with
      | none => .error (.unexpected flag)
      | some name => do (← r.readOption name value).readAll rest
    | .letters first => .error (.unexpected (String.ofList ['-', first]))
    | .plain text => do (← r.readPlain text).readAll rest

end Reading

/-- Read a command line. -/
def parse (arguments : List String) : Except UsageError Options := Reading.readAll {} arguments

end CommandLine

end DualSlot
