/-!
# Text for a terminal

Text for a terminal may hold control sequences, which make a part of it stand out or give other orders.
They begin with the escape character, and their first characters say how they go on. Written anywhere
else, a text is stripped of them and of every other control character that is no white space.

* `emphasized` makes a text stand out.
* `plain` strips a text. A sequence that never ends hides what follows it.
-/

namespace DualSlot.Text

/-! ## Sequences -/

/-- Where in a control sequence the next character stands. -/
inductive TerminalMode where
  /-- In no sequence. -/
  | ground
  /-- Behind an escape character. -/
  | escape
  /-- In a short sequence that has begun. -/
  | escapeMore
  /-- In a sequence with numbers, such as the one for bold text. -/
  | control
  /-- At the start of the head of a string to a device. -/
  | deviceEntry
  /-- Among the numbers of such a head. -/
  | deviceNumbers
  /-- Behind the numbers of such a head. -/
  | deviceMore
  /-- In a string to a device. -/
  | data
  /-- In a command to the terminal, such as the one for a window title. -/
  | command
  deriving DecidableEq, Repr

namespace TerminalMode

/-- Is a character a control character that counts as white space? -/
def isBreak (c : Char) : Bool := c == '\t' || c == '\n' || c == '\x0c' || c == '\r'

/-- Does a character show? White space also shows in the sequences that are no strings. -/
def shows (mode : TerminalMode) (c : Char) : Bool :=
  match mode with
  | ground => isBreak c || (' ' ≤ c && c != '\x7f')
  | escape | escapeMore | control => isBreak c
  | deviceEntry | deviceNumbers | deviceMore | data | command => false

/-- May a character stand in the middle of a short sequence? -/
def isMiddle (c : Char) : Bool := ' ' ≤ c && c ≤ '/'

/-- Does a character end a string to a device? One whose UTF-8 form holds the byte 0x9c does. -/
def endsData (c : Char) : Bool :=
  0x80 ≤ c.val && (String.utf8EncodeChar c).contains 0x9c

/-- The mode behind a character. -/
def next (mode : TerminalMode) (c : Char) : TerminalMode :=
  if c = '\x1b' then escape
  else if c = '\x18' ∨ c = '\x1a' then ground
  else
    match mode with
    | ground => ground
    | escape =>
      match c with
      | '[' => control
      | ']' => command
      | 'P' => deviceEntry
      | 'X' | '^' | '_' => data
      | _ =>
        if isMiddle c then escapeMore
        else if '0' ≤ c ∧ c ≤ '~' then ground
        else escape
    | escapeMore => if '0' ≤ c ∧ c ≤ '~' then ground else escapeMore
    | control => if '@' ≤ c ∧ c ≤ '~' then ground else control
    | deviceEntry =>
      if isMiddle c then deviceMore
      else if '0' ≤ c ∧ c ≤ '?' then deviceNumbers
      else if '@' ≤ c ∧ c ≤ '~' then data
      else deviceEntry
    | deviceNumbers =>
      if isMiddle c then deviceMore
      else if '<' ≤ c ∧ c ≤ '~' then data
      else deviceNumbers
    | deviceMore => if '0' ≤ c ∧ c ≤ '~' then data else deviceMore
    | data => if endsData c then ground else data
    | command => if c = '\x07' then ground else command

end TerminalMode

/-! ## Texts -/

/-- A text made to stand out on a terminal. -/
def emphasized (text : String) : String := "\x1b[1m" ++ text ++ "\x1b[0m"

/-- The characters that show, from some mode on. Right behind one that shows, the next one shows if it
does so outside of sequences, even where white space has interrupted one. -/
def plainFrom (mode : TerminalMode) (showing : Bool) : List Char → List Char
  | [] => []
  | c :: rest =>
    if (if showing then TerminalMode.ground else mode).shows c then
      -- A character beyond ASCII ends the sequence that was interrupted.
      c :: plainFrom (if c.val < 0x80 then mode else .ground) true rest
    else plainFrom (mode.next c) false rest

/-- A text stripped of control sequences. -/
def plain (text : String) : String := String.ofList (plainFrom .ground false text.toList)

end DualSlot.Text
