-- Text without its control characters and control sequences, for messages that
-- quote what a user has typed. Tabs, line ends and form feeds stay. A sequence
-- begins with the escape character and ends as its kind tells; what stands within
-- it is left out, in any alphabet.
import ChatShell.Text.Utf8

namespace ChatShell.Text

/-- Where a text is within a control sequence. -/
inductive Control where
  /-- In no sequence. -/
  | none
  /-- After the escape character. -/
  | escape
  /-- In a sequence of the short kind, which one character ends. -/
  | short
  /-- In a sequence with parameters, which a letter or a like character ends. -/
  | parameters
  /-- In a command to the terminal's system, which the bell ends. -/
  | system
  /-- At the start of a command to the device. -/
  | device
  /-- In the parameters of a command to the device. -/
  | deviceParameters
  /-- In the middle of the name of a command to the device. -/
  | deviceName
  /-- In a string that an escape, a cancel or the byte `9C` ends. -/
  | string
  deriving DecidableEq

/-- The control character stays in the text. -/
def staysInText (n : Nat) : Bool := n == 0x9 || n == 0xA || n == 0xC || n == 0xD

/-- The kind of sequence that begins with the escape character and a printable character. -/
def Control.opened (n : Nat) : Control :=
  if n < 0x30 then .short
  else if n = 0x5B then .parameters
  else if n = 0x5D then .system
  else if n = 0x50 then .device
  else if n = 0x58 ∨ n = 0x5E ∨ n = 0x5F then .string
  else .none

/-- The state after a printable ASCII character in a sequence. -/
def Control.advance (state : Control) (n : Nat) : Control :=
  match state with
  | .none => .none
  | .escape => .opened n
  | .short => if n < 0x30 then .short else .none
  | .parameters => if n < 0x40 then .parameters else .none
  | .system => .system
  | .device =>
    if n < 0x30 then .deviceName else if n < 0x40 then .deviceParameters else .string
  | .deviceParameters =>
    if n < 0x30 then .deviceName else if n < 0x3C then .deviceParameters else .string
  | .deviceName => if n < 0x30 then .deviceName else .string
  | .string => .string

/-- The state after a control character that is neither escape nor cancel, and whether it
stays. Those that stay also end a sequence of the plainer kinds. -/
def Control.pass (state : Control) (n : Nat) : Control × Bool :=
  match state with
  | .none => (.none, staysInText n)
  | .escape | .short | .parameters => if staysInText n then (.none, true) else (state, false)
  | .system => (if n = 0x7 then .none else .system, false)
  | .device | .deviceParameters | .deviceName | .string => (state, false)

/-- The state after any character, and whether it stays. -/
def Control.step (state : Control) (c : Char) : Control × Bool :=
  let n := c.toNat
  if n = 0x18 ∨ n = 0x1A then (.none, false)
  else if n = 0x1B then (.escape, false)
  else if n < 0x20 then state.pass n
  else if n = 0x7F then (state, false)
  else if n < 0x7F then (state.advance n, state = .none)
  else if state = .string ∧ (encodeChar c).contains 0x9C then (.none, false)
  else (state, state = .none)

/-- The characters of a text, with nothing for each one that is left out, and the state at the
end. -/
def sift (state : Control) : List Char → List (Option Char) × Control
  | [] => ([], state)
  | c :: cs =>
    let (next, stays) := state.step c
    let (rest, last) := sift next cs
    ((if stays then some c else none) :: rest, last)

/-- The text without control characters and control sequences. -/
def withoutControls (s : String) : String :=
  String.ofList ((sift .none s.toList).1.filterMap id)

end ChatShell.Text
