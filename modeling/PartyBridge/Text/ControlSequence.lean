import PartyBridge.Text.Utf8

/-!
# Text without control sequences

A terminal takes some bytes as commands: single controls, and sequences that an escape introduces.
`withoutControls` leaves only what the terminal would show, and the blanks among the controls.
-/

namespace PartyBridge.Text

/-- Where in a control sequence a byte stands. A command has parameters and intermediate bytes; an
`ignored` one is malformed. Device strings, system commands and other strings run until they are closed. -/
inductive ControlState where
  | ground
  | escape
  | escapeIntermediate
  | command
  | commandParameter
  | commandIntermediate
  | commandIgnored
  | device
  | deviceParameter
  | deviceIntermediate
  | deviceIgnored
  | deviceData
  | system
  | string
deriving Repr, DecidableEq

namespace ControlState

/-- Whether single controls keep their effect inside the sequence. -/
def obeysControls : ControlState → Bool
  | .ground | .escape | .escapeIntermediate | .command | .commandParameter | .commandIntermediate
  | .commandIgnored => true
  | _ => false

def behindEscape (b : UInt8) : ControlState :=
  if b < 0x20 || 0x7E < b then .escape
  else if b < 0x30 then .escapeIntermediate
  else
    match b with
    | 0x5B => .command
    | 0x5D => .system
    | 0x50 => .device
    | 0x58 | 0x5E | 0x5F => .string
    | _ => .ground

/-- Where a byte leads in a sequence with parameters, given the states for its parts. -/
def inSequence (here parameter intermediate ignored final : ControlState) (b : UInt8) : ControlState :=
  if b < 0x20 || 0x7E < b then here
  else if b < 0x30 then intermediate
  else if b < 0x3C then parameter
  else if b < 0x40 then ignored
  else final

def next (s : ControlState) (b : UInt8) : ControlState :=
  if b = 0x18 || b = 0x1A then .ground
  else if b = 0x1B then .escape
  else
    match s with
    | .ground => .ground
    | .escape => behindEscape b
    | .escapeIntermediate => if 0x30 ≤ b && b ≤ 0x7E then .ground else s
    | .command => inSequence s .commandParameter .commandIntermediate .commandParameter .ground b
    | .commandParameter => inSequence s s .commandIntermediate .commandIgnored .ground b
    | .commandIntermediate => inSequence s .commandIgnored s .commandIgnored .ground b
    | .commandIgnored => inSequence s s s s .ground b
    | .device => inSequence s .deviceParameter .deviceIntermediate .deviceParameter .deviceData b
    | .deviceParameter => inSequence s s .deviceIntermediate .deviceIgnored .deviceData b
    | .deviceIntermediate => inSequence s .deviceIgnored s .deviceIgnored .deviceData b
    | .deviceIgnored | .deviceData | .string => if b = 0x9C then .ground else s
    | .system => if b = 0x07 then .ground else s

/-- Whether a byte is shown: plain characters outside of sequences, blanks among the controls, and bytes
inside a character. -/
def shows (s : ControlState) (b : UInt8) : Bool :=
  (0x80 ≤ b && b < 0xC0) || (s == .ground && (0xC0 ≤ b || (0x20 ≤ b && b < 0x7F))) ||
    (s.obeysControls && (b == 0x09 || b == 0x0A || b == 0x0C || b == 0x0D))

/-- The bytes that are shown; one that is shown ends the sequence it stands in. -/
def shown : ControlState → Bytes → Bytes
  | _, [] => []
  | s, b :: rest => if s.shows b then b :: shown .ground rest else shown (s.next b) rest

end ControlState

def withoutControls (text : String) : String :=
  Utf8.decodeLossy (ControlState.shown .ground (Utf8.encode text))

end PartyBridge.Text
