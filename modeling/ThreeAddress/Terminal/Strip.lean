import ThreeAddress.Terminal.Color

set_option autoImplicit false

/- Removal of terminal escapes. A terminal reads text as characters until an escape and
   then byte by byte until the sequence ends; what it would show is kept. Of the controls
   only the line feed is kept, and a sequence that never ends swallows the rest. -/
namespace ThreeAddress.Terminal

inductive State where
  | ground
  | escape
  | escapeIntermediate
  | csiEntry
  | csiParam
  | csiIntermediate
  | csiIgnore
  | dcsEntry
  | dcsParam
  | dcsIntermediate
  | dcsPassthrough
  | dcsIgnore
  | osc
  | sosPmApc
deriving DecidableEq

namespace State

-- What every sequence obeys: cancel and substitute end it, an escape starts another.
def anywhere (state : State) (byte : UInt8) : State :=
  if byte = 0x18 ∨ byte = 0x1A then .ground
  else if byte = 0x1B then .escape
  else state

def afterEscape (byte : UInt8) : State :=
  if 0x20 ≤ byte ∧ byte ≤ 0x2F then .escapeIntermediate
  else if byte = 0x50 then .dcsEntry
  else if byte = 0x58 ∨ byte = 0x5E ∨ byte = 0x5F then .sosPmApc
  else if byte = 0x5B then .csiEntry
  else if byte = 0x5D then .osc
  else if 0x30 ≤ byte ∧ byte ≤ 0x7E then .ground
  else anywhere .escape byte

def next : State → UInt8 → State
  | .ground, _ => .ground
  | .escape, byte => afterEscape byte
  | .escapeIntermediate, byte =>
      if 0x30 ≤ byte ∧ byte ≤ 0x7E then .ground
      else anywhere .escapeIntermediate byte
  | .csiEntry, byte =>
      if 0x20 ≤ byte ∧ byte ≤ 0x2F then .csiIntermediate
      else if 0x30 ≤ byte ∧ byte ≤ 0x3F then .csiParam
      else if 0x40 ≤ byte ∧ byte ≤ 0x7E then .ground
      else anywhere .csiEntry byte
  | .csiParam, byte =>
      if 0x20 ≤ byte ∧ byte ≤ 0x2F then .csiIntermediate
      else if 0x3C ≤ byte ∧ byte ≤ 0x3F then .csiIgnore
      else if 0x40 ≤ byte ∧ byte ≤ 0x7E then .ground
      else anywhere .csiParam byte
  | .csiIntermediate, byte =>
      if 0x30 ≤ byte ∧ byte ≤ 0x3F then .csiIgnore
      else if 0x40 ≤ byte ∧ byte ≤ 0x7E then .ground
      else anywhere .csiIntermediate byte
  | .csiIgnore, byte =>
      if 0x40 ≤ byte ∧ byte ≤ 0x7E then .ground
      else anywhere .csiIgnore byte
  | .dcsEntry, byte =>
      if 0x20 ≤ byte ∧ byte ≤ 0x2F then .dcsIntermediate
      else if 0x30 ≤ byte ∧ byte ≤ 0x3F then .dcsParam
      else if 0x40 ≤ byte ∧ byte ≤ 0x7E then .dcsPassthrough
      else anywhere .dcsEntry byte
  | .dcsParam, byte =>
      if 0x20 ≤ byte ∧ byte ≤ 0x2F then .dcsIntermediate
      else if 0x3C ≤ byte ∧ byte ≤ 0x3F then .dcsIgnore
      else if 0x40 ≤ byte ∧ byte ≤ 0x7E then .dcsPassthrough
      else anywhere .dcsParam byte
  | .dcsIntermediate, byte =>
      if 0x30 ≤ byte ∧ byte ≤ 0x3F then .dcsIgnore
      else if 0x40 ≤ byte ∧ byte ≤ 0x7E then .dcsPassthrough
      else anywhere .dcsIntermediate byte
  | .dcsPassthrough, byte =>
      if byte = 0x9C then .ground
      else anywhere .dcsPassthrough byte
  | .dcsIgnore, byte => anywhere .dcsIgnore byte
  | .osc, byte =>
      if byte = 0x07 then .ground
      else anywhere .osc byte
  | .sosPmApc, byte => anywhere .sosPmApc byte

def executes : State → Bool
  | .escape | .escapeIntermediate | .csiEntry | .csiParam | .csiIntermediate | .csiIgnore => true
  | _ => false

end State

/-- One byte of a character that started inside a sequence. A sequence may end within the
character; the bytes left over then stand alone, and those past the controls show as the
replacement character. -/
def readByte : State → UInt8 → State × List Char
  | .ground, byte => (.ground, if byte ≤ 0x9F then [] else ['\ufffd'])
  | state, byte => (state.next byte, if byte = 0x0A ∧ state.executes = true then ['\n'] else [])

def readBytes : State → List UInt8 → State × List Char
  | state, [] => (state, [])
  | state, byte :: tail =>
      let (state, shown) := readByte state byte
      let (final, rest) := readBytes state tail
      (final, shown ++ rest)

def isControl (c : Char) : Bool := c.toNat < 0x20 || (0x80 ≤ c.toNat && c.toNat ≤ 0x9F)

def read : State → Char → State × List Char
  | .ground, c =>
      if c = Terminal.escape then (.escape, [])
      else if c = '\n' then (.ground, ['\n'])
      else if isControl c then (.ground, [])
      else (.ground, [c])
  | state, c => readBytes state (String.utf8EncodeChar c)

def stripFrom : State → List Char → List Char
  | _, [] => []
  | state, c :: tail =>
      let (state, shown) := read state c
      shown ++ stripFrom state tail

def strip (chars : List Char) : List Char := stripFrom .ground chars

end ThreeAddress.Terminal
