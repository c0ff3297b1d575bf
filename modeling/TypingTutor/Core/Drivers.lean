/-
Module: TypingTutor.Core.Drivers
Layer: Core
Purpose: The interrupt-side code of `keyboard.c` and `mouse.c`: reading the status register and the
  output buffer of the i8042 controller, assembling three-byte mouse packets and decoding them.  What
  the hardware answers is a parameter of every call.
Trusted boundary: human-reviewed spec
Main exports: PortReads, kbcRead, kbcIh, Mouse, mouseRead, mouseIh, sync, parse
-/
import TypingTutor.Core.Data

namespace TypingTutor

/-- What the two `util_sys_inb` calls of one interrupt handler return: the status register (port
`0x64`) and the output buffer (port `0x60`).  `none` is a failed call; the second field only matters
when the handler gets as far as reading the output buffer. -/
structure PortReads where
  status : Option UInt8
  output : Option UInt8
deriving Repr, DecidableEq, Inhabited

/-- The byte that `kbc_ih` reads, if it reads one. -/
def kbcRead (ports : PortReads) : Option UInt8 :=
  match ports.status with
  | none => none
  | some st =>
      if bit 7 st then none        -- parity error
      else if bit 6 st then none   -- timeout error
      else if bit 0 st then ports.output
      else none

/-- `kbc_ih`: the global `data` afterwards.  Every failing path leaves it as it was. -/
def kbcIh (ports : PortReads) (data : UInt8) : UInt8 := (kbcRead ports).getD data

/-- The globals of `mouse.c` that the interrupt path uses. -/
structure Mouse where
  byteReceived : UInt8
  bytesRead : Nat
  ppBytes : UInt8 × UInt8 × UInt8
  pp : Packet
deriving Repr, DecidableEq, Inhabited

/-- The byte that `mouse_ih` reads, if it reads one.  Unlike `kbc_ih` it also asks for the AUX bit. -/
def mouseRead (ports : PortReads) : Option UInt8 :=
  match ports.status with
  | none => none
  | some st =>
      if bit 7 st then none
      else if bit 6 st then none
      else if bit 0 st && bit 5 st then ports.output
      else none

/-- `mouse_ih`. -/
def mouseIh (ports : PortReads) (mouse : Mouse) : Mouse :=
  { mouse with byteReceived := (mouseRead ports).getD mouse.byteReceived }

/-- `sync`: store `byte_received` in the packet under assembly, or skip it. -/
def sync (mouse : Mouse) : Mouse :=
  if mouse.bytesRead = 0 then
    if bit 3 mouse.byteReceived then
      { mouse with
        bytesRead := mouse.bytesRead + 1
        ppBytes := (mouse.byteReceived, mouse.ppBytes.2.1, mouse.ppBytes.2.2) }
    else mouse
  else if mouse.bytesRead = 1 then
    { mouse with
      ppBytes := (mouse.ppBytes.1, mouse.byteReceived, mouse.ppBytes.2.2)
      bytesRead := mouse.bytesRead + 1 }
  else if mouse.bytesRead = 2 then
    { mouse with
      ppBytes := (mouse.ppBytes.1, mouse.ppBytes.2.1, mouse.byteReceived)
      bytesRead := mouse.bytesRead + 1 }
  else mouse

/-- A displacement byte with its sign bit, converted to `int16_t` as `parse` does. -/
def displacement (negative : Bool) (byte : UInt8) : Int :=
  if negative then (byte.toUInt16 ||| 0xFF00).toInt16.toInt
  else byte.toUInt16.toInt16.toInt

/-- The packet that `parse` decodes from three bytes. -/
def decodePacket (bytes : UInt8 × UInt8 × UInt8) : Packet :=
  { bytes := bytes
    rb := bit 1 bytes.1
    mb := bit 2 bytes.1
    lb := bit 0 bytes.1
    deltaX := displacement (bit 4 bytes.1) bytes.2.1
    deltaY := displacement (bit 5 bytes.1) bytes.2.2
    xOv := bit 6 bytes.1
    yOv := bit 7 bytes.1 }

/-- `parse`: decode the assembled packet and move the cursor sprite by it. -/
def parse (mouse : Mouse) (cursor : Sprite) : Mouse × Sprite :=
  let pp := decodePacket mouse.ppBytes
  ({ mouse with pp := pp },
    { cursor with x := cursor.x + pp.deltaX, y := cursor.y - pp.deltaY })

end TypingTutor
