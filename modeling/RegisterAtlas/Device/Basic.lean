/-!
# Device descriptions

The tree that a register description (CMSIS-SVD) document describes: a device with its
peripherals, each peripheral with its registers, each register with its bit fields. Every value
is kept as the document's text (trimmed); numbers are read later, where they are used.

A peripheral may be derived from another one (`derivedFrom`): it then shares that peripheral's
registers, and the registers it declares itself are ignored.
-/

namespace RegisterAtlas

/-- A bit field of a register. Its position is given by one of three encodings: `bitOffset` and
`bitWidth`, `bitRange` (`[msb:lsb]`), or `lsb` and `msb`. -/
structure BitField where
  name : String
  description : Option String := none
  bitOffset : Option String := none
  bitWidth : Option String := none
  bitRange : Option String := none
  lsb : Option String := none
  msb : Option String := none
  access : Option String := none
  deriving Repr, DecidableEq, Inhabited

/-- A register of a peripheral, at an offset from the peripheral's base address. -/
structure Register where
  name : String
  description : Option String := none
  addressOffset : String
  size : Option String := none
  access : Option String := none
  resetValue : Option String := none
  fields : List BitField := []
  deriving Repr, DecidableEq, Inhabited

/-- A peripheral of a device, at a base address. -/
structure Peripheral where
  name : String
  description : Option String := none
  baseAddress : String
  groupName : Option String := none
  derivedFrom : Option String := none
  registers : List Register := []
  deriving Repr, DecidableEq, Inhabited

/-- A device (a microcontroller) and its peripherals. -/
structure Device where
  name : String
  description : Option String := none
  peripherals : List Peripheral := []
  deriving Repr, DecidableEq, Inhabited

end RegisterAtlas
