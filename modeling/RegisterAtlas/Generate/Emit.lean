import RegisterAtlas.Query.Family
import RegisterAtlas.Query.Filter
import RegisterAtlas.Generate.Naming
import RegisterAtlas.Numeral
/-!
# Generated definitions

Source text defining a peripheral's registers and fields, in three dialects:

* `Dialect.assembler`: `.equ` directives for base addresses, register offsets and field masks.
  A family template (`TIM_n`) gives one base address per member; nothing follows the base
  addresses when the register filter keeps no register.
* `Dialect.forthConstants`: flat `constant` and `2constant` definitions addressed from the
  peripheral's base, with a three letter lower case prefix.
* `Dialect.forthRegisters`: a `registers … end-registers` structure whose members are laid out
  in address order, four bytes apart; where the next register's offset differs from the running
  offset, the structure jumps to it (`drop $OFFSET`). Every offset must be a number of at most
  32 bits.

Only the assembler dialect expands family templates; the Forth dialects look the name up as a
pattern. A field of one bit is written as a bit number, a wider one as a mask.
-/

namespace RegisterAtlas

/-- The output dialects. -/
inductive Dialect
  /-- Assembler `.equ` directives. -/
  | assembler
  /-- Forth constants. -/
  | forthConstants
  /-- A Forth `registers` structure. -/
  | forthRegisters
  deriving Repr, DecidableEq, Inhabited

/-- The dialect's name, as messages give it. -/
def Dialect.name : Dialect → String
  | .assembler => "Assembler"
  | .forthConstants => "ForthConstants"
  | .forthRegisters => "ForthRegisters"

/-- What to generate besides the constants. -/
structure GenerateOptions where
  filter : RegisterFilter := {}
  /-- Put the dialect's support words before the constants. -/
  supportWords : Bool := false
  deriving Repr, Inhabited

/-- The support word written before Forth constants on request. `m_` constants are used with
it, e.g. `5 m_spi_CR2_TSER SPI1_BASE modify-reg`; `b_` constants go to `bic!` or `bis!`. -/
def modifyRegWords : String :=
  "\n: modify-reg ( value mask pos reg -- )\n" ++
  "    >r tuck         \\ -- value pos mask pos\n" ++
  "    lshift r@ bic!  \\ clear mask first\n" ++
  "    lshift r> bis!  \\ set the value bits\n" ++
  ";\n"

/-- The structure-defining words written before a Forth `registers` structure on request. -/
def registerWords : String :=
  "\n: registers ( -- )\n" ++
  "    0 ;             \\ offset start\n" ++
  "\n" ++
  ": reg\n" ++
  "    <builds         ( offset -- newoffset )\n" ++
  "        dup , cell+\n" ++
  "    does>           ( structure-base -- structure-member-address )\n" ++
  "        @ + ;\n" ++
  "\n" ++
  ": regC\n" ++
  "    <builds         ( offset -- newoffset )\n" ++
  "        dup , cell+\n" ++
  "    does>           ( structure-base stream -- structure-member-address )\n" ++
  "        @ swap $18 * + + ;\n" ++
  "\n" ++
  ": end-registers ( -- )\n" ++
  "    drop ;          \\ last offset\n" ++
  "\n" ++
  "\\ bit masks\n" ++
  ": bit ( n -- n )\n" ++
  "    1 swap lshift 1-foldable ;\n"

/-- A mask as eight or more upper case hex digits. -/
def hex8 (n : Nat) : String := Numeral.hexUpper 8 n

/-- The assembler lines of the kept registers, labelled `label`; nothing when none is kept. -/
def asmRegisters (label : String) (registers : List ResolvedRegister) : String :=
  if registers.isEmpty then ""
  else
    "; Registers for " ++ label ++ "\n" ++
    String.join (registers.map fun r => "  .equ _" ++ r.name ++ ", " ++ r.addressOffset ++ "\n") ++
    String.join (registers.map fun r =>
      "; Bitfields for _" ++ r.name ++ "\n" ++
      String.join (r.fields.map fun f =>
        let name := r.name ++ "_" ++ f.name
        if f.numBits = 1 then "  .equ b_" ++ name ++ ", 1<<" ++ toString f.bitOffset ++ "\n"
        else "  .equ m_" ++ name ++ ", 0x" ++ hex8 f.position.shiftedMask ++ "\n" ++
          "  .equ o_" ++ name ++ ", " ++ toString f.bitOffset ++ "\n"))

/-- Assembler `.equ` directives for a peripheral or family. -/
def generateAsm (s : Store) (peripheral : String) (options : GenerateOptions) :
    Except AtlasError String := do
  let e := expand s peripheral
  let resolved ← e.resolve s
  let bases := match e with
    | .family _ members =>
      String.join (members.map fun m => ".equ " ++ m.row.name ++ "_BASE, " ++ m.row.baseAddress ++ "\n")
    | .single _ => ".equ " ++ resolved.name ++ "_BASE, " ++ resolved.baseAddress ++ "\n"
  return bases ++ asmRegisters e.label (options.filter.apply (·.name) resolved.registers)

/-- Flat Forth constants for a peripheral. -/
def generateForthConstants (s : Store) (peripheral : String) (options : GenerateOptions) :
    Except AtlasError String := do
  let resolved ← resolve s peripheral
  let pre := if options.supportWords then modifyRegWords ++ "\n" else ""
  let base := Generate.forthHex resolved.baseAddress ++ " constant " ++ resolved.name ++ "_BASE\n"
  let pfx := Generate.shortPrefix resolved.name 3
  let registers := options.filter.apply (·.name) resolved.registers
  let offsets := String.join (registers.map fun r =>
    "  " ++ resolved.name ++ "_BASE " ++ Generate.forthHex r.addressOffset ++ " + constant " ++
      pfx ++ "_" ++ r.name ++ "\n")
  let fields := String.join (registers.map fun r =>
    "  \\ Bitfields for " ++ pfx ++ "_" ++ r.name ++ "\n" ++
    String.join (r.fields.map fun f =>
      let name := pfx ++ "_" ++ r.name ++ "_" ++ f.name
      if f.numBits = 1 then "  1 " ++ toString f.bitOffset ++ " lshift constant b_" ++ name ++ "\n"
      else "  $" ++ hex8 f.position.mask ++ " " ++ toString f.bitOffset ++ " 2constant m_" ++
        name ++ "\n"))
  return pre ++ base ++ offsets ++ fields

/-- The registers with their offsets as numbers, in ascending offset order (registers of equal
offset keep their order); the first offset that is not a 32-bit number is refused. -/
def byOffset (registers : List ResolvedRegister) :
    Except AtlasError (List (Nat × ResolvedRegister)) := do
  let placed ← registers.mapM fun r =>
    match Numeral.readNumber r.addressOffset with
    | some o => if o ≤ Nat.pow 2 32 - 1 then .ok (o, r) else .error (.invalidAddress r.addressOffset)
    | none => .error (.invalidAddress r.addressOffset)
  return placed.mergeSort (fun a b => decide (a.1 ≤ b.1))

/-- The member lines of a `registers` structure, the running offset starting at `addr`: a jump
where a register's offset differs from it, and four bytes per register. -/
def layoutLines (pfx : String) : Nat → List (Nat × ResolvedRegister) → String
  | _, [] => ""
  | addr, (o, r) :: rest =>
    let jump := if o ≠ addr then "    drop $" ++ hex8 o ++ "\n" else ""
    jump ++ "    reg _" ++ pfx ++ r.name ++ "\n" ++ layoutLines pfx (o + 4) rest

/-- A Forth `registers` structure for a peripheral. -/
def generateForthRegisters (s : Store) (peripheral : String) (options : GenerateOptions) :
    Except AtlasError String := do
  let resolved ← resolve s peripheral
  let pre := if options.supportWords then registerWords ++ "\n" else ""
  let head := Generate.forthHex resolved.baseAddress ++ " constant " ++ resolved.name ++ "\n" ++
    "  registers\n"
  let pfx := Generate.shortPrefix resolved.name 2
  let registers ← byOffset (options.filter.apply (·.name) resolved.registers)
  let fields := String.join (registers.map fun (_, r) =>
    "\n\\ Bitfields for " ++ r.name ++ "\n" ++
    String.join (r.fields.map fun f =>
      let name := r.name ++ "_" ++ f.name
      if f.numBits = 1 then "  " ++ toString f.bitOffset ++ " bit constant b_" ++ name ++ "\n"
      else "  $" ++ hex8 f.position.mask ++ " " ++ toString f.bitOffset ++ " 2constant m_" ++
        name ++ "\n"))
  return pre ++ head ++ layoutLines pfx 0 registers ++ "  end-registers\n" ++ fields

/-- Generate a peripheral's definitions in a dialect. -/
def generate (s : Store) (peripheral : String) (d : Dialect) (options : GenerateOptions) :
    Except AtlasError String :=
  match d with
  | .assembler => generateAsm s peripheral options
  | .forthConstants => generateForthConstants s peripheral options
  | .forthRegisters => generateForthRegisters s peripheral options

end RegisterAtlas
