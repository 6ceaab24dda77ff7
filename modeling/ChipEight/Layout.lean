namespace ChipEight

/-!
# The layout of the machine

The sizes, addresses and rates that are fixed for every CHIP-8 machine, and the
glyphs of its sixteen hexadecimal digits.
-/

/-- The number of bytes of main memory. -/
def memorySize : Nat := 4096

/-- The number of variable registers. -/
def registerCount : Nat := 16

/-- The number of return addresses that the stack has room for. -/
def stackCapacity : Nat := 16

/-- The register that instructions leave a carry, a borrow or a collision in. -/
def flagRegister : Nat := 0xF

/-- The address at which programs are loaded and started. -/
def programStart : Nat := 0x200

/-- The most bytes a program may have. -/
def programRoom : Nat := memorySize - programStart

/-- The number of bytes of an instruction. -/
def instructionSize : Nat := 2

/-- The address of the glyph of the digit zero. -/
def glyphStart : Nat := 0x000

/-- The number of bytes, and so of pixel rows, of a glyph. -/
def glyphSize : Nat := 5

/-- The number of pixel columns of a display. -/
def displayWidth : Nat := 64

/-- The number of pixel rows of a display. -/
def displayHeight : Nat := 32

/-- The instructions executed in a second unless another rate is asked for. -/
def defaultRate : Int := 300

/-- How often in a second the timers are meant to count down. -/
def timerRate : Int := 60

/-- The glyphs of the hexadecimal digits, one byte to a row of pixels. -/
def glyphs : Array UInt8 :=
  #[0xF0, 0x90, 0x90, 0x90, 0xF0,
    0x20, 0x60, 0x20, 0x20, 0x70,
    0xF0, 0x10, 0xF0, 0x80, 0xF0,
    0xF0, 0x10, 0xF0, 0x10, 0xF0,
    0x90, 0x90, 0xF0, 0x10, 0x10,
    0xF0, 0x80, 0xF0, 0x10, 0xF0,
    0xF0, 0x80, 0xF0, 0x90, 0xF0,
    0xF0, 0x10, 0x20, 0x40, 0x40,
    0xF0, 0x90, 0xF0, 0x90, 0xF0,
    0xF0, 0x90, 0xF0, 0x10, 0xF0,
    0xF0, 0x90, 0xF0, 0x90, 0x90,
    0xE0, 0x90, 0xE0, 0x90, 0xE0,
    0xF0, 0x80, 0x80, 0x80, 0xF0,
    0xE0, 0x90, 0x90, 0x90, 0xE0,
    0xF0, 0x80, 0xF0, 0x80, 0xF0,
    0xF0, 0x80, 0xF0, 0x80, 0x80]

end ChipEight
