/-!
# Blanks

White space as Unicode has it, beyond the six blanks of ASCII.
-/

namespace Nmea0183.Blank

/-- Space, tab, line feed, vertical tab, form feed and carriage return. -/
def isAsciiBlank (c : Char) : Bool :=
  c.toNat = 0x20 || (0x09 ≤ c.toNat && c.toNat ≤ 0x0D)

/-- The blanks outside ASCII. -/
def wide : List Nat :=
  [0x85, 0xA0, 0x1680, 0x2000, 0x2001, 0x2002, 0x2003, 0x2004, 0x2005, 0x2006, 0x2007, 0x2008,
   0x2009, 0x200A, 0x2028, 0x2029, 0x202F, 0x205F, 0x3000]

/-- A blank outside ASCII. -/
def isWideBlank (c : Char) : Bool :=
  wide.contains c.toNat

end Nmea0183.Blank
