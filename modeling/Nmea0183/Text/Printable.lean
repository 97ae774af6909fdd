/-!
# Printable characters

A character that is not printable is written by its number when a text is quoted
in a message.  Not printable are the controls, the format characters, every
separator but the space, the characters of private use, and the code points that
Unicode reserves as no characters.
-/

namespace Nmea0183.Printable

/-- The ranges of characters that are not printable, both ends included. -/
def excluded : List (Nat × Nat) :=
  [ -- controls
    (0x00, 0x1F), (0x7F, 0x9F),
    -- separators
    (0xA0, 0xA0), (0x1680, 0x1680), (0x2000, 0x200A), (0x2028, 0x2029), (0x202F, 0x202F),
    (0x205F, 0x205F), (0x3000, 0x3000),
    -- format characters
    (0xAD, 0xAD), (0x600, 0x605), (0x61C, 0x61C), (0x6DD, 0x6DD), (0x70F, 0x70F),
    (0x890, 0x891), (0x8E2, 0x8E2), (0x180E, 0x180E), (0x200B, 0x200F), (0x202A, 0x202E),
    (0x2060, 0x206F), (0xFEFF, 0xFEFF), (0xFFF9, 0xFFFB), (0x110BD, 0x110BD),
    (0x110CD, 0x110CD), (0x13430, 0x13438), (0x1BCA0, 0x1BCA3), (0x1D173, 0x1D17A),
    (0xE0001, 0xE0001), (0xE0020, 0xE007F),
    -- private use
    (0xE000, 0xF8FF), (0xF0000, 0x10FFFF),
    -- no characters
    (0xFDD0, 0xFDEF) ]

/-- The last two code points of a plane are no characters. -/
def endsPlane (n : Nat) : Bool :=
  0xFFFE ≤ n % 0x10000

/-- A character that stands for itself in a quoted text. -/
def isPrintable (c : Char) : Bool :=
  !(endsPlane c.toNat || excluded.any fun (low, high) => low ≤ c.toNat && c.toNat ≤ high)

end Nmea0183.Printable
