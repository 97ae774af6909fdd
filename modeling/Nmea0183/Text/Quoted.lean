import Nmea0183.Hex
import Nmea0183.Text.Latin
import Nmea0183.Text.Printable

/-!
# Quoted text

How a message shows a text or a row of bytes: between single quotes, or between
double quotes when the text holds a single quote and no double quote.  The quote
in use, the backslash and three controls are escaped by a backslash, and what is
not printable by its number.
-/

namespace Nmea0183.Quoted

/-- The single quote. -/
def single : Char := '\x27'

/-- The double quote. -/
def double : Char := '\x22'

/-- The quote around a text. -/
def quoteFor (text : List Char) : Char :=
  if text.contains single && !text.contains double then double else single

/-- A character by its number, in the shortest of three widths. -/
def numbered (c : Char) : List Char :=
  if c.toNat < 0x100 then '\\' :: 'x' :: Hex.lower 2 c.toNat
  else if c.toNat < 0x10000 then '\\' :: 'u' :: Hex.lower 4 c.toNat
  else '\\' :: 'U' :: Hex.lower 8 c.toNat

/-- One character between quotes; `shown` tells which characters stand for themselves. -/
def escape (shown : Char → Bool) (quote c : Char) : List Char :=
  if c = quote ∨ c = '\\' then ['\\', c]
  else if c = '\t' then ['\\', 't']
  else if c = '\n' then ['\\', 'n']
  else if c = '\r' then ['\\', 'r']
  else if shown c then [c]
  else numbered c

/-- A text between quotes. -/
def chars (text : List Char) : List Char :=
  let quote := quoteFor text
  quote :: text.flatMap (escape Printable.isPrintable quote) ++ [quote]

/-- A text between quotes. -/
def text (s : String) : String :=
  String.ofList (chars s.toList)

/-- Bytes between quotes after a `b`; only the characters from space to tilde stand for
themselves. -/
def bytes (bs : Bytes) : String :=
  let cs := Latin.decode bs
  let quote := quoteFor cs
  let shown := fun c : Char => 0x20 ≤ c.toNat && c.toNat ≤ 0x7E
  String.ofList ('b' :: quote :: cs.flatMap (escape shown quote) ++ [quote])

end Nmea0183.Quoted
