import Nmea0183.Fault

/-!
# Lines

A line is submitted as text or as bytes.  For framing a text has to be ASCII; for
decoding it is taken as Latin-1, and a character beyond it becomes `?`.
-/

namespace Nmea0183

/-- A line as a caller gives it. -/
inductive Line where
  | text (text : List Char)
  | bytes (bytes : Bytes)
  deriving DecidableEq, Repr

namespace Line

/-- The bytes of a line that has to be ASCII if it is text. -/
def ascii : Line → Except Fault Bytes
  | text t => (Ascii.encode t).mapError .ascii
  | bytes b => .ok b

/-- The bytes of a line, whatever it holds. -/
def latin : Line → Bytes
  | text t => Latin.encode t
  | bytes b => b

end Line

end Nmea0183
