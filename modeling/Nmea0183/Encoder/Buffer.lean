import Nmea0183.Text.Latin

/-!
# Buffers

A caller owns the bytes that an encoder writes into, and may hand over a window
of them only.  Writing never changes the size of a buffer.
-/

namespace Nmea0183

/-- The bytes of a caller: the window that may be written, and what lies around it. -/
structure Buffer where
  before : Bytes := []
  window : Bytes
  after : Bytes := []
  writable : Bool := true
  deriving DecidableEq, Repr

namespace Buffer

/-- The window of some bytes from `start` up to `stop`, each cut off at the end of the bytes. -/
def ofWindow (bytes : Bytes) (start stop : Nat) : Buffer where
  before := bytes.take start
  window := (bytes.take stop).drop start
  after := bytes.drop (max start stop)

/-- All bytes of the caller. -/
def whole (b : Buffer) : Bytes :=
  b.before ++ b.window ++ b.after

/-- Some bytes with `written` in place of those from `start` on. -/
def overwrite (bytes : Bytes) (start : Nat) (written : Bytes) : Bytes :=
  bytes.take start ++ written ++ bytes.drop (start + written.length)

/-- Writing inside a buffer keeps its size. -/
theorem length_overwrite {bytes written : Bytes} {start : Nat}
    (h : start + written.length ≤ bytes.length) :
    (overwrite bytes start written).length = bytes.length := by
  simp only [overwrite, List.length_append, List.length_take, List.length_drop]
  omega

end Buffer

end Nmea0183
