import Nmea0183.Model.Basic

/-!
# Standard declarations

The enumerations that messages of commands and acknowledgements share, and the
model that all others extend.
-/

namespace Nmea0183

namespace Enumeration

/-- What became of a command. -/
def messageResult : Enumeration where
  name := "MessageResult"
  members := [("NACK", .int 0), ("ACK", .int 1)]
  integral := true

/-- Where a device keeps a setting. -/
def memoryClass : Enumeration where
  name := "MemoryClass"
  members := [("VOLATILE", .int 1), ("NONVOLATILE", .int 2)]
  integral := true

end Enumeration

namespace Model

/-- The model without fields that all others extend. -/
def sentenceMessage : Model where
  name := "SentenceMessage"
  module := "nmeacomm.models.base"
  fields := []

end Model

end Nmea0183
