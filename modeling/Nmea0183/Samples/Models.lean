import Nmea0183.Model.Standard

/-!
# Sample models

Enumerations and models of every shape: all kinds of fields, optional ones,
limits, message codes that are missing or unusable, and fields that no sentence
can hold.
-/

namespace Nmea0183.Samples

/-! ### Enumerations -/

/-- Values from zero on. -/
def mode : Enumeration where
  name := "Mode"
  members := [("OFF", .int 0), ("ON", .int 1), ("AUTO", .int 2)]

/-- Values of both signs. -/
def level : Enumeration where
  name := "Level"
  members := [("LOW", .int (-3)), ("MID", .int 3), ("HIGH", .int 2147483647)]

/-- Two names for one value. -/
def aliased : Enumeration where
  name := "Alias"
  members := [("A", .int 1), ("B", .int 2), ("C", .int 1)]

/-- Values at and beyond the ends of the range of fields. -/
def huge : Enumeration where
  name := "Huge"
  members :=
    [("UNDER", .int (-2147483649)), ("NEG", .int (-2147483648)), ("BIG", .int 3000000000),
     ("OVER", .int 4294967296)]

/-- Values that are no integers. -/
def color : Enumeration where
  name := "Color"
  members := [("RED", .text "red"), ("GREEN", .text "green")]

/-- Truth values, which equal integers and are none. -/
def flag : Enumeration where
  name := "Flag"
  members := [("NO", .bool false), ("YES", .bool true)]

/-- Values only some of which are integers. -/
def mixed : Enumeration where
  name := "Mixed"
  members := [("ONE", .int 1), ("TWO", .text "two")]

/-- No members at all. -/
def void : Enumeration where
  name := "Void"
  members := []

/-- All enumerations, with the standard ones. -/
def enumerations : List Enumeration :=
  [.messageResult, .memoryClass, mode, level, aliased, huge, color, flag, mixed, void]

/-! ### Models -/

/-- The module that declares the models. -/
def moduleName : String := "user_module"

/-- A model of its own fields only. -/
def declare (name : String) (code : Option String) (fields : List Field) : Model :=
  Model.sentenceMessage.extend name moduleName (code.map .text) fields

/-- The number 0.5. -/
def half : Binary64 := .ofBits 0x3FE0000000000000

/-- An integer, a floating point number and a text. -/
def ggaMessage : Model :=
  declare "GGAMessage" (some "GGA")
    [{ name := "i", type := .int, default := some (.int 42) },
     { name := "d", type := .float, default := some (.float (.ofBits 0x405EDD2F1A9FBE77)) },
     { name := "s", type := .text, default := some (.text "STRING") }]

/-- One field more, and the same message code. -/
def ggaSub : Model :=
  ggaMessage.extend "GGASub" moduleName none
    [{ name := "extra", type := .int, optional := true, default := some .null }]

/-- One field of each kind. -/
def settingsMessage : Model :=
  declare "SettingsMessage" (some "SET")
    [{ name := "channel", type := .int, default := some (.int 1),
       limits := { atLeast := some 0, atMost := some 100 } },
     { name := "gain", type := .float, default := some (.float half) },
     { name := "label", type := .text, default := some (.text "NONE") },
     { name := "enabled", type := .bool, default := some (.bool false) },
     { name := "mode", type := .enumeration mode, default := mode.named? "OFF" },
     { name := "memory", type := .enumeration .memoryClass,
       default := Enumeration.memoryClass.named? "VOLATILE" },
     { name := "flags", type := .register, default := some (.register ⟨0⟩) },
     { name := "note", type := .text, optional := true, default := some .null }]

/-- The answer to a command. -/
def ackMessage : Model :=
  declare "AckMessage" (some "ACK")
    [{ name := "result", type := .enumeration .messageResult,
       default := Enumeration.messageResult.named? "NACK" },
     { name := "command_id", type := .int, default := some (.int 0),
       limits := { atLeast := some 0, atMost := some 65535 } }]

/-- A command. -/
def configCommand : Model :=
  declare "ConfigCommand" (some "CFG")
    [{ name := "memory", type := .enumeration .memoryClass,
       default := Enumeration.memoryClass.named? "VOLATILE" },
     { name := "register", type := .register, default := some (.register ⟨0⟩) },
     { name := "reboot", type := .bool, default := some (.bool false) }]

/-- One field of each kind, none of which needs a value. -/
def allOptional : Model :=
  declare "AllOptional" (some "OPT")
    ([("i", .int), ("d", .float), ("s", .text), ("b", .bool), ("m", .enumeration mode),
      ("r", .register)].map fun (name, type) =>
        { name, type, optional := true, default := some .null })

/-- No message code. -/
def noCodeMessage : Model :=
  declare "NoCodeMessage" none [{ name := "value", type := .int, default := some (.int 0) }]

/-- A message code of the wrong length. -/
def badTraitMessage : Model :=
  declare "BadTraitMessage" (some "TOOLONG")
    [{ name := "a", type := .int, default := some (.int 7) }]

/-- No fields. -/
def emptyModel : Model :=
  declare "EmptyModel" (some "EMP") []

/-- A field that has to be given. -/
def required : Model :=
  declare "Required" (some "REQ")
    [{ name := "a", type := .int }, { name := "b", type := .text, default := some (.text "x") }]

/-- Limits of all sorts. -/
def limits : Model :=
  declare "Limits" (some "LIM")
    [{ name := "gt", type := .int, default := some (.int 5),
       limits := { above := some 0, below := some 10 } },
     { name := "ratio", type := .float, default := some (.float half),
       limits := { atLeast := some 0, atMost := some 1 } },
     { name := "name", type := .text, default := some (.text "abc"),
       limits := { minLength := some 2, maxLength := some 4 } },
     { name := "opt", type := .int, optional := true, default := some .null,
       limits := { atLeast := some (-5) } }]

/-- A field of a type that no sentence holds. -/
def badList : Model :=
  declare "BadList" (some "BAD")
    [{ name := "values", type := .unsupported .list, default := some .null }]

/-- A field of two types. -/
def badUnion : Model :=
  declare "BadUnion" (some "BAD")
    [{ name := "ok", type := .int, default := some (.int 0) },
     { name := "value", type := .unsupported .integerOrText, default := some (.int 0) }]

/-- A field of an enumeration whose values are no integers. -/
def badColor : Model :=
  declare "BadColor" (some "BAD")
    [{ name := "color", type := .enumeration color, default := color.named? "RED" }]

/-- All models. -/
def models : List Model :=
  [.sentenceMessage, ggaMessage, ggaSub, settingsMessage, ackMessage, configCommand, allOptional,
   noCodeMessage, badTraitMessage, emptyModel, required, limits, badList, badUnion, badColor]

end Nmea0183.Samples
