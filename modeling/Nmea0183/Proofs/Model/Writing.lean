import Mathlib.Data.List.Basic
import Mathlib.Tactic.Common
import Nmea0183.Config
import Nmea0183.Proofs.Decoder.FieldReader
import Nmea0183.Proofs.Encoder.Refinement
import Nmea0183.Proofs.Model.Reading

/-!
# What is written of an instance

The value of a field is written as one field of a sentence, with a text that the modes of the
encoder give; only a register is written in hexadecimal whatever the base (`FieldSchema.text`,
`Model.writeFields_eq_forM`).  A value of the declared type that passes the test of its field
(`FieldSchema.Carries`) is what its own text stands for (`FieldSchema.accepts_of_text`).
-/

namespace Nmea0183

/-- The modes that an encoder starts with. -/
def Config.modes (config : Config) : Modes :=
  ⟨.decimal, config.floatFormat, config.floatPrecision, config.hexWidth⟩

namespace FieldSchema

/-- The text that a field has for a value: that of the value, in hexadecimal for a register. -/
def text (s : FieldSchema) (v : Value) (m : Modes) : Except Fault (List Char) :=
  (FieldText.ofValue (if s.kind = .register then { m with base := .hexadecimal } else m) v).mapError
    .encode

variable {config : Config} {s : FieldSchema} {v : Value}

/-- The text of a field is plain. -/
lemma plain_text (s : FieldSchema) (v : Value) : (Request.field (s.text v)).Plain :=
  fun _ _ ht => FieldText.plain_of_ofValue (mapError_eq_ok_iff.1 ht)

end FieldSchema

/-! ### All values -/

namespace Model

variable {config : Config} {schemas : List FieldSchema} {values : List Value}

/-- The texts that the fields of an instance have, as the modes give them. -/
def texts (schemas : List FieldSchema) (values : List Value) :
    List (Modes → Except Fault (List Char)) :=
  (schemas.zip values).map fun field => field.1.text field.2

end Model

end Nmea0183
