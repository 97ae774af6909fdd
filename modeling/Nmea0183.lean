import Nmea0183.Checksum
import Nmea0183.CommandLine.Options
import Nmea0183.CommandLine.Run
import Nmea0183.Config
import Nmea0183.Decimal.Binary64
import Nmea0183.Decimal.Format
import Nmea0183.Decimal.Literal
import Nmea0183.Decimal.Numeral
import Nmea0183.Decimal.Rounding
import Nmea0183.Decimal.Shortest
import Nmea0183.Decimal.Significand
import Nmea0183.Decoder.Basic
import Nmea0183.Decoder.FieldError
import Nmea0183.Decoder.FieldReader
import Nmea0183.Encoder.Basic
import Nmea0183.Encoder.Buffer
import Nmea0183.Encoder.FieldText
import Nmea0183.Enumeration
import Nmea0183.Fault
import Nmea0183.Frame
import Nmea0183.Hex
import Nmea0183.Limit
import Nmea0183.Line
import Nmea0183.Main
import Nmea0183.Message.Basic
import Nmea0183.Message.OneShot
import Nmea0183.Model.Basic
import Nmea0183.Model.Instance
import Nmea0183.Model.Schema
import Nmea0183.Model.Standard
import Nmea0183.Model.Wire
import Nmea0183.Payload
import Nmea0183.Payload.Conversion
import Nmea0183.Proofs.Decimal.Nearest
import Nmea0183.Proofs.Decimal.Significand
import Nmea0183.Proofs.Decimal.Text
import Nmea0183.Proofs.Decoder.FieldReader
import Nmea0183.Proofs.Decoder.FloatReader
import Nmea0183.Proofs.Decoder.Handling
import Nmea0183.Proofs.Decoder.IntegerReaders
import Nmea0183.Proofs.Decoder.Positional
import Nmea0183.Proofs.Decoder.SizeBlind
import Nmea0183.Proofs.Decoder.Taking
import Nmea0183.Proofs.Encoder.Atomicity
import Nmea0183.Proofs.Encoder.Draft
import Nmea0183.Proofs.Encoder.Effect
import Nmea0183.Proofs.Encoder.History
import Nmea0183.Proofs.Encoder.Refinement
import Nmea0183.Proofs.Encoder.Requests
import Nmea0183.Proofs.Frame.Corruption
import Nmea0183.Proofs.Frame.Parts
import Nmea0183.Proofs.Frame.Received
import Nmea0183.Proofs.Frame.RoundTrip
import Nmea0183.Proofs.Frame.SuffixReaders
import Nmea0183.Proofs.Frame.TrailingJunk
import Nmea0183.Proofs.Frame.Unwrapping
import Nmea0183.Proofs.Message.Decoding
import Nmea0183.Proofs.Message.Encoding
import Nmea0183.Proofs.Message.Fitting
import Nmea0183.Proofs.Message.Normalisation
import Nmea0183.Proofs.Message.Observation
import Nmea0183.Proofs.Message.Pool
import Nmea0183.Proofs.Message.Refusal
import Nmea0183.Proofs.Message.Registration
import Nmea0183.Proofs.Message.RoundTrip
import Nmea0183.Proofs.Message.Session
import Nmea0183.Proofs.Message.StrictDecode
import Nmea0183.Proofs.Message.TrailingJunk
import Nmea0183.Proofs.Message.Validation
import Nmea0183.Proofs.Model.Appending
import Nmea0183.Proofs.Model.Applicable
import Nmea0183.Proofs.Model.Independence
import Nmea0183.Proofs.Model.Reading
import Nmea0183.Proofs.Model.Spelling
import Nmea0183.Proofs.Model.Writing
import Nmea0183.Proofs.Results
import Nmea0183.Proofs.Stream.FloatingPoint
import Nmea0183.Proofs.Stream.Item
import Nmea0183.Proofs.Stream.RoundTrip
import Nmea0183.Proofs.Wire.FieldText
import Nmea0183.Proofs.Wire.Hexadecimal
import Nmea0183.Proofs.Wire.Joined
import Nmea0183.Proofs.Wire.Numeral
import Nmea0183.Proofs.Wire.Plain
import Nmea0183.Register
import Nmea0183.Registry
import Nmea0183.Report.Check
import Nmea0183.Report.Layout
import Nmea0183.Samples.Models
import Nmea0183.Samples.Records
import Nmea0183.Sentence
import Nmea0183.SourcedRegister
import Nmea0183.Text.Blank
import Nmea0183.Text.DecimalDigit
import Nmea0183.Text.Latin
import Nmea0183.Text.Printable
import Nmea0183.Text.Quoted
import Nmea0183.Text.Trailing
import Nmea0183.Token
import Nmea0183.Value
import Nmea0183.Wire
