/-!
# Bytes and characters

A sentence travels as bytes and is read as text in which each byte is the
character of the same number (Latin-1).  Text that a caller submits for framing
has to be ASCII; a failure names the first run of characters that are not.
-/

namespace Nmea0183

/-- The bytes of a line on the wire. -/
abbrev Bytes := List UInt8

namespace Latin

/-- The character that a byte stands for. -/
def charOf (b : UInt8) : Char :=
  Char.ofNat b.toNat

/-- The byte of a character; a character above `U+00FF` has none and becomes `?`. -/
def byteOf (c : Char) : UInt8 :=
  if c.toNat < 256 then UInt8.ofNat c.toNat else 0x3F

/-- The text of a line, one character for each byte. -/
def decode (bytes : Bytes) : List Char :=
  bytes.map charOf

/-- The bytes of a text, one for each character. -/
def encode (text : List Char) : Bytes :=
  text.map byteOf

@[simp] theorem length_decode (bytes : Bytes) : (decode bytes).length = bytes.length := by
  simp [decode]

@[simp] theorem length_encode (text : List Char) : (encode text).length = text.length := by
  simp [encode]

@[simp] theorem decode_append (a b : Bytes) : decode (a ++ b) = decode a ++ decode b := by
  simp [decode]

@[simp] theorem encode_append (a b : List Char) : encode (a ++ b) = encode a ++ encode b := by
  simp [encode]

/-- A byte and its character have the same number. -/
theorem toNat_charOf (b : UInt8) : (charOf b).toNat = b.toNat := by
  have hb : b.toNat < 256 := b.toNat_lt
  have valid : b.toNat.isValidChar := Or.inl (by omega)
  rw [charOf, Char.ofNat, dite_cond_eq_true (eq_true valid)]
  rfl

theorem byteOf_charOf (b : UInt8) : byteOf (charOf b) = b := by
  have hb : b.toNat < 256 := b.toNat_lt
  simp [byteOf, toNat_charOf, hb]

/-- The text of a line gives back its bytes. -/
@[simp] theorem encode_decode (bytes : Bytes) : encode (decode bytes) = bytes := by
  induction bytes with
  | nil => rfl
  | cons b rest ih => simp_all [encode, decode, byteOf_charOf]

end Latin

/-- Why bytes or characters are not ASCII. -/
inductive AsciiFault where
  /-- The first run of characters outside ASCII, and where it starts. -/
  | characters (start : Nat) (run : List Char)
  /-- The first byte outside ASCII, and where it stands. -/
  | byte (position : Nat) (value : UInt8)
  deriving DecidableEq, Repr

namespace Ascii

/-- A character of the ASCII range. -/
def isAscii (c : Char) : Bool :=
  c.toNat < 128

/-- The bytes of a text that must be ASCII throughout. -/
def encode (text : List Char) : Except AsciiFault Bytes :=
  match text.dropWhile isAscii with
  | [] => .ok (Latin.encode text)
  | rest =>
    .error (.characters (text.takeWhile isAscii).length (rest.takeWhile fun c => !isAscii c))

/-- The text of bytes that must be ASCII throughout. -/
def decode (bytes : Bytes) : Except AsciiFault (List Char) :=
  match bytes.dropWhile (· < 128) with
  | [] => .ok (Latin.decode bytes)
  | b :: _ => .error (.byte (bytes.takeWhile (· < 128)).length b)

end Ascii

end Nmea0183
