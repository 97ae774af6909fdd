import Nmea0183.Fault

/-!
# Header tokens

The talker and the message code of a sentence are tokens of a fixed length, made
of printable ASCII characters that do not delimit.  A `Token` is valid by its
construction; a value is checked in the order type, length, characters.
-/

namespace Nmea0183

namespace Token

/-- A character that a header token may hold. -/
def isAllowed (c : Char) : Bool :=
  0x20 ≤ c.toNat && c.toNat ≤ 0x7E && !Wire.isReserved c

end Token

/-- A valid header token of a kind. -/
structure Token (kind : TokenKind) where
  chars : List Char
  length_eq : chars.length = kind.length
  allowed : chars.all Token.isAllowed = true
  deriving DecidableEq, Repr

/-- The two characters that name the sender of a sentence. -/
abbrev Talker := Token .talker

/-- The three characters that name the kind of a sentence. -/
abbrev MessageCode := Token .messageCode

namespace Token

/-- The token of a text. -/
def ofChars (kind : TokenKind) (chars : List Char) : Except HeaderFault (Token kind) :=
  if hl : chars.length = kind.length then
    if ha : chars.all isAllowed = true then .ok ⟨chars, hl, ha⟩
    else .error (.notAllowed kind chars)
  else .error (.wrongLength kind chars)

/-- The token of a value, which has to be a text. -/
def ofValue (kind : TokenKind) : Value → Except HeaderFault (Token kind)
  | .text s => ofChars kind s.toList
  | v => .error (.notText kind v.typeName)

/-- The text of a token. -/
def text {kind : TokenKind} (t : Token kind) : String :=
  String.ofList t.chars

/-- The characters of a token are the text that it was made of. -/
theorem chars_ofChars {kind : TokenKind} {chars : List Char} {t : Token kind}
    (h : ofChars kind chars = .ok t) : t.chars = chars := by
  unfold ofChars at h
  split at h
  · split at h
    · cases h
      rfl
    · cases h
  · cases h

/-- A token is accepted again by its text. -/
theorem ofValue_text {kind : TokenKind} (t : Token kind) : ofValue kind (.text t.text) = .ok t := by
  rw [ofValue, text, String.toList_ofList, ofChars, dif_pos t.length_eq, dif_pos t.allowed]

/-- A value is a token just if it is the text of that token. -/
theorem ofValue_eq_ok_iff {kind : TokenKind} {v : Value} {t : Token kind} :
    ofValue kind v = .ok t ↔ v = .text t.text := by
  constructor
  · intro h
    cases v with
    | text s =>
      have hchars : t.chars = s.toList := chars_ofChars h
      rw [text, hchars, String.ofList_toList]
    | _ => cases h
  · rintro rfl
    exact ofValue_text t

end Token

end Nmea0183
