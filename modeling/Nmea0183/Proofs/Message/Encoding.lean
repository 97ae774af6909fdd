import Mathlib.Tactic.Common
import Nmea0183.Message.OneShot

/-!
# Encoding a message

A message is encoded by its own routine and the completion of the sentence, and the first step that
fails is what it is refused for (`Message.encode_cases`).  The message that comes with the sentence
is the same but for the checksum and the size.
-/

namespace Nmea0183

namespace Message

/-- The buffer that a message is encoded into: the given one, or a new one of the size that the
settings give. -/
def target (buffer : Option Buffer) (config : Config) : Buffer :=
  buffer.getD { window := List.replicate config.sentenceLength 0 }

/-- Encoding makes an encoder, writes the payload and completes the sentence. -/
lemma encode_held (h : Holding) (buffer : Option Buffer) (config : Config) :
    encode (.held h) buffer config =
      match Encoder.ofTokens (target buffer config) h.talker h.code config with
      | .error f => .error f
      | .ok e₀ =>
        match h.codec.writer.write h.payload e₀ with
        | .error f _ => .error f
        | .ok _ e₁ =>
          match Encoder.endMessage e₁ with
          | .error f _ => .error f
          | .ok sentence e₂ =>
            .ok
              { sentence
                message := .held { h with checksum := e₂.checksum.getD 0, size := sentence.length }
                buffer := { target buffer config with window := e₂.buffer } } := by
  have hwrite : ∀ e₀, writeSentence (.held h) e₀ =
      match h.codec.writer.write h.payload e₀ with
      | .error f e₁ => .error f e₁
      | .ok _ e₁ => Encoder.endMessage e₁ := by
    intro e₀
    change EStateM.bind (h.codec.writer.write h.payload) (fun _ => Encoder.endMessage) e₀ = _
    rw [EStateM.bind]
    cases h.codec.writer.write h.payload e₀ <;> rfl
  rw [encode]
  change (Encoder.ofTokens (target buffer config) h.talker h.code config >>= _) = _
  cases Encoder.ofTokens (target buffer config) h.talker h.code config with
  | error f => rfl
  | ok e₀ =>
    simp only [bind, Except.bind]
    rw [hwrite]
    cases h.codec.writer.write h.payload e₀ with
    | error f e₁ => rfl
    | ok _ e₁ =>
      dsimp only
      cases Encoder.endMessage e₁ <;> rfl

/-- Encoding fails with the fault of one of its steps, or all of them succeed. -/
lemma encode_cases (h : Holding) (buffer : Option Buffer) (config : Config) :
    (∃ f, encode (.held h) buffer config = .error f ∧
      (Encoder.ofTokens (target buffer config) h.talker h.code config = .error f ∨
        ∃ e₀, Encoder.ofTokens (target buffer config) h.talker h.code config = .ok e₀ ∧
          ∃ e, h.codec.writer.write h.payload e₀ = .error f e ∨
            ∃ e₁, h.codec.writer.write h.payload e₀ = .ok () e₁ ∧
              Encoder.endMessage e₁ = .error f e)) ∨
    ∃ e₀ e₁ sentence e₂, Encoder.ofTokens (target buffer config) h.talker h.code config = .ok e₀ ∧
      h.codec.writer.write h.payload e₀ = .ok () e₁ ∧ Encoder.endMessage e₁ = .ok sentence e₂ ∧
      encode (.held h) buffer config = .ok
        { sentence
          message := .held { h with checksum := e₂.checksum.getD 0, size := sentence.length }
          buffer := { target buffer config with window := e₂.buffer } } := by
  rw [encode_held]
  cases Encoder.ofTokens (target buffer config) h.talker h.code config with
  | error f => exact Or.inl ⟨f, rfl, Or.inl rfl⟩
  | ok e₀ =>
    cases hwrite : h.codec.writer.write h.payload e₀ with
    | error f e =>
      dsimp only
      rw [hwrite]
      exact Or.inl ⟨f, rfl, Or.inr ⟨e₀, rfl, e, Or.inl hwrite⟩⟩
    | ok _ e₁ =>
      dsimp only
      rw [hwrite]
      dsimp only
      cases hend : Encoder.endMessage e₁ with
      | error f e => exact Or.inl ⟨f, rfl, Or.inr ⟨e₀, rfl, e, Or.inr ⟨e₁, hwrite, hend⟩⟩⟩
      | ok sentence e₂ => exact Or.inr ⟨e₀, e₁, sentence, e₂, rfl, hwrite, hend, rfl⟩

/-- The steps of an encoding that succeeds, and all that it gives. -/
lemma exists_steps_of_encode {h : Holding} {buffer : Option Buffer} {config : Config}
    {encoded : Encoded} (hok : encode (.held h) buffer config = .ok encoded) :
    ∃ e₀ e₁ e₂, Encoder.ofTokens (target buffer config) h.talker h.code config = .ok e₀ ∧
      h.codec.writer.write h.payload e₀ = .ok () e₁ ∧
      Encoder.endMessage e₁ = .ok encoded.sentence e₂ ∧
      encoded.message =
        .held { h with checksum := e₂.checksum.getD 0, size := encoded.sentence.length } ∧
      encoded.buffer = { target buffer config with window := e₂.buffer } := by
  rcases encode_cases h buffer config with
    ⟨f, herror, -⟩ | ⟨e₀, e₁, sentence, e₂, hmake, hwrite, hend, hencode⟩
  · rw [herror] at hok
    cases hok
  · rw [hencode] at hok
    cases hok
    exact ⟨e₀, e₁, e₂, hmake, hwrite, hend, rfl, rfl⟩

/-- What encoding a message goes through when it succeeds. -/
lemma exists_of_encode {h : Holding} {buffer : Option Buffer} {config : Config} {encoded : Encoded}
    (hok : encode (.held h) buffer config = .ok encoded) :
    ∃ b e₀ e₁ e₂, Encoder.ofTokens b h.talker h.code config = .ok e₀ ∧
      h.codec.writer.write h.payload e₀ = .ok () e₁ ∧
      Encoder.endMessage e₁ = .ok encoded.sentence e₂ ∧
      encoded.message =
        .held { h with checksum := e₂.checksum.getD 0, size := encoded.sentence.length } := by
  obtain ⟨e₀, e₁, e₂, hmake, hwrite, hend, hmessage, -⟩ := exists_steps_of_encode hok
  exact ⟨_, e₀, e₁, e₂, hmake, hwrite, hend, hmessage⟩

end Message

end Nmea0183
