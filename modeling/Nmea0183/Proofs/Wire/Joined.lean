import Mathlib.Algebra.GroupWithZero.Nat
import Mathlib.Tactic.Common
import Nmea0183.Proofs.Wire.Plain

/-!
# Joined tokens

The body of a sentence is its header token and its fields with commas between them.  Splitting
gives back tokens that hold no comma (`splitOn_joined`), and what holds of every token and of the
comma holds of the whole (`forall_mem_joined`).
-/

namespace Nmea0183.Wire

/-- Tokens with commas between them. -/
def joined (tokens : List (List Char)) : List Char :=
  [comma].intercalate tokens

/-- Joined tokens and a comma behind them: each token is followed by one. -/
lemma joined_cons_append_comma (token : List Char) (tokens : List (List Char)) :
    joined (token :: tokens) ++ [comma] =
      token ++ comma :: tokens.flatMap (· ++ [comma]) := by
  induction tokens generalizing token with
  | nil => simp [joined]
  | cons next tokens ih =>
    have hcons : joined (token :: next :: tokens) = token ++ comma :: joined (next :: tokens) := by
      rw [joined, List.intercalate_cons_cons, joined, List.append_assoc]
      rfl
    rw [hcons, List.append_assoc, List.cons_append, ih, List.flatMap_cons, List.append_assoc]
    rfl

/-- A property of the comma and of all characters of all tokens holds throughout. -/
lemma forall_mem_joined {p : Char → Prop} (hcomma : p comma) {tokens : List (List Char)}
    (h : ∀ token ∈ tokens, ∀ c ∈ token, p c) : ∀ c ∈ joined tokens, p c := by
  cases tokens with
  | nil => exact List.forall_mem_nil p
  | cons token tokens =>
    intro c hc
    have hc : c ∈ joined (token :: tokens) ++ [comma] := List.mem_append_left _ hc
    rw [joined_cons_append_comma, List.mem_append, List.mem_cons, List.mem_flatMap] at hc
    rcases hc with hc | rfl | ⟨t, ht, hc⟩
    · exact h token (List.mem_cons_self ..) c hc
    · exact hcomma
    · rcases List.mem_append.1 hc with hc | hc
      · exact h t (List.mem_cons_of_mem _ ht) c hc
      · rw [List.mem_singleton.1 hc]
        exact hcomma

/-- Splitting gives back tokens that hold no comma. -/
lemma splitOn_joined {tokens : List (List Char)} (hne : tokens ≠ [])
    (h : ∀ token ∈ tokens, Plain token) : (joined tokens).splitOn comma = tokens :=
  List.splitOn_intercalate comma (fun token ht => (h token ht).notMem rfl) hne

/-- Joined plain tokens are ASCII. -/
lemma isAscii_of_mem_joined {tokens : List (List Char)} (h : ∀ token ∈ tokens, Plain token) :
    ∀ c ∈ joined tokens, Ascii.isAscii c = true :=
  forall_mem_joined (p := (Ascii.isAscii · = true)) rfl
    fun token ht c hc => isAscii_of_isPlain (h token ht c hc)

/-- Joined plain tokens come back from their bytes. -/
lemma decode_encode_joined {tokens : List (List Char)} (h : ∀ token ∈ tokens, Plain token) :
    Latin.decode (Latin.encode (joined tokens)) = joined tokens :=
  Latin.decode_encode fun c hc => toNat_lt_of_isAscii (isAscii_of_mem_joined h c hc)

/-- Joined plain tokens hold none of the characters that delimit but the comma. -/
lemma notMem_joined {tokens : List (List Char)} (h : ∀ token ∈ tokens, Plain token) {c : Char}
    (hc : isReserved c = true) (hne : comma ≠ c) : c ∉ joined tokens := by
  intro hmem
  refine forall_mem_joined (p := (· ≠ c)) hne (fun token ht d hd hdc => ?_) c hmem rfl
  exact (h token ht).notMem hc (hdc ▸ hd)

/-- Nor do their bytes. -/
lemma notMem_encode_joined {tokens : List (List Char)} (h : ∀ token ∈ tokens, Plain token)
    {c : Char} (hc : isReserved c = true) (hne : comma ≠ c) :
    Latin.byteOf c ∉ Latin.encode (joined tokens) :=
  Latin.byteOf_notMem_encode (toNat_lt_of_isReserved hc)
    (fun d hd => toNat_lt_of_isAscii (isAscii_of_mem_joined h d hd)) (notMem_joined h hc hne)

end Nmea0183.Wire
