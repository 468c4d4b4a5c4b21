/-! # Bytes as text

UTF-8 is decoded with a stand-in for what is no text: each longest part that could have begun a
character, and each byte that could not, gives one replacement character. Decoding looks at every
byte once.
-/

namespace ShadowTraffic.Text.Utf8

/-- Stands for bytes that are no text. -/
def replacement : Char := '\ufffd'

/-- A character that has begun: its bits so far, how many bytes are missing, and the range that
the next one must lie in. -/
structure Begun where
  bits : Nat
  missing : Nat
  low : Nat := 0x80
  high : Nat := 0xBF

/-- What a first byte begins: a character of its own, a longer one, or nothing. -/
inductive Lead where
  | whole (c : Char)
  | begun (b : Begun)
  | bad

/-- Reads a first byte. Overlong forms, surrogates and numbers beyond the last character are
excluded by the range of the second byte. -/
def lead (byte : Nat) : Lead :=
  if byte < 0x80 then .whole (Char.ofNat byte)
  else if byte < 0xC2 then .bad
  else if byte < 0xE0 then .begun ⟨byte - 0xC0, 1, 0x80, 0xBF⟩
  else if byte == 0xE0 then .begun ⟨0, 2, 0xA0, 0xBF⟩
  else if byte == 0xED then .begun ⟨0xD, 2, 0x80, 0x9F⟩
  else if byte < 0xF0 then .begun ⟨byte - 0xE0, 2, 0x80, 0xBF⟩
  else if byte == 0xF0 then .begun ⟨0, 3, 0x90, 0xBF⟩
  else if byte < 0xF4 then .begun ⟨byte - 0xF0, 3, 0x80, 0xBF⟩
  else if byte == 0xF4 then .begun ⟨4, 3, 0x80, 0x8F⟩
  else .bad

/-- Decodes bytes, given a character that has begun. -/
def decodeFrom : Option Begun → List UInt8 → List Char
  | none, [] => []
  | some _, [] => [replacement]
  | none, byte :: rest =>
    match lead byte.toNat with
    | .whole c => c :: decodeFrom none rest
    | .begun b => decodeFrom (some b) rest
    | .bad => replacement :: decodeFrom none rest
  | some b, byte :: rest =>
    if b.low ≤ byte.toNat ∧ byte.toNat ≤ b.high then
      let bits := b.bits * 64 + (byte.toNat - 0x80)
      if b.missing ≤ 1 then Char.ofNat bits :: decodeFrom none rest
      else decodeFrom (some { bits, missing := b.missing - 1 }) rest
    else
      match lead byte.toNat with
      | .whole c => replacement :: c :: decodeFrom none rest
      | .begun b => replacement :: decodeFrom (some b) rest
      | .bad => replacement :: replacement :: decodeFrom none rest

def decode (bytes : List UInt8) : String :=
  String.ofList (decodeFrom none bytes)

end ShadowTraffic.Text.Utf8
