-- Text as bytes. A text is written as UTF-8. Any list of bytes can be read
-- back: the reader takes one byte at a time, and where the bytes stop being a
-- character it puts one U+FFFD for the longest stretch that could still have
-- begun one, and looks at the byte in hand afresh.

namespace ChatShell.Text

/-- Raw content, with no promise that it is text. -/
abbrev Bytes := List UInt8

/-! ## Writing -/

/-- The last byte of a longer character, or one of its middle bytes: six bits of the code point. -/
def trailByte (n : Nat) : UInt8 := UInt8.ofNat (0x80 + n % 64)

/-- The UTF-8 bytes of one character. -/
def encodeChar (c : Char) : Bytes :=
  let n := c.toNat
  if n < 0x80 then [UInt8.ofNat n]
  else if n < 0x800 then [UInt8.ofNat (0xC0 + n / 64), trailByte n]
  else if n < 0x10000 then [UInt8.ofNat (0xE0 + n / 4096), trailByte (n / 64), trailByte n]
  else
    [UInt8.ofNat (0xF0 + n / 262144), trailByte (n / 4096), trailByte (n / 64), trailByte n]

/-- The UTF-8 bytes of a text. -/
def encode (s : String) : Bytes := s.toList.flatMap encodeChar

/-! ## Reading -/

/-- Stands for bytes that are no character. -/
def replacement : Char := Char.ofNat 0xFFFD

/-- A character whose bytes have begun: the bits read so far, how many bytes are still to come,
and the range the next of them has to be in. -/
structure Begun where
  bits : Nat
  missing : Nat
  low : Nat
  high : Nat
  deriving DecidableEq

/-- A reader in the middle of a list of bytes. -/
structure Decoder where
  /-- The text read so far. -/
  text : String := ""
  /-- The character that has begun. -/
  begun : Option Begun := none
  deriving DecidableEq

/-- Takes a byte where a character begins. The tighter ranges after E0, ED, F0 and F4 keep out
long spellings, surrogates and values past U+10FFFF. -/
def Decoder.begin (text : String) (b : Nat) : Decoder :=
  if b < 0x80 then ⟨text.push (Char.ofNat b), none⟩
  else if b < 0xC2 then ⟨text.push replacement, none⟩
  else if b < 0xE0 then ⟨text, some ⟨b - 0xC0, 1, 0x80, 0xBF⟩⟩
  else if b = 0xE0 then ⟨text, some ⟨0, 2, 0xA0, 0xBF⟩⟩
  else if b = 0xED then ⟨text, some ⟨0xD, 2, 0x80, 0x9F⟩⟩
  else if b < 0xF0 then ⟨text, some ⟨b - 0xE0, 2, 0x80, 0xBF⟩⟩
  else if b = 0xF0 then ⟨text, some ⟨0, 3, 0x90, 0xBF⟩⟩
  else if b < 0xF4 then ⟨text, some ⟨b - 0xF0, 3, 0x80, 0xBF⟩⟩
  else if b = 0xF4 then ⟨text, some ⟨4, 3, 0x80, 0x8F⟩⟩
  else ⟨text.push replacement, none⟩

/-- Takes one byte. A byte outside the range it had to be in ends the character that has begun
and is taken as the start of the next one. -/
def Decoder.step (d : Decoder) (byte : UInt8) : Decoder :=
  let b := byte.toNat
  match d.begun with
  | none => Decoder.begin d.text b
  | some g =>
    if g.low ≤ b ∧ b ≤ g.high then
      let bits := g.bits * 64 + (b - 0x80)
      if g.missing ≤ 1 then ⟨d.text.push (Char.ofNat bits), none⟩
      else ⟨d.text, some ⟨bits, g.missing - 1, 0x80, 0xBF⟩⟩
    else Decoder.begin (d.text.push replacement) b

/-- The text once the bytes have ended. -/
def Decoder.finish (d : Decoder) : String :=
  match d.begun with
  | none => d.text
  | some _ => d.text.push replacement

/-- The text of any bytes, with U+FFFD for what is no character. -/
def decode (bytes : Bytes) : String := (bytes.foldl Decoder.step {}).finish

/-- The text of bytes that are UTF-8 throughout: reading them loses nothing. -/
def decode? (bytes : Bytes) : Option String :=
  let text := decode bytes
  if encode text = bytes then some text else none

end ChatShell.Text
