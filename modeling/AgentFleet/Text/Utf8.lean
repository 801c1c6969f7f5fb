/-!
# Bytes as text

The UTF-8 encoding of a text and its two readings: a strict one that refuses
ill-formed bytes, and a lenient one that writes a replacement character for
every maximal part that cannot begin a character.
-/

namespace AgentFleet.Text

/-- The UTF-8 encoding of a text. -/
def encode (s : String) : List UInt8 :=
  s.toUTF8.toList

/-- What the first byte of an encoded character announces. -/
structure Lead where
  /-- The bits of the character that the first byte holds. -/
  bits : Nat
  /-- The least value of the second byte. -/
  least : Nat
  /-- The greatest value of the second byte. -/
  greatest : Nat
  /-- How many bytes follow the second. -/
  further : Nat

/-- The announcement of a byte that begins a character of several bytes. -/
def Lead.of? (b : Nat) : Option Lead :=
  if 0xC2 ≤ b && b ≤ 0xDF then some ⟨b - 0xC0, 0x80, 0xBF, 0⟩
  else if b == 0xE0 then some ⟨0, 0xA0, 0xBF, 1⟩
  else if b == 0xED then some ⟨0xD, 0x80, 0x9F, 1⟩
  else if 0xE1 ≤ b && b ≤ 0xEF then some ⟨b - 0xE0, 0x80, 0xBF, 1⟩
  else if b == 0xF0 then some ⟨0, 0x90, 0xBF, 2⟩
  else if 0xF1 ≤ b && b ≤ 0xF3 then some ⟨b - 0xF0, 0x80, 0xBF, 2⟩
  else if b == 0xF4 then some ⟨4, 0x80, 0x8F, 2⟩
  else none

/-- Reads the bytes that continue a character; the second component is what is left. -/
def continuation (bits least greatest further : Nat) : List UInt8 → Option Char × List UInt8
  | [] => (none, [])
  | b :: rest =>
    if least ≤ b.toNat && b.toNat ≤ greatest then
      let bits := bits * 64 + (b.toNat - 0x80)
      match further with
      | 0 => (some (Char.ofNat bits), rest)
      | n + 1 => continuation bits 0x80 0xBF n rest
    else (none, b :: rest)

theorem continuation_length_le (bits least greatest further : Nat) (bytes : List UInt8) :
    (continuation bits least greatest further bytes).2.length ≤ bytes.length := by
  induction bytes generalizing bits least greatest further with
  | nil => simp [continuation]
  | cons b rest ih =>
    unfold continuation
    split
    · cases further with
      | zero => simp
      | succ n =>
        have := ih (bits * 64 + (b.toNat - 0x80)) 0x80 0xBF n
        simp only [List.length_cons]
        omega
    · simp

/-- Reads one character after its first byte; `none` stands for an ill-formed part. -/
def character (b : UInt8) (rest : List UInt8) : Option Char × List UInt8 :=
  if b.toNat < 0x80 then (some (Char.ofNat b.toNat), rest)
  else
    match Lead.of? b.toNat with
    | none => (none, rest)
    | some lead => continuation lead.bits lead.least lead.greatest lead.further rest

theorem character_length_le (b : UInt8) (rest : List UInt8) :
    (character b rest).2.length ≤ rest.length := by
  unfold character
  split
  · simp
  · split
    · simp
    · exact continuation_length_le ..

/-- The characters of a byte string, with `none` for each ill-formed part. -/
def characters : List UInt8 → List (Option Char)
  | [] => []
  | b :: rest => (character b rest).1 :: characters (character b rest).2
termination_by bytes => bytes.length
decreasing_by
  have := character_length_le b rest
  simp only [List.length_cons]
  omega

/-- Reads bytes as text; ill-formed parts become replacement characters. -/
def decodeLossy (bytes : List UInt8) : String :=
  String.ofList ((characters bytes).map (·.getD (Char.ofNat 0xFFFD)))

/-- Reads bytes as text, or refuses them when a part is ill-formed. -/
def decode? (bytes : List UInt8) : Option String :=
  ((characters bytes).mapM id).map String.ofList

end AgentFleet.Text
