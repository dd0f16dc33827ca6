import TokenClient.Code

/-!
# UTF-8

A text as bytes and back. Reading is total in two ways: `decode?` accepts exactly the well-formed byte
strings, and `decodeLossy` reads any byte string with one replacement character for each maximal part
that opens a character and does not finish it. Both rest on `scan`, which takes one character or one
such part off the front.
-/

namespace TokenClient.Text.Utf8

/-- The bytes of a character. -/
def encodeChar (c : Char) : Bytes :=
  let n := c.toNat
  if n < 0x80 then [UInt8.ofNat n]
  else if n < 0x800 then [UInt8.ofNat (0xC0 + n / 64), UInt8.ofNat (0x80 + n % 64)]
  else if n < 0x10000 then
    [UInt8.ofNat (0xE0 + n / 4096), UInt8.ofNat (0x80 + n / 64 % 64), UInt8.ofNat (0x80 + n % 64)]
  else
    [UInt8.ofNat (0xF0 + n / 262144), UInt8.ofNat (0x80 + n / 4096 % 64),
      UInt8.ofNat (0x80 + n / 64 % 64), UInt8.ofNat (0x80 + n % 64)]

/-- The bytes of a text. -/
def encode (cs : List Char) : Bytes := cs.flatMap encodeChar

/-- What the first byte of a character tells of those after it: its own share of the character, how many
bytes follow the second one, and between which bounds the second one has to lie. -/
structure Lead where
  bits : Nat
  further : Nat
  low : Nat
  high : Nat

/-- The first bytes that open a character of several bytes. The bounds of the second byte leave out the
overlong forms, the surrogates and what lies past the last character. -/
def lead? (b : Nat) : Option Lead :=
  if b < 0xC2 then none
  else if b < 0xE0 then some ⟨b - 0xC0, 0, 0x80, 0xBF⟩
  else if b = 0xE0 then some ⟨0, 1, 0xA0, 0xBF⟩
  else if b = 0xED then some ⟨0xD, 1, 0x80, 0x9F⟩
  else if b < 0xF0 then some ⟨b - 0xE0, 1, 0x80, 0xBF⟩
  else if b = 0xF0 then some ⟨0, 2, 0x90, 0xBF⟩
  else if b < 0xF4 then some ⟨b - 0xF0, 2, 0x80, 0xBF⟩
  else if b = 0xF4 then some ⟨4, 2, 0x80, 0x8F⟩
  else none

/-- Reads `count` continuation bytes behind the number `bits`; the rest starts at the first byte that does
not continue the character. -/
def continuation (bits : Nat) : (count : Nat) → Bytes → Option Nat × Bytes
  | 0, bytes => (some bits, bytes)
  | _ + 1, [] => (none, [])
  | count + 1, b :: bytes =>
    if 0x80 ≤ b.toNat && b.toNat ≤ 0xBF then
      continuation (64 * bits + (b.toNat - 0x80)) count bytes
    else (none, b :: bytes)

/-- Takes one character, or one maximal part that is no character, off a byte string that starts with
`first`. -/
def scan (first : UInt8) (bytes : Bytes) : Option Nat × Bytes :=
  if first.toNat < 0x80 then (some first.toNat, bytes)
  else match lead? first.toNat, bytes with
    | none, _ => (none, bytes)
    | some _, [] => (none, [])
    | some lead, second :: rest =>
      if lead.low ≤ second.toNat && second.toNat ≤ lead.high then
        continuation (64 * lead.bits + (second.toNat - 0x80)) lead.further rest
      else (none, bytes)

private theorem continuation_length_le (bits count : Nat) (bytes : Bytes) :
    (continuation bits count bytes).2.length ≤ bytes.length := by
  induction bytes generalizing bits count with
  | nil => cases count <;> simp [continuation]
  | cons b bytes ih =>
    cases count with
    | zero => simp [continuation]
    | succ count =>
      rw [continuation]
      split
      · exact Nat.le_trans (ih _ _) (by simp)
      · simp

/-- Taking a character off the front leaves no more bytes than there were behind its first one. -/
private theorem scan_length_le (first : UInt8) (bytes : Bytes) :
    (scan first bytes).2.length ≤ bytes.length := by
  unfold scan
  split
  · simp
  · split
    · simp
    · simp
    · split
      · exact Nat.le_trans (continuation_length_le _ _ _) (by simp)
      · simp

/-- Reads any byte string, with a replacement character for each part that is no character. -/
def decodeLossy : Bytes → List Char
  | [] => []
  | b :: bytes =>
    (match (scan b bytes).1 with
      | some n => Char.ofNat n
      | none => '\uFFFD') :: decodeLossy (scan b bytes).2
termination_by bytes => bytes.length
decreasing_by exact Nat.lt_succ_of_le (scan_length_le b bytes)

/-- Reads a byte string that consists of characters and nothing else. -/
def decode? : Bytes → Option (List Char)
  | [] => some []
  | b :: bytes =>
    (scan b bytes).1.bind fun n => (decode? (scan b bytes).2).map (Char.ofNat n :: ·)
termination_by bytes => bytes.length
decreasing_by exact Nat.lt_succ_of_le (scan_length_le b bytes)

end TokenClient.Text.Utf8
