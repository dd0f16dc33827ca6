import TokenClient.Text.Utf8

/-!
# Character encodings

How PINs, user names and text attributes travel: as UTF-8, or for old modules as Latin-1, where a
character beyond U+00FF becomes a question mark. Reading never fails in either encoding.
-/

namespace TokenClient

/-- The encoding in which a module expects texts. -/
inductive Encoding where
  | utf8
  | latin1
deriving DecidableEq, Repr

namespace Encoding

/-- The encoding that a configuration asks for. -/
def ofUseUtf8 (useUtf8 : Bool) : Encoding := if useUtf8 then utf8 else latin1

/-- The Latin-1 byte of a character. -/
def latin1Byte (c : Char) : UInt8 := if c.toNat < 256 then UInt8.ofNat c.toNat else 0x3F

/-- The bytes of a text. -/
def encode : Encoding → String → Bytes
  | utf8, text => Text.Utf8.encode text.toList
  | latin1, text => text.toList.map latin1Byte

/-- The text that bytes stand for. -/
def decode : Encoding → Bytes → String
  | utf8, bytes => String.ofList (Text.Utf8.decodeLossy bytes)
  | latin1, bytes => String.ofList (bytes.map fun b => Char.ofNat b.toNat)

end Encoding

end TokenClient
