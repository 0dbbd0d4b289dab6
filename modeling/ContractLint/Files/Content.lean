import ContractLint.Source.Glyph
import ContractLint.Text.Utf8

/-! What files hold. -/

namespace ContractLint.Files

/-- What a file holds: bytes, a run of one letter, an archive, or the start of something longer.
The members of an archive have names; a member without content is a directory. -/
inductive Content
  | bytes (data : List UInt8)
  | filler (size : Nat)
  | archive (isCompressed : Bool) (members : List (String × Option Content))
  | start (whole : Content) (size : Nat)
deriving Inhabited

namespace Content

def ofText (text : String) : Content := .bytes (Text.encodeUtf8 text.toList)

/-- Every archive counts as one block: nothing depends on how well it is packed. -/
def archiveSize : Nat := 512

def size : Content → Nat
  | .bytes data => data.length
  | .filler size => size
  | .archive _ _ => archiveSize
  | .start _ size => size

/-- The first bytes of a content. -/
def first (content : Content) (count : Nat) : Content :=
  if content.size ≤ count then content else .start content count

/-- The letter that fills files. -/
def fillerByte : UInt8 := 0x78

/-- The first byte of a packed archive is no UTF-8. -/
def packedByte : UInt8 := 0xFD

def raw : Content → List UInt8
  | .bytes data => data
  | .filler size => List.replicate size fillerByte
  | .archive true _ => [packedByte]
  | .archive false _ => [0]
  | .start whole size => whole.raw.take size

/-- The text of a content, all its line ends alike. -/
def text (content : Content) : Except Text.Utf8Fault String := do
  return String.ofList (Source.unifyNewlines (← Text.decodeUtf8 content.raw))

end Content

/-- A set of letters, each of which is one byte. Those of ASCII are in it. -/
structure Charset where
  letter : UInt8 → Char
  ascii : ∀ byte : UInt8, byte < 128 → letter byte = Char.ofNat byte.toNat

/-- How files are taken for text where nothing else is said. -/
inductive Encoding
  | utf8
  | bytewise (charset : Charset)

/-- The text of a content in an encoding. -/
def Encoding.text (encoding : Encoding) (content : Content) : Except Text.Utf8Fault String :=
  match encoding with
  | .utf8 => content.text
  | .bytewise charset =>
    .ok (String.ofList (Source.unifyNewlines (content.raw.map charset.letter)))

end ContractLint.Files
