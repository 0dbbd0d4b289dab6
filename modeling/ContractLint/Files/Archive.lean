import ContractLint.Files.Content

/-! Archives: their members, and why something else is none. -/

namespace ContractLint.Files

abbrev Members := List (String × Option Content)

/-- An archive consists of blocks of this size. -/
def blockSize : Nat := 512

/-- Where a block has its checksum, in octal digits. -/
def checksumField (block : List UInt8) : List Char :=
  ((block.drop 148).take 8).map fun byte => Char.ofNat byte.toNat

def isOctal (c : Char) : Bool := '0' ≤ c && c ≤ '7'

/-- Blanks around octal digits, up to the first zero byte. Blanks alone count as zero. -/
def isOctalNumber (field : List Char) : Bool :=
  let blank (c : Char) := c = ' ' || ('\t' ≤ c && c ≤ '\r')
  let text := (field.takeWhile (· != Char.ofNat 0)).dropWhile blank
  ((text.dropWhile isOctal).all blank)

/-- Why bytes are no archive. A block of zeros ends an archive. -/
def archiveProblem? (data : List UInt8) : Option String :=
  let block := data.take blockSize
  if block.isEmpty then some "empty file"
  else if block.length < blockSize then some "truncated header"
  else if block.all (· = 0) then none
  else if isOctalNumber (checksumField block) then some "bad checksum"
  else some "invalid header"

/-- The members of an archive that is not packed, or why it is none. -/
def Content.members : Content → Except String Members
  | .archive false members => .ok members
  | .archive true _ => .error "invalid header"
  | other =>
    match archiveProblem? other.raw with
    | some problem => .error problem
    | none => .ok []

/-- The members of a packed archive, or why it is none. -/
def Content.packedMembers : Content → Except String Members
  | .archive true members => .ok members
  | _ => .error "not an lzma file"

/-- The last member of that name. Slashes at the end of the name do not count. -/
def memberNamed? (members : Members) (name : String) : Option (Option Content) :=
  let wanted := String.ofList (name.toList.reverse.dropWhile (· = '/')).reverse
  members.reverse.lookup wanted

end ContractLint.Files
