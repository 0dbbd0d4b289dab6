/-! UTF-8: the bytes of a text, and the text of bytes that may be none. -/

namespace ContractLint.Text

def encodeUtf8 (text : List Char) : List UInt8 := text.flatMap String.utf8EncodeChar

inductive Utf8Problem
  | startByte
  | continuationByte
  | endOfData
deriving Repr, DecidableEq

def Utf8Problem.text : Utf8Problem → String
  | .startByte => "invalid start byte"
  | .continuationByte => "invalid continuation byte"
  | .endOfData => "unexpected end of data"

/-- Bytes that are no UTF-8: `count` of them from `position` on, the first one being `byte`. -/
structure Utf8Fault where
  problem : Utf8Problem
  byte : UInt8
  position : Nat
  count : Nat
deriving Repr, DecidableEq

def hexPair (value : Nat) : String :=
  let digits := Nat.toDigits 16 value
  String.ofList (List.replicate (2 - digits.length) '0' ++ digits)

def Utf8Fault.message (fault : Utf8Fault) : String :=
  let place :=
    if fault.count = 1 then
      "byte 0x" ++ hexPair fault.byte.toNat ++ " in position " ++ toString fault.position
    else
      "bytes in position " ++ toString fault.position ++ "-" ++
        toString (fault.position + fault.count - 1)
  "'utf-8' codec can't decode " ++ place ++ ": " ++ fault.problem.text

def isContinuation (byte : UInt8) : Bool := 0x80 ≤ byte && byte ≤ 0xBF

/-- Which second bytes may follow a first byte of three or four: those that give no overlong form,
no surrogate and nothing above the last code. -/
def mayFollow (first second : UInt8) : Bool :=
  isContinuation second && !(first = 0xE0 && second < 0xA0) && !(first = 0xED && 0xA0 ≤ second) &&
    !(first = 0xF0 && second < 0x90) && !(first = 0xF4 && 0x90 ≤ second)

/-- The low six bits of a byte after the first. -/
def lowBits (byte : UInt8) : Nat := byte.toNat % 64

/-- Reads on from a position; the characters before it are in `done`, last one first. -/
def decodeFrom (done : List Char) (position : Nat) : List UInt8 → Except Utf8Fault (List Char)
  | [] => .ok done.reverse
  | a :: rest =>
    if a < 0x80 then decodeFrom (Char.ofNat a.toNat :: done) (position + 1) rest
    else if a < 0xC2 || 0xF4 < a then .error ⟨.startByte, a, position, 1⟩
    else match rest with
      | [] => .error ⟨.endOfData, a, position, 1⟩
      | b :: rest =>
        if !mayFollow a b then .error ⟨.continuationByte, a, position, 1⟩
        else if a < 0xE0 then
          decodeFrom (Char.ofNat (a.toNat % 32 * 64 + lowBits b) :: done) (position + 2) rest
        else match rest with
          | [] => .error ⟨.endOfData, a, position, 2⟩
          | c :: rest =>
            if !isContinuation c then .error ⟨.continuationByte, a, position, 2⟩
            else if a < 0xF0 then
              decodeFrom
                (Char.ofNat ((a.toNat % 16 * 64 + lowBits b) * 64 + lowBits c) :: done)
                (position + 3) rest
            else match rest with
              | [] => .error ⟨.endOfData, a, position, 3⟩
              | d :: rest =>
                if !isContinuation d then .error ⟨.continuationByte, a, position, 3⟩
                else
                  decodeFrom
                    (Char.ofNat
                      (((a.toNat % 8 * 64 + lowBits b) * 64 + lowBits c) * 64 + lowBits d) :: done)
                    (position + 4) rest

def decodeUtf8 (bytes : List UInt8) : Except Utf8Fault (List Char) := decodeFrom [] 0 bytes

end ContractLint.Text
