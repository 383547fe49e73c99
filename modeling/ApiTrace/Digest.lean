import ApiTrace.Text.Numeral

/-!
# SHA-256 digests

The SHA-256 digest of a byte string, its hexadecimal text, and the digest of a list of lines, in
which every line is closed by a zero byte so that the division into lines counts.
-/

namespace ApiTrace.Digest

/-- The eight words of the running hash. -/
structure State where
  a : UInt32
  b : UInt32
  c : UInt32
  d : UInt32
  e : UInt32
  f : UInt32
  g : UInt32
  h : UInt32
  deriving DecidableEq, Repr

/-- The hash before the first block. -/
def initial : State :=
  ⟨0x6a09e667, 0xbb67ae85, 0x3c6ef372, 0xa54ff53a, 0x510e527f, 0x9b05688c, 0x1f83d9ab, 0x5be0cd19⟩

/-- The constants of the sixty-four rounds. -/
def roundConstants : List UInt32 := [
  0x428a2f98, 0x71374491, 0xb5c0fbcf, 0xe9b5dba5, 0x3956c25b, 0x59f111f1, 0x923f82a4, 0xab1c5ed5,
  0xd807aa98, 0x12835b01, 0x243185be, 0x550c7dc3, 0x72be5d74, 0x80deb1fe, 0x9bdc06a7, 0xc19bf174,
  0xe49b69c1, 0xefbe4786, 0x0fc19dc6, 0x240ca1cc, 0x2de92c6f, 0x4a7484aa, 0x5cb0a9dc, 0x76f988da,
  0x983e5152, 0xa831c66d, 0xb00327c8, 0xbf597fc7, 0xc6e00bf3, 0xd5a79147, 0x06ca6351, 0x14292967,
  0x27b70a85, 0x2e1b2138, 0x4d2c6dfc, 0x53380d13, 0x650a7354, 0x766a0abb, 0x81c2c92e, 0x92722c85,
  0xa2bfe8a1, 0xa81a664b, 0xc24b8b70, 0xc76c51a3, 0xd192e819, 0xd6990624, 0xf40e3585, 0x106aa070,
  0x19a4c116, 0x1e376c08, 0x2748774c, 0x34b0bcb5, 0x391c0cb3, 0x4ed8aa4a, 0x5b9cca4f, 0x682e6ff3,
  0x748f82ee, 0x78a5636f, 0x84c87814, 0x8cc70208, 0x90befffa, 0xa4506ceb, 0xbef9a3f7, 0xc67178f2]

/-- Rotation to the right. -/
def rotate (word : UInt32) (amount : UInt32) : UInt32 :=
  (word >>> amount) ||| (word <<< (32 - amount))

/-- The next word of a message schedule. -/
def nextWord (schedule : Array UInt32) : UInt32 :=
  let word (back : Nat) : UInt32 := schedule[schedule.size - back]?.getD 0
  let early := word 15
  let late := word 2
  word 16 + (rotate early 7 ^^^ rotate early 18 ^^^ (early >>> 3)) + word 7 +
    (rotate late 17 ^^^ rotate late 19 ^^^ (late >>> 10))

/-- Append `count` words to a message schedule. -/
def extend (schedule : Array UInt32) : Nat → Array UInt32
  | 0 => schedule
  | count + 1 => extend (schedule.push (nextWord schedule)) count

/-- One round with its constant and its word of the schedule. -/
def round (s : State) (input : UInt32 × UInt32) : State :=
  let choice := (s.e &&& s.f) ^^^ (~~~s.e &&& s.g)
  let majority := (s.a &&& s.b) ^^^ (s.a &&& s.c) ^^^ (s.b &&& s.c)
  let first := s.h + (rotate s.e 6 ^^^ rotate s.e 11 ^^^ rotate s.e 25) + choice + input.1 + input.2
  let second := (rotate s.a 2 ^^^ rotate s.a 13 ^^^ rotate s.a 22) + majority
  ⟨first + second, s.a, s.b, s.c, s.d + first, s.e, s.f, s.g⟩

/-- The big-endian words of a block. -/
def blockWords : List UInt8 → List UInt32
  | first :: second :: third :: fourth :: bytes =>
    ((first.toUInt32 <<< 24) ||| (second.toUInt32 <<< 16) ||| (third.toUInt32 <<< 8) |||
      fourth.toUInt32) :: blockWords bytes
  | _ => []

/-- The hash after one more block of sixty-four bytes. -/
def absorbBlock (s : State) (block : List UInt8) : State :=
  let schedule := extend (blockWords block).toArray 48
  let t := (roundConstants.zip schedule.toList).foldl round s
  ⟨s.a + t.a, s.b + t.b, s.c + t.c, s.d + t.d, s.e + t.e, s.f + t.f, s.g + t.g, s.h + t.h⟩

/-- The hash after all blocks of a padded message. -/
def absorb (s : State) (bytes : List UInt8) : State :=
  if bytes.isEmpty then s else absorb (absorbBlock s (bytes.take 64)) (bytes.drop 64)
termination_by bytes.length
decreasing_by
  rename_i nonempty
  cases bytes with
  | nil => simp at nonempty
  | cons => simp only [List.length_drop, List.length_cons]; omega

/-- The bytes of a number, the highest first. -/
def bigEndian (number : Nat) : Nat → List UInt8
  | 0 => []
  | count + 1 => bigEndian (number / 256) count ++ [UInt8.ofNat (number % 256)]

/-- What follows a message of `length` bytes: a one bit, zero bits, and the length in bits. -/
def padding (length : Nat) : List UInt8 :=
  0x80 :: List.replicate ((119 - length % 64) % 64) 0 ++ bigEndian (length * 8) 8

/-- The digest of a message. -/
def sha256 (bytes : List UInt8) : List UInt8 :=
  let s := absorb initial (bytes ++ padding bytes.length)
  [s.a, s.b, s.c, s.d, s.e, s.f, s.g, s.h].flatMap fun word => bigEndian word.toNat 4

/-- Two hexadecimal digits for every byte. -/
def hex (bytes : List UInt8) : String :=
  String.ofList (bytes.flatMap fun byte => Text.hexByte byte.toNat)

/-- The digest of a text as hexadecimal digits. -/
def ofText (text : String) : String :=
  hex (sha256 text.toUTF8.toList)

/-- The digest of lines, each closed by a zero byte. -/
def ofLines (lines : List String) : String :=
  hex (sha256 (lines.flatMap fun line => line.toUTF8.toList ++ [0]))

end ApiTrace.Digest
