/-! SHA-256 over byte lists, and the keyed hash built on it. -/

namespace Sha256

/-- The round constants of the compression function. -/
def roundConstants : List UInt32 := [
  0x428a2f98, 0x71374491, 0xb5c0fbcf, 0xe9b5dba5, 0x3956c25b, 0x59f111f1, 0x923f82a4, 0xab1c5ed5,
  0xd807aa98, 0x12835b01, 0x243185be, 0x550c7dc3, 0x72be5d74, 0x80deb1fe, 0x9bdc06a7, 0xc19bf174,
  0xe49b69c1, 0xefbe4786, 0x0fc19dc6, 0x240ca1cc, 0x2de92c6f, 0x4a7484aa, 0x5cb0a9dc, 0x76f988da,
  0x983e5152, 0xa831c66d, 0xb00327c8, 0xbf597fc7, 0xc6e00bf3, 0xd5a79147, 0x06ca6351, 0x14292967,
  0x27b70a85, 0x2e1b2138, 0x4d2c6dfc, 0x53380d13, 0x650a7354, 0x766a0abb, 0x81c2c92e, 0x92722c85,
  0xa2bfe8a1, 0xa81a664b, 0xc24b8b70, 0xc76c51a3, 0xd192e819, 0xd6990624, 0xf40e3585, 0x106aa070,
  0x19a4c116, 0x1e376c08, 0x2748774c, 0x34b0bcb5, 0x391c0cb3, 0x4ed8aa4a, 0x5b9cca4f, 0x682e6ff3,
  0x748f82ee, 0x78a5636f, 0x84c87814, 0x8cc70208, 0x90befffa, 0xa4506ceb, 0xbef9a3f7, 0xc67178f2]

def rotateRight (x n : UInt32) : UInt32 := (x >>> n) ||| (x <<< (32 - n))

/-- The eight working variables. -/
structure Working where
  (a b c d e f g h : UInt32)

def initial : Working :=
  ⟨0x6a09e667, 0xbb67ae85, 0x3c6ef372, 0xa54ff53a, 0x510e527f, 0x9b05688c, 0x1f83d9ab, 0x5be0cd19⟩

/-- One of the 64 rounds, for a constant and a schedule word. -/
def round (s : Working) (constant word : UInt32) : Working :=
  let sum1 := rotateRight s.e 6 ^^^ rotateRight s.e 11 ^^^ rotateRight s.e 25
  let choice := (s.e &&& s.f) ^^^ (~~~ s.e &&& s.g)
  let t1 := s.h + sum1 + choice + constant + word
  let sum0 := rotateRight s.a 2 ^^^ rotateRight s.a 13 ^^^ rotateRight s.a 22
  let majority := (s.a &&& s.b) ^^^ (s.a &&& s.c) ^^^ (s.b &&& s.c)
  ⟨t1 + (sum0 + majority), s.a, s.b, s.c, s.d + t1, s.e, s.f, s.g⟩

/-- Extends a message schedule, kept with its latest word first. -/
def extend : Nat → List UInt32 → List UInt32
  | 0, schedule => schedule
  | n + 1, schedule =>
      let w15 := schedule.getD 14 0
      let w2 := schedule.getD 1 0
      let sigma0 := rotateRight w15 7 ^^^ rotateRight w15 18 ^^^ (w15 >>> 3)
      let sigma1 := rotateRight w2 17 ^^^ rotateRight w2 19 ^^^ (w2 >>> 10)
      extend n ((schedule.getD 15 0 + sigma0 + schedule.getD 6 0 + sigma1) :: schedule)

/-- The compression function on one block of sixteen words. -/
def compress (s : Working) (block : List UInt32) : Working :=
  let schedule := (extend 48 block.reverse).reverse
  let t := (roundConstants.zip schedule).foldl (fun s kw => round s kw.1 kw.2) s
  ⟨s.a + t.a, s.b + t.b, s.c + t.c, s.d + t.d, s.e + t.e, s.f + t.f, s.g + t.g, s.h + t.h⟩

/-- The last `width` bytes of a number, most significant first. -/
def bigEndian (n : Nat) : Nat → List UInt8
  | 0 => []
  | width + 1 => bigEndian (n / 256) width ++ [UInt8.ofNat (n % 256)]

/-- A one bit, zeros to a multiple of the block length, and the length in bits. -/
def pad (message : List UInt8) : List UInt8 :=
  message ++ 0x80 :: List.replicate ((119 - message.length % 64) % 64) 0
    ++ bigEndian (8 * message.length) 8

def words : List UInt8 → List UInt32
  | a :: b :: c :: d :: rest =>
      ((a.toUInt32 <<< 24) ||| (b.toUInt32 <<< 16) ||| (c.toUInt32 <<< 8) ||| d.toUInt32)
        :: words rest
  | _ => []

/-- Compresses sixteen words at a time; `count` bounds the number of blocks. -/
def absorb : Nat → Working → List UInt32 → Working
  | 0, s, _ => s
  | count + 1, s, schedule =>
      if schedule.isEmpty then s
      else absorb count (compress s (schedule.take 16)) (schedule.drop 16)

/-- The digest as a number below 2^256. -/
def digest (message : List UInt8) : Nat :=
  let schedule := words (pad message)
  let s := absorb schedule.length initial schedule
  [s.a, s.b, s.c, s.d, s.e, s.f, s.g, s.h].foldl (fun n word => n * 0x100000000 + word.toNat) 0

example
    : digest "abc".toUTF8.toList
      = 0xba7816bf8f01cfea414140de5dae2223b00361a396177a9cb410ff61f20015ad := by
  decide +kernel

/-- The last `width` hexadecimal digits of a number. -/
def hexDigits (n : Nat) : Nat → List Char
  | 0 => []
  | width + 1 => hexDigits (n / 16) width ++ [Nat.digitChar (n % 16)]

/-- The digest of a text's UTF-8 bytes, in 64 hexadecimal digits. -/
def hexdigest (text : String) : String :=
  String.ofList (hexDigits (digest text.toUTF8.toList) 64)

theorem hexDigits_length (n width : Nat) : (hexDigits n width).length = width := by
  induction width generalizing n with
  | zero => rfl
  | succ width ih => simp [hexDigits, ih]

theorem hexdigest_ne_empty (text : String) : hexdigest text ≠ "" := by
  intro empty
  have length := congrArg String.length empty
  simp [hexdigest, String.length_ofList, hexDigits_length] at length

/-- A key of one block: a longer one is hashed first, a shorter one filled with zeros. -/
def blockKey (key : List UInt8) : List UInt8 :=
  let key := if 64 < key.length then bigEndian (digest key) 32 else key
  key ++ List.replicate (64 - key.length) 0

/-- HMAC with SHA-256. -/
def hmac (key message : List UInt8) : Nat :=
  let inner := digest ((blockKey key).map (· ^^^ 0x36) ++ message)
  digest ((blockKey key).map (· ^^^ 0x5c) ++ bigEndian inner 32)

example
    : hmac "key".toUTF8.toList "The quick brown fox jumps over the lazy dog".toUTF8.toList
      = 0xf7bc83f430538424b13298e6aa6fb143ef4d59a14946175997479dbc2d1a3cd8 := by
  decide +kernel

/-- Hexadecimal digits are digits or letters of ASCII, by induction over the width. -/
theorem hexDigits_ascii (n width : Nat)
    : ∀ c ∈ hexDigits n width, c ≠ '\x00' ∧ c.val < 128 := by
  induction width generalizing n with
  | zero => exact fun _ member => nomatch member
  | succ width ih =>
      intro c member
      rcases List.mem_append.mp member with earlier | last
      · exact ih _ c earlier
      · have digit : ∀ k < 16, Nat.digitChar k ≠ '\x00' ∧ (Nat.digitChar k).val < 128 := by
          decide
        rw [List.mem_singleton.mp last]
        exact digit _ (Nat.mod_lt _ (by decide))

end Sha256
