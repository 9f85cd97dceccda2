import ReplayRegistry.Bytes

/-!
# SHA-1

The 160-bit secure hash of a byte string. The message is padded to whole blocks of sixteen
big-endian words; each block is stretched to eighty words that stir a state of five words.
-/

namespace ReplayRegistry.Sha1

/-- The five chaining words. -/
structure State where
  a : UInt32
  b : UInt32
  c : UInt32
  d : UInt32
  e : UInt32
deriving DecidableEq

/-- The state before the first block. -/
def initial : State := ⟨0x67452301, 0xEFCDAB89, 0x98BADCFE, 0x10325476, 0xC3D2E1F0⟩

/-- Rotate a word left by `n` bits, `0 < n < 32`. -/
def rotateLeft (x : UInt32) (n : UInt32) : UInt32 := (x <<< n) ||| (x >>> (32 - n))

/-- The four bytes of a word, most significant first. -/
def wordBytes (x : UInt32) : Bytes :=
  [(x >>> 24).toUInt8, (x >>> 16).toUInt8, (x >>> 8).toUInt8, x.toUInt8]

/-- Read a byte string as big-endian words; an incomplete last word is dropped. -/
def words : Bytes → List UInt32
  | p :: q :: r :: s :: rest =>
    ((p.toUInt32 <<< 24) ||| (q.toUInt32 <<< 16) ||| (r.toUInt32 <<< 8) ||| s.toUInt32) ::
      words rest
  | _ => []

/-- The message, the bit `1`, zeros up to eight bytes short of a block, and the bit length. -/
def pad (message : Bytes) : Bytes :=
  let bits := 8 * message.length
  message ++ 0x80 :: List.replicate ((119 - message.length % 64) % 64) 0 ++
    wordBytes (UInt32.ofNat (bits.shiftRight 32)) ++ wordBytes (UInt32.ofNat bits)

/-- Prepend `n` more schedule words to the words so far, which are held newest first. -/
def stretch : Nat → List UInt32 → List UInt32
  | 0, ws => ws
  | n + 1, ws =>
    stretch n (rotateLeft (ws.getD 2 0 ^^^ ws.getD 7 0 ^^^ ws.getD 13 0 ^^^ ws.getD 15 0) 1 :: ws)

/-- The eighty schedule words of a block of sixteen. -/
def schedule (block : List UInt32) : List UInt32 := (stretch 64 block.reverse).reverse

/-- The mixing function and constant of round `t`. -/
def mix (t : Nat) (b c d : UInt32) : UInt32 :=
  if t < 20 then ((b &&& c) ||| ((b ^^^ 0xFFFFFFFF) &&& d)) + 0x5A827999
  else if t < 40 then (b ^^^ c ^^^ d) + 0x6ED9EBA1
  else if t < 60 then ((b &&& c) ||| (b &&& d) ||| (c &&& d)) + 0x8F1BBCDC
  else (b ^^^ c ^^^ d) + 0xCA62C1D6

/-- Stir the state with the schedule words from round `t` on. -/
def rounds : Nat → List UInt32 → State → State
  | _, [], s => s
  | t, w :: ws, s =>
    rounds (t + 1) ws
      ⟨rotateLeft s.a 5 + mix t s.b s.c s.d + s.e + w, s.a, rotateLeft s.b 30, s.c, s.d⟩

/-- Absorb one block. -/
def absorb (s : State) (block : List UInt32) : State :=
  let r := rounds 0 (schedule block) s
  ⟨s.a + r.a, s.b + r.b, s.c + r.c, s.d + r.d, s.e + r.e⟩

/-- Absorb `n` blocks of sixteen words. -/
def absorbBlocks : Nat → List UInt32 → State → State
  | 0, _, s => s
  | n + 1, ws, s => absorbBlocks n (ws.drop 16) (absorb s (ws.take 16))

/-- The twenty digest bytes of a message. -/
def digest (message : Bytes) : Bytes :=
  let ws := words (pad message)
  let s := absorbBlocks (ws.length / 16) ws initial
  wordBytes s.a ++ wordBytes s.b ++ wordBytes s.c ++ wordBytes s.d ++ wordBytes s.e

end ReplayRegistry.Sha1
