/-!
# The SHA-2 digests

Two compression functions, on words of 32 and of 64 bits, give the digests that
sign tokens. A message is padded with a one bit, zeros and its length in bits to
a whole number of blocks, and the blocks are folded into the state.
-/

namespace ApiGateway.Crypto

/-- The digests that a token header may name. -/
inductive Digest where
  | sha256 | sha384 | sha512
deriving DecidableEq

namespace Sha2

private def constants32 : Array UInt32 := #[
  0x428a2f98, 0x71374491, 0xb5c0fbcf, 0xe9b5dba5, 0x3956c25b, 0x59f111f1, 0x923f82a4,
  0xab1c5ed5, 0xd807aa98, 0x12835b01, 0x243185be, 0x550c7dc3, 0x72be5d74, 0x80deb1fe,
  0x9bdc06a7, 0xc19bf174, 0xe49b69c1, 0xefbe4786, 0x0fc19dc6, 0x240ca1cc, 0x2de92c6f,
  0x4a7484aa, 0x5cb0a9dc, 0x76f988da, 0x983e5152, 0xa831c66d, 0xb00327c8, 0xbf597fc7,
  0xc6e00bf3, 0xd5a79147, 0x06ca6351, 0x14292967, 0x27b70a85, 0x2e1b2138, 0x4d2c6dfc,
  0x53380d13, 0x650a7354, 0x766a0abb, 0x81c2c92e, 0x92722c85, 0xa2bfe8a1, 0xa81a664b,
  0xc24b8b70, 0xc76c51a3, 0xd192e819, 0xd6990624, 0xf40e3585, 0x106aa070, 0x19a4c116,
  0x1e376c08, 0x2748774c, 0x34b0bcb5, 0x391c0cb3, 0x4ed8aa4a, 0x5b9cca4f, 0x682e6ff3,
  0x748f82ee, 0x78a5636f, 0x84c87814, 0x8cc70208, 0x90befffa, 0xa4506ceb, 0xbef9a3f7,
  0xc67178f2]

private def constants64 : Array UInt64 := #[
  0x428a2f98d728ae22, 0x7137449123ef65cd, 0xb5c0fbcfec4d3b2f, 0xe9b5dba58189dbbc,
  0x3956c25bf348b538, 0x59f111f1b605d019, 0x923f82a4af194f9b, 0xab1c5ed5da6d8118,
  0xd807aa98a3030242, 0x12835b0145706fbe, 0x243185be4ee4b28c, 0x550c7dc3d5ffb4e2,
  0x72be5d74f27b896f, 0x80deb1fe3b1696b1, 0x9bdc06a725c71235, 0xc19bf174cf692694,
  0xe49b69c19ef14ad2, 0xefbe4786384f25e3, 0x0fc19dc68b8cd5b5, 0x240ca1cc77ac9c65,
  0x2de92c6f592b0275, 0x4a7484aa6ea6e483, 0x5cb0a9dcbd41fbd4, 0x76f988da831153b5,
  0x983e5152ee66dfab, 0xa831c66d2db43210, 0xb00327c898fb213f, 0xbf597fc7beef0ee4,
  0xc6e00bf33da88fc2, 0xd5a79147930aa725, 0x06ca6351e003826f, 0x142929670a0e6e70,
  0x27b70a8546d22ffc, 0x2e1b21385c26c926, 0x4d2c6dfc5ac42aed, 0x53380d139d95b3df,
  0x650a73548baf63de, 0x766a0abb3c77b2a8, 0x81c2c92e47edaee6, 0x92722c851482353b,
  0xa2bfe8a14cf10364, 0xa81a664bbc423001, 0xc24b8b70d0f89791, 0xc76c51a30654be30,
  0xd192e819d6ef5218, 0xd69906245565a910, 0xf40e35855771202a, 0x106aa07032bbd1b8,
  0x19a4c116b8d2d0c8, 0x1e376c085141ab53, 0x2748774cdf8eeb99, 0x34b0bcb5e19b48a8,
  0x391c0cb3c5c95a63, 0x4ed8aa4ae3418acb, 0x5b9cca4f7763e373, 0x682e6ff3d6b2b8a3,
  0x748f82ee5defb2fc, 0x78a5636f43172f60, 0x84c87814a1f0ab72, 0x8cc702081a6439ec,
  0x90befffa23631e28, 0xa4506cebde82bde9, 0xbef9a3f7b2c67915, 0xc67178f2e372532b,
  0xca273eceea26619c, 0xd186b8c721c0c207, 0xeada7dd6cde0eb1e, 0xf57d4f7fee6ed178,
  0x06f067aa72176fba, 0x0a637dc5a2c898a6, 0x113f9804bef90dae, 0x1b710b35131c471b,
  0x28db77f523047d84, 0x32caab7b40c72493, 0x3c9ebe0a15c9bebc, 0x431d67c49c100d4c,
  0x4cc5d4becb3e42b6, 0x597f299cfc657e2a, 0x5fcb6fab3ad6faec, 0x6c44198c4a475817]

private def initial256 : Array UInt32 := #[
  0x6a09e667, 0xbb67ae85, 0x3c6ef372, 0xa54ff53a, 0x510e527f, 0x9b05688c, 0x1f83d9ab, 0x5be0cd19]

private def initial384 : Array UInt64 := #[
  0xcbbb9d5dc1059ed8, 0x629a292a367cd507, 0x9159015a3070dd17, 0x152fecd8f70e5939,
  0x67332667ffc00b31, 0x8eb44a8768581511, 0xdb0c2e0d64f98fa7, 0x47b5481dbefa4fa4]

private def initial512 : Array UInt64 := #[
  0x6a09e667f3bcc908, 0xbb67ae8584caa73b, 0x3c6ef372fe94f82b, 0xa54ff53a5f1d36f1,
  0x510e527fade682d1, 0x9b05688c2b3e6c1f, 0x1f83d9abfb41bd6b, 0x5be0cd19137e2179]

/-- A number in big-endian bytes of a fixed count. -/
def bigEndian (count value : Nat) : List UInt8 :=
  (List.range count).map fun index => UInt8.ofNat (value / Nat.pow 256 (count - 1 - index))

/-- The number written by big-endian bytes. -/
def ofBigEndian (bytes : List UInt8) : Nat :=
  bytes.foldl (fun value byte => value * 256 + byte.toNat) 0

/-- Pad a message to whole blocks; the last `lengthBytes` bytes hold its length in bits. -/
def pad (blockBytes lengthBytes : Nat) (message : List UInt8) : List UInt8 :=
  let used := message.length + 1 + lengthBytes
  let zeros := (blockBytes - used % blockBytes) % blockBytes
  message ++ 0x80 :: (List.replicate zeros 0 ++ bigEndian lengthBytes (8 * message.length))

/-- Cut a list into pieces of a positive size; the fuel bounds the number of pieces. -/
def chunks (size : Nat) : Nat → List UInt8 → List (List UInt8)
  | 0, _ => []
  | fuel + 1, bytes =>
    if bytes.isEmpty then [] else bytes.take size :: chunks size fuel (bytes.drop size)

private def rotate32 (x : UInt32) (n : UInt32) : UInt32 := (x >>> n) ||| (x <<< (32 - n))
private def rotate64 (x : UInt64) (n : UInt64) : UInt64 := (x >>> n) ||| (x <<< (64 - n))

/-- The sixty-four words that one block of 64 bytes is mixed with. -/
private def schedule32 (block : List UInt8) : Array UInt32 :=
  let start := ((chunks 4 16 block).map fun word => UInt32.ofNat (ofBigEndian word)).toArray
  (List.range 48).foldl (fun words index =>
    let w := fun offset => words.getD (index + offset) 0
    let s0 := rotate32 (w 1) 7 ^^^ rotate32 (w 1) 18 ^^^ (w 1 >>> 3)
    let s1 := rotate32 (w 14) 17 ^^^ rotate32 (w 14) 19 ^^^ (w 14 >>> 10)
    words.push (w 0 + s0 + w 9 + s1)) start

/-- Fold one block of 64 bytes into the state. -/
private def compress32 (state : Array UInt32) (block : List UInt8) : Array UInt32 :=
  let words := schedule32 block
  let mixed := (List.range 64).foldl (fun (s : Array UInt32) index =>
    let v := fun position => s.getD position 0
    let s1 := rotate32 (v 4) 6 ^^^ rotate32 (v 4) 11 ^^^ rotate32 (v 4) 25
    let choice := (v 4 &&& v 5) ^^^ (~~~(v 4) &&& v 6)
    let first := v 7 + s1 + choice + constants32.getD index 0 + words.getD index 0
    let s0 := rotate32 (v 0) 2 ^^^ rotate32 (v 0) 13 ^^^ rotate32 (v 0) 22
    let majority := (v 0 &&& v 1) ^^^ (v 0 &&& v 2) ^^^ (v 1 &&& v 2)
    #[first + s0 + majority, v 0, v 1, v 2, v 3 + first, v 4, v 5, v 6]) state
  state.zipWith (· + ·) mixed

/-- The eighty words that one block of 128 bytes is mixed with. -/
private def schedule64 (block : List UInt8) : Array UInt64 :=
  let start := ((chunks 8 16 block).map fun word => UInt64.ofNat (ofBigEndian word)).toArray
  (List.range 64).foldl (fun words index =>
    let w := fun offset => words.getD (index + offset) 0
    let s0 := rotate64 (w 1) 1 ^^^ rotate64 (w 1) 8 ^^^ (w 1 >>> 7)
    let s1 := rotate64 (w 14) 19 ^^^ rotate64 (w 14) 61 ^^^ (w 14 >>> 6)
    words.push (w 0 + s0 + w 9 + s1)) start

/-- Fold one block of 128 bytes into the state. -/
private def compress64 (state : Array UInt64) (block : List UInt8) : Array UInt64 :=
  let words := schedule64 block
  let mixed := (List.range 80).foldl (fun (s : Array UInt64) index =>
    let v := fun position => s.getD position 0
    let s1 := rotate64 (v 4) 14 ^^^ rotate64 (v 4) 18 ^^^ rotate64 (v 4) 41
    let choice := (v 4 &&& v 5) ^^^ (~~~(v 4) &&& v 6)
    let first := v 7 + s1 + choice + constants64.getD index 0 + words.getD index 0
    let s0 := rotate64 (v 0) 28 ^^^ rotate64 (v 0) 34 ^^^ rotate64 (v 0) 39
    let majority := (v 0 &&& v 1) ^^^ (v 0 &&& v 2) ^^^ (v 1 &&& v 2)
    #[first + s0 + majority, v 0, v 1, v 2, v 3 + first, v 4, v 5, v 6]) state
  state.zipWith (· + ·) mixed

private def hash32 (initial : Array UInt32) (message : List UInt8) : List UInt8 :=
  let blocks := chunks 64 (message.length / 64 + 2) (pad 64 8 message)
  (blocks.foldl compress32 initial).toList.flatMap fun word => bigEndian 4 word.toNat

private def hash64 (initial : Array UInt64) (message : List UInt8) : List UInt8 :=
  let blocks := chunks 128 (message.length / 128 + 2) (pad 128 16 message)
  (blocks.foldl compress64 initial).toList.flatMap fun word => bigEndian 8 word.toNat

end Sha2

namespace Digest

/-- The bytes of one input block. -/
def blockBytes : Digest → Nat
  | .sha256 => 64
  | .sha384 | .sha512 => 128

/-- The digest of a message. -/
def hash : Digest → List UInt8 → List UInt8
  | .sha256, message => Sha2.hash32 Sha2.initial256 message
  | .sha384, message => (Sha2.hash64 Sha2.initial384 message).take 48
  | .sha512, message => Sha2.hash64 Sha2.initial512 message

end Digest

end ApiGateway.Crypto
