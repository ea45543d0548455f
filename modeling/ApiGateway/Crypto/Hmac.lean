import ApiGateway.Crypto.Sha2

/-!
# Keyed authentication codes

The code of a message under a key hashes the message twice, inside the key mixed
with one constant and then with another.
-/

namespace ApiGateway.Crypto

/-- A key of one block: longer keys are hashed first, shorter ones end in zeros. -/
def blockKey (digest : Digest) (key : List UInt8) : List UInt8 :=
  let short := if digest.blockBytes < key.length then digest.hash key else key
  short ++ List.replicate (digest.blockBytes - short.length) 0

/-- The authentication code of a message. -/
def hmac (digest : Digest) (key message : List UInt8) : List UInt8 :=
  let block := blockKey digest key
  let inner := digest.hash (block.map (· ^^^ 0x36) ++ message)
  digest.hash (block.map (· ^^^ 0x5c) ++ inner)

end ApiGateway.Crypto
