import Misscomputer.Lib.Sha256

set_option relaxedAutoImplicit false
set_option autoImplicit false

/-!
# HMAC-SHA256

The keyed hash as its standard defines it, over the hash of `Misscomputer.Lib.Sha256`.

## Main definitions

* `Hmac.sha256` — the 32 bytes of a key and a message.
-/

namespace Hmac

/-- The bytes of the digest of a message. -/
def digest (message : List UInt8) : List UInt8 := (Sha256.sum256 (message.map UInt8.toNat)).map UInt8.ofNat

/-- The key, hashed where it is longer than a block, and filled up to one. -/
def block (key : List UInt8) : List UInt8 :=
  let key := if 64 < key.length then digest key else key
  key ++ List.replicate (64 - key.length) 0

/-- The HMAC of a message under a key. -/
def sha256 (key message : List UInt8) : List UInt8 :=
  digest ((block key).map (· ^^^ 0x5c) ++ digest ((block key).map (· ^^^ 0x36) ++ message))

lemma length_sha256 (key message : List UInt8) : (sha256 key message).length = 32 := by
  rw [sha256, digest, List.length_map, Sha256.sum256_length]

end Hmac
