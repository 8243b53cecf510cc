import TenantAuth.Crypto.Sha2

/-!
This module contains keyed message authentication codes on top of a hash function.
-/

namespace TenantAuth.Crypto

/--
The key as it fills one block: a longer key is hashed first, a shorter one is followed by zeros.
-/
def hmacBlock (h : Hash) (key : List UInt8) : List UInt8 :=
  let key := if h.blockSize < key.length then h.apply key else key
  key ++ List.replicate (h.blockSize - key.length) 0

def hmac (h : Hash) (key message : List UInt8) : List UInt8 :=
  let block := hmacBlock h key
  h.apply (block.map (· ^^^ 0x5c) ++ h.apply (block.map (· ^^^ 0x36) ++ message))

end TenantAuth.Crypto
