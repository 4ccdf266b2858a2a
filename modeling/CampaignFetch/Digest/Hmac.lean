import CampaignFetch.Digest.Sha256

/-!
# Keyed hashes

HMAC over SHA-256: the hash of a message under a secret key.
-/

namespace CampaignFetch.Digest

/-- The key as one block: a key longer than a block is hashed first. -/
def keyBlock (key : Bytes) : Bytes :=
  let short := if key.length > 64 then sha256 key else key
  short ++ List.replicate (64 - short.length) 0

/-- The authentication code of the message under the key. -/
def hmacSha256 (key message : Bytes) : Bytes :=
  let block := keyBlock key
  sha256 (block.map (· ^^^ 0x5C) ++ sha256 (block.map (· ^^^ 0x36) ++ message))

end CampaignFetch.Digest
