import Countersign.Digest.Sha256

namespace Countersign.Digest

def hmac (key message : Bytes) : Bytes :=
  let short := if 64 < key.length then sha256 key else key
  let block := short ++ Bytes.zeros (64 - short.length)
  sha256 (block.map (· ^^^ 0x5c) ++ sha256 (block.map (· ^^^ 0x36) ++ message))

end Countersign.Digest
