namespace AssetSync

def saturatingSucc (n : UInt32) : UInt32 :=
  if n = UInt32.ofNat (UInt32.size - 1) then n else n + 1

end AssetSync
