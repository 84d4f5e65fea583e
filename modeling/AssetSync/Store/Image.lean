import AssetSync.Store.Embedded
import AssetSync.Text.Octets

namespace AssetSync

inductive ImageFault where
  | notDatabase
  | malformed
  deriving DecidableEq

def ImageFault.text : ImageFault → String
  | .notDatabase => "file is not a database"
  | .malformed => "database disk image is malformed"

namespace Image

def magic : List UInt8 :=
  Text.Octets.ofString "SQLite format 3\x00"

def octetAt (image : ByteArray) (i : Nat) : Nat :=
  (image.data[i]?.getD 0).toNat

def numberAt (image : ByteArray) (i width : Nat) : Nat :=
  (List.range width).foldl (fun n k => n * 256 + octetAt image (i + k)) 0

def pageSize (image : ByteArray) : Nat :=
  let n := numberAt image 16 2
  if n = 1 then 1 <<< 16 else n

def pages (image : ByteArray) : Nat :=
  (image.size + pageSize image - 1) / pageSize image

def hasHeader (image : ByteArray) : Bool :=
  (image.data.toList.take 16) == magic && octetAt image 19 ≤ 2 &&
    [21, 22, 23].map (octetAt image) == [64, 32, 32] &&
    [9, 10, 11, 12, 13, 14, 15, 16].any (pageSize image == 1 <<< ·) &&
    480 ≤ pageSize image - octetAt image 20

def statedPages (image : ByteArray) : Nat :=
  if numberAt image 24 4 = numberAt image 92 4 then numberAt image 28 4 else 0

def isEmptyLeaf (image : ByteArray) : Bool :=
  octetAt image 100 == 13 && numberAt image 103 2 == 0

end Image

namespace Embedded

def blank : Embedded :=
  ⟨.empty, TableName.all, []⟩

def ofImage (image : ByteArray) : Except ImageFault Embedded :=
  if image.size ≤ 1 then .ok blank
  else if !Image.hasHeader image then .error .notDatabase
  else if Image.pages image < Image.statedPages image || !Image.isEmptyLeaf image then
    .error .malformed
  else .ok blank

end Embedded

end AssetSync
