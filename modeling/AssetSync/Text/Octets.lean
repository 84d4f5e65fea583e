import AssetSync.Text.Hex

namespace AssetSync.Text

abbrev Octets := List UInt8

namespace Octets

def ofString (text : String) : Octets :=
  text.toUTF8.toList

def text? (octets : Octets) : Option String :=
  String.fromUTF8? (ByteArray.mk octets.toArray)

def beforeZero (octets : Octets) : Octets :=
  octets.takeWhile (· ≠ 0)

/-- The octets as a name. Where they spell no text, every octet stands for one character. -/
def name (octets : Octets) : String :=
  octets.text?.getD (String.ofList (octets.map fun b => Char.ofNat b.toNat))

end Octets

def hexOctet? (a b : Char) : Option UInt8 := do
  return UInt8.ofNat ((← hexValue? a) * 16 + (← hexValue? b))

def percentDecoded : List Char → Octets
  | [] => []
  | c :: a :: b :: rest =>
    match if c = '%' then hexOctet? a b else none with
    | some octet => octet :: percentDecoded rest
    | none => Octets.ofString c.toString ++ percentDecoded (a :: b :: rest)
  | c :: rest => Octets.ofString c.toString ++ percentDecoded rest

end AssetSync.Text
