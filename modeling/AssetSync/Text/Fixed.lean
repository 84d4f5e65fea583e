import AssetSync.Binary64.Basic

namespace AssetSync.Text

def padLeft (width : Nat) (fill : Char) (text : String) : String :=
  String.ofList (List.replicate (width - text.length) fill) ++ text

def padRight (width : Nat) (text : String) : String :=
  text ++ String.ofList (List.replicate (width - text.length) ' ')

def twoPlaces (num den : Nat) : String :=
  let hundredths := Binary64.roundDiv (num * 100) den
  toString (hundredths / 100) ++ "." ++ padLeft 2 '0' (toString (hundredths % 100))

def byteSize (bytes : Nat) : String :=
  if 1 <<< 30 ≤ bytes then twoPlaces bytes (1 <<< 30) ++ " GB"
  else if 1 <<< 20 ≤ bytes then twoPlaces bytes (1 <<< 20) ++ " MB"
  else if 1 <<< 10 ≤ bytes then twoPlaces bytes (1 <<< 10) ++ " KB"
  else toString bytes ++ " B"

end AssetSync.Text
