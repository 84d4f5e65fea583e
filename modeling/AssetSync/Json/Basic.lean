import AssetSync.Binary64.Basic

/-!
JSON values. An object holds its fields in ascending order of their names, each name once; `insert`
keeps that order, and of two fields with one name the later one stays.
-/

namespace AssetSync

structure Integer where
  val : Int
  lower : -0x8000000000000000 ≤ val
  upper : val < 0x10000000000000000
  deriving DecidableEq

inductive Number where
  | integer (value : Integer)
  | real (value : Binary64)
  deriving DecidableEq

inductive Json where
  | null
  | bool (value : Bool)
  | num (value : Number)
  | str (value : String)
  | arr (items : List Json)
  | obj (fields : List (String × Json))
  deriving Inhabited

namespace Integer

def ofNat? (n : Nat) : Option Integer :=
  if h : n < 0x10000000000000000 then some ⟨n, by omega, by omega⟩ else none

def ofUInt64 (n : UInt64) : Integer :=
  ⟨n.toNat, by omega, by have := n.toNat_lt; omega⟩

def ofUInt32 (n : UInt32) : Integer :=
  ⟨n.toNat, by omega, by have := n.toNat_lt; omega⟩

def ofInt64 (n : Int64) : Integer :=
  ⟨n.toInt, by have := n.le_toInt; omega, by have := n.toInt_lt; omega⟩

def toNat? (i : Integer) : Option Nat :=
  if 0 ≤ i.val then some i.val.toNat else none

end Integer

def insertField (name : String) (value : Json) : List (String × Json) → List (String × Json)
  | [] => [(name, value)]
  | (other, old) :: rest =>
    if name < other then (name, value) :: (other, old) :: rest
    else if name = other then (name, value) :: rest
    else (other, old) :: insertField name value rest

namespace Json

def ofUInt32 (n : UInt32) : Json :=
  .num (.integer (.ofUInt32 n))

def ofUInt64 (n : UInt64) : Json :=
  .num (.integer (.ofUInt64 n))

def ofFields (fields : List (String × Json)) : Json :=
  .obj (fields.foldl (fun sorted (name, value) => insertField name value sorted) [])

def field? (json : Json) (name : String) : Option Json :=
  match json with
  | .obj fields => fields.lookup name
  | _ => none

def string? : Json → Option String
  | .str text => some text
  | _ => none

def isNull : Json → Bool
  | .null => true
  | _ => false

end Json

end AssetSync
