import AssetSync.Json.Basic

namespace AssetSync

abbrev Cursor := Json

def Cursor.count? : Cursor → Option Nat
  | .num (.integer i) => i.toNat?
  | _ => none

inductive CursorLabel where
  | init
  | update
  deriving DecidableEq

namespace CursorLabel

def name : CursorLabel → String
  | .init => "init"
  | .update => "update"

def all : List CursorLabel :=
  [.init, .update]

def ofName? (name : String) : Option CursorLabel :=
  all.find? (·.name == name)

theorem ofName?_name (label : CursorLabel) : ofName? label.name = some label := by
  cases label <;> decide

end CursorLabel

structure Checkpoint where
  cursor : Cursor
  label : CursorLabel
  updatedAt : String

end AssetSync
