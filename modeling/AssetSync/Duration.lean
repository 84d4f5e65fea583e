import AssetSync.Binary64.Basic

/-!
Spans of time, in nanoseconds. The longest one has 2⁶⁴ − 1 whole seconds; arithmetic stops there.
-/

namespace AssetSync

structure Duration where
  nanos : Nat
  nanos_lt : nanos < UInt64.size * 1000000000
  deriving DecidableEq

namespace Duration

def ofNanos (n : Nat) : Duration :=
  if h : n < UInt64.size * 1000000000 then ⟨n, h⟩ else ⟨UInt64.size * 1000000000 - 1, by decide⟩

def zero : Duration :=
  ⟨0, by decide⟩

def ofSeconds (n : UInt64) : Duration :=
  ⟨n.toNat * 1000000000, Nat.mul_lt_mul_of_pos_right n.toNat_lt_size (by decide)⟩

def seconds (d : Duration) : Nat :=
  d.nanos / 1000000000

def subsecNanos (d : Duration) : Nat :=
  d.nanos % 1000000000

def scale (d : Duration) (factor : Nat) : Duration :=
  ofNanos (d.nanos * factor)

def min (a b : Duration) : Duration :=
  if a.nanos ≤ b.nanos then a else b

def max (a b : Duration) : Duration :=
  if a.nanos ≤ b.nanos then b else a

def millis (d : Duration) : UInt64 :=
  UInt64.ofNat (Nat.min (d.nanos / 1000000) (UInt64.size - 1))

def toSeconds (d : Duration) : Binary64 :=
  let fraction := ((Binary64.ofNat d.subsecNanos).div? (.ofNat 1000000000)).getD .zero
  ((Binary64.ofNat d.seconds).addMagnitudes? fraction).getD .zero

end Duration

end AssetSync
