import AssetSync.Text.Hex

namespace AssetSync.SocketAddress

abbrev Recogniser := List Char → Option (List Char)

def literal (c : Char) : Recogniser
  | d :: rest => if d = c then some rest else none
  | [] => none

def digitValue? (radix : Nat) (c : Char) : Option Nat :=
  (Text.hexValue? c).filter (· < radix)

def number (radix bound : Nat) (maxDigits : Option Nat) (leadingZeros : Bool) : Recogniser :=
  fun input =>
    let digits := input.takeWhile fun c => (digitValue? radix c).isSome
    let value := digits.foldl (fun n c => n * radix + (digitValue? radix c).getD 0) 0
    let tooLong := maxDigits.any (· < digits.length)
    let padded := !leadingZeros && digits.length > 1 && digits.head? == some '0'
    if digits.isEmpty || tooLong || padded || value > bound then none
    else some (input.drop digits.length)

def octet : Recogniser :=
  number 10 255 (some 3) false

def ipv4 : Recogniser := fun input => do
  let rest ← octet input
  let rest ← octet (← literal '.' rest)
  let rest ← octet (← literal '.' rest)
  octet (← literal '.' rest)

def group : Recogniser :=
  number 16 0xffff (some 4) true

def colonBefore (first : Bool) : Recogniser :=
  if first then some else literal ':'

/-- Reads as many groups as there are, at most `room`. Answers how many that was, whether the last
two were an IPv4 address, and what follows them. -/
def groups : Nat → Nat → List Char → Nat × Bool × List Char
  | 0, count, input => (count, false, input)
  | room + 1, count, input =>
    let start := colonBefore (count == 0) input
    match if room = 0 then none else start.bind ipv4 with
    | some rest => (count + 2, true, rest)
    | none =>
      match start.bind group with
      | some rest => groups room (count + 1) rest
      | none => (count, false, input)

def ipv6 : Recogniser := fun input =>
  let (count, endsInIpv4, rest) := groups 8 0 input
  if count = 8 then some rest
  else if endsInIpv4 then none
  else do
    let rest ← literal ':' (← literal ':' rest)
    let (_, _, rest) := groups (7 - count) 0 rest
    some rest

def port : Recogniser := fun input => do
  number 10 0xffff none true (← literal ':' input)

def scope : Recogniser := fun input => do
  number 10 0xffffffff none true (← literal '%' input)

def socketIpv4 : Recogniser := fun input => do
  port (← ipv4 input)

def socketIpv6 : Recogniser := fun input => do
  let rest ← ipv6 (← literal '[' input)
  port (← literal ']' ((scope rest).getD rest))

def isValid (text : String) : Bool :=
  let input := text.toList
  ((socketIpv4 input).orElse fun _ => socketIpv6 input) == some []

end AssetSync.SocketAddress
