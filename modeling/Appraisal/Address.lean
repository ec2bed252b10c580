/-
Internet addresses, of both versions.

An address of version four is four numbers below 256, written in decimal without leading zeros. One of
version six is eight groups of sixteen bits, written in hexadecimal with at most four digits each; one run
of groups may be left out, two colons standing for at least one zero group, and the last two groups may be
written as an address of version four.

A version six address is always written in one way: small letters, no leading zeros, and the first of the
longest runs of at least two zero groups left out. An address that embeds one of version four keeps that
part in decimal.
-/

set_option autoImplicit false

namespace Appraisal

/-- An address of version four. -/
structure IPv4 where
  octets : List Nat

/-- An internet address. -/
inductive Address where
  | v4 (address : IPv4)
  | v6 (groups : List Nat)

namespace Address

/-- What is left of a text after a part was read from its front. -/
abbrev Rest := List Char

/-! ## Reading -/

/-- The value of a digit in a base up to sixteen. -/
def digitValue? (base : Nat) (c : Char) : Option Nat :=
  let n := c.toNat
  let value? : Option Nat :=
    if 48 ≤ n ∧ n ≤ 57 then some (n - 48)
    else if 65 ≤ n ∧ n ≤ 70 then some (n - 55)
    else if 97 ≤ n ∧ n ≤ 102 then some (n - 87)
    else none
  value?.filter (· < base)

/-- All the digits at the front of a text. -/
def leadingDigits (base : Nat) : List Char → List Nat × Rest
  | [] => ([], [])
  | c :: cs =>
    match digitValue? base c with
    | none => ([], c :: cs)
    | some d =>
      let (ds, rest) := leadingDigits base cs
      (d :: ds, rest)

/-- A number of at least one and at most so many digits. -/
def number? (base maxDigits : Nat) (cs : List Char) : Option (List Nat × Rest) :=
  let (ds, rest) := leadingDigits base cs
  if ds.isEmpty || maxDigits < ds.length then none else some (ds, rest)

/-- The value of digits. -/
def valueOf (base : Nat) (ds : List Nat) : Nat :=
  ds.foldl (fun n d => base * n + d) 0

/-- One of the numbers of a version four address. -/
def octet? (cs : List Char) : Option (Nat × Rest) := do
  let (ds, rest) ← number? 10 3 cs
  let n := valueOf 10 ds
  if (ds.head? = some 0 && 1 < ds.length) || 255 < n then none else some (n, rest)

/-- The text behind a given character. -/
def behind? (c : Char) : List Char → Option Rest
  | [] => none
  | c' :: cs => if c' = c then some cs else none

/-- A version four address at the front of a text. -/
def ipv4? (cs : List Char) : Option (IPv4 × Rest) := do
  let (a, cs) ← octet? cs
  let (b, cs) ← octet? (← behind? '.' cs)
  let (c, cs) ← octet? (← behind? '.' cs)
  let (d, cs) ← octet? (← behind? '.' cs)
  return (⟨[a, b, c, d]⟩, cs)

/-- One group of a version six address. -/
def group? (cs : List Char) : Option (Nat × Rest) := do
  let (ds, rest) ← number? 16 4 cs
  return (valueOf 16 ds, rest)

/-- The two groups that an embedded version four address stands for. -/
def IPv4.groups (address : IPv4) : List Nat :=
  match address.octets with
  | [a, b, c, d] => [256 * a + b, 256 * c + d]
  | _ => []

/-- The text in which the next group starts: the first one starts at once, the others behind a colon. -/
def groupStart? (isFirst : Bool) (cs : List Char) : Option Rest :=
  if isFirst then some cs else behind? ':' cs

/-- Groups at the front of a text, at most so many, as many as there are. An embedded version four address
counts for two and ends them. Says also whether there was one. -/
def groups (isFirst : Bool) : (room : Nat) → List Char → List Nat × Bool × Rest
  | 0, cs => ([], false, cs)
  | room + 1, cs =>
    let start := groupStart? isFirst cs
    let embedded := if room = 0 then none else start.bind ipv4?
    match embedded with
    | some (address, rest) => (IPv4.groups address, true, rest)
    | none =>
      match start.bind group? with
      | none => ([], false, cs)
      | some (group, rest) =>
        let (more, isEmbedded, rest) := groups false room rest
        (group :: more, isEmbedded, rest)

/-- A version six address at the front of a text. -/
def ipv6? (cs : List Char) : Option (List Nat × Rest) :=
  let (front, isEmbedded, rest) := groups true 8 cs
  if front.length = 8 then some (front, rest)
  else if isEmbedded then none
  else do
    let rest ← behind? ':' (← behind? ':' rest)
    let (back, _, rest) := groups true (7 - front.length) rest
    return (front ++ List.replicate (8 - front.length - back.length) 0 ++ back, rest)

/-- The address that a text is, from its first character to its last. -/
def ofText? (text : String) : Option Address :=
  let cs := text.toList
  match ipv4? cs with
  | some (address, rest) => if rest.isEmpty then some (.v4 address) else none
  | none =>
    match ipv6? cs with
    | some (groups, rest) => if rest.isEmpty then some (.v6 groups) else none
    | none => none

/-! ## Writing -/

/-- A version four address in decimal. -/
def IPv4.text (address : IPv4) : String :=
  ".".intercalate (address.octets.map toString)

/-- The number of zeros at the front of a list. -/
def leadingZeros (groups : List Nat) : Nat :=
  (groups.takeWhile (· = 0)).length

/-- The first of the longest runs of zeros, as where it starts and how long it is. -/
def longestZeros : List Nat → Nat × Nat
  | [] => (0, 0)
  | group :: rest =>
    let here := leadingZeros (group :: rest)
    let (start, length) := longestZeros rest
    if length ≤ here then (0, here) else (start + 1, length)

/-- Groups in hexadecimal with colons between them. -/
def groupsText (groups : List Nat) : String :=
  ":".intercalate (groups.map fun group => String.ofList (Nat.toDigits 16 group))

/-- A version six address. -/
def ipv6Text (groups : List Nat) : String :=
  match groups with
  | [0, 0, 0, 0, 0, 0xffff, high, low] =>
    "::ffff:" ++ IPv4.text ⟨[high / 256, high % 256, low / 256, low % 256]⟩
  | _ =>
    let (start, length) := longestZeros groups
    if length ≤ 1 then groupsText groups
    else groupsText (groups.take start) ++ "::" ++ groupsText (groups.drop (start + length))

/-- The address of this machine itself. -/
def loopback : Address :=
  .v4 ⟨[127, 0, 0, 1]⟩

/-- An address with a port; brackets keep the colons of version six apart from the one in front of it. -/
def withPort (port : Nat) : Address → String
  | .v4 address => IPv4.text address ++ ":" ++ toString port
  | .v6 groups => "[" ++ ipv6Text groups ++ "]:" ++ toString port

end Address

end Appraisal
