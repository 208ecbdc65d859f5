import SearchPath.Text.Digits
import SearchPath.Text.Pieces
import SearchPath.Url.Percent
import SearchPath.Url.Domain

/-!
# Hosts

The host of a URL is a domain name, an address of four octets or an address of eight groups. In
the schemes of the web and of files a host is percent-decoded and brought to the form of a domain
name first, and a name whose last label is a number is read as an address; in other schemes it
stands as it is written, controls escaped. Errors are causes, with their wording in
`ParseError.message`.
-/

namespace SearchPath.Url

open SearchPath.Text

inductive ParseError where
  | emptyHost
  | domainName
  | port
  | ipv4Address
  | ipv6Address
  | domainCharacter
  | relativeWithoutBase
  deriving DecidableEq, Repr

def ParseError.message : ParseError → String
  | .emptyHost => "empty host"
  | .domainName => "invalid international domain name"
  | .port => "invalid port number"
  | .ipv4Address => "invalid IPv4 address"
  | .ipv6Address => "invalid IPv6 address"
  | .domainCharacter => "invalid domain character"
  | .relativeWithoutBase => "relative URL without a base"

inductive Host where
  /-- A name, in its written form. -/
  | domain (name : List Char)
  /-- A number of 32 bits. -/
  | ipv4 (address : Nat)
  /-- Eight groups of 16 bits. -/
  | ipv6 (groups : List Nat)
  deriving DecidableEq, Repr

/-! ## Addresses of four octets -/

/-- A number in an address: hexadecimal behind `0x`, octal behind `0`, decimal otherwise. -/
def readAddressNumber (s : List Char) : Option Nat :=
  match s with
  | [] => none
  | '0' :: 'x' :: rest => readDigits 16 rest
  | '0' :: 'X' :: rest => readDigits 16 rest
  | ['0'] => some 0
  | '0' :: rest => readDigits 8 rest
  | s => readDigits 10 s

def addressLabels (name : List Char) : List (List Char) :=
  let labels := pieces '.' name
  if labels.getLast? = some [] ∧ 1 < labels.length then labels.dropLast else labels

/-- Whether the last label is a number, so that the name must be an address. -/
def endsInNumber (name : List Char) : Bool :=
  match (addressLabels name).getLast? with
  | none => false
  | some [] => false
  | some label => label.all Char.isDigit || (readAddressNumber label).isSome

/-- The address that a name of numbers stands for: every number but the last is one octet, and
the last one fills the octets that are left. -/
def readIpv4 (name : List Char) : Option Nat := do
  let labels := addressLabels name
  if 4 < labels.length then none
  else
    let numbers ← labels.mapM readAddressNumber
    let last ← numbers.getLast?
    let heads := numbers.dropLast
    if heads.any (255 < ·) || 1 <<< (8 * (4 - heads.length)) ≤ last then none
    else
      let high := heads.foldl (fun n octet => 256 * n + octet) 0
      some (high <<< (8 * (4 - heads.length)) + last)

def writeIpv4 (address : Nat) : List Char :=
  join '.' <| [address / 0x1000000, address / 0x10000 % 0x100, address / 0x100 % 0x100,
    address % 0x100].map decimal

/-! ## Addresses of eight groups -/

/-- Up to `limit` hexadecimal digits: how many there are, their value, and the text after. -/
def hexRun : Nat → List Char → Nat × Nat × List Char
  | 0, s => (0, 0, s)
  | _ + 1, [] => (0, 0, [])
  | limit + 1, c :: s =>
    match digitValue 16 c with
    | none => (0, 0, c :: s)
    | some d =>
      let run := hexRun limit s
      (run.1 + 1, d <<< (4 * run.1) + run.2.1, run.2.2)

theorem hexRun_length (limit : Nat) (s : List Char) :
    (hexRun limit s).2.2.length + (hexRun limit s).1 = s.length := by
  induction limit generalizing s with
  | zero => rfl
  | succ limit ih =>
    cases s with
    | nil => rfl
    | cons c s =>
      unfold hexRun
      split
      · rfl
      · have := ih s
        simp only [List.length_cons]
        omega

def readOctet (s : List Char) : Option Nat :=
  match s with
  | [] => none
  | ['0'] => some 0
  | '0' :: _ => none
  | s => (readDigits 10 s).filter (· ≤ 255)

def readOctetGroups (s : List Char) : Option (List Nat) :=
  match (pieces '.' s).mapM readOctet with
  | some [a, b, c, d] => some [256 * a + b, 256 * c + d]
  | _ => none

/-- The groups read so far, in order, and after how many of them the gap was. -/
structure Groups where
  groups : List Nat
  gap : Option Nat

/-- The groups of the text; a gap counts as one group of zero. -/
def readGroups (s : List Char) (st : Groups) : Option Groups :=
  match s with
  | [] => some st
  | ':' :: rest =>
    if st.groups.length = 8 ∨ st.gap.isSome then none
    else readGroups rest ⟨st.groups ++ [0], some (st.groups.length + 1)⟩
  | c :: s =>
    if st.groups.length = 8 then none
    else
      match _h : hexRun 4 (c :: s) with
      | (0, _, _) => none
      | (_ + 1, value, []) => some { st with groups := st.groups ++ [value] }
      | (_ + 1, value, ':' :: rest) =>
        if rest = [] then none else readGroups rest { st with groups := st.groups ++ [value] }
      | (_ + 1, _, '.' :: _) =>
        if 6 < st.groups.length then none
        else (readOctetGroups (c :: s)).map fun two => { st with groups := st.groups ++ two }
      | (_ + 1, _, _ :: _) => none
termination_by s.length
decreasing_by
  · simp
  · have := hexRun_length 4 (c :: s)
    rw [_h] at this
    simp only [List.length_cons] at this ⊢
    omega

def readIpv6 (s : List Char) : Option (List Nat) := do
  let st ← match s with
    | ':' :: ':' :: rest => readGroups rest ⟨[0], some 1⟩
    | ':' :: _ => none
    | [] => none
    | s => readGroups s ⟨[], none⟩
  match st.gap with
  | none => if st.groups.length = 8 then some st.groups else none
  | some gap =>
    if 8 < st.groups.length then none
    else some (st.groups.take gap ++ List.replicate (8 - st.groups.length) 0 ++ st.groups.drop gap)

def zeroRun (groups : List Nat) : Nat :=
  (groups.takeWhile (· == 0)).length

def longestZeroRun : List Nat → Nat × Nat
  | [] => (0, 0)
  | g :: rest =>
    let (place, size) := longestZeroRun rest
    let here := zeroRun (g :: rest)
    if size ≤ here then (0, here) else (place + 1, size)

/-- The groups with colons between them, the longest run of two or more zeros left out. -/
def writeIpv6 (groups : List Nat) : List Char :=
  let hex := fun (gs : List Nat) => join ':' (gs.map (writeDigits 16))
  let (place, size) := longestZeroRun groups
  if size < 2 then hex groups
  else hex (groups.take place) ++ [':', ':'] ++ hex (groups.drop (place + size))

/-! ## Reading and writing hosts -/

def bracketed (s : List Char) : Option (Option (List Char)) :=
  match s with
  | '[' :: rest => some (if rest.getLast? = some ']' then some rest.dropLast else none)
  | _ => none

def readBracketed (inner : Option (List Char)) : Except ParseError Host :=
  match inner.bind readIpv6 with
  | some groups => .ok (.ipv6 groups)
  | none => .error .ipv6Address

def Host.parse (s : List Char) : Except ParseError Host :=
  match bracketed s with
  | some inner => readBracketed inner
  | none =>
    match Domain.ofOctets (percentDecode (encode s)) with
    | none => .error .domainName
    | some [] => .error .emptyHost
    | some name =>
      if endsInNumber name then
        match readIpv4 name with
        | some address => .ok (.ipv4 address)
        | none => .error .ipv4Address
      else .ok (.domain name)

/-- Characters that no host holds, whatever the scheme. -/
def isHostBreak (c : Char) : Bool :=
  ['\x00', '\t', '\n', '\r', ' ', '#', '/', ':', '<', '>', '?', '@', '[', '\\', ']', '^',
    '|'].contains c

def Host.parseOpaque (s : List Char) : Except ParseError Host :=
  match bracketed s with
  | some inner => readBracketed inner
  | none =>
    if s.any isHostBreak then .error .domainCharacter
    else .ok (.domain (percentEncode isControl s))

def Host.text : Host → List Char
  | .domain name => name
  | .ipv4 address => writeIpv4 address
  | .ipv6 groups => '[' :: writeIpv6 groups ++ [']']

end SearchPath.Url
