import WebhookClient.Text.Decimal
import WebhookClient.Text.Utf8
import WebhookClient.Url.Percent

/-!
# Hosts of URLs

The host of a URL is a name, an IPv4 address or an IPv6 address. In the schemes of the web a name
is percent-decoded and put into ASCII, and one whose last label is a number must be an IPv4
address; elsewhere a name keeps its form. How a name is put into ASCII is a parameter (`Idna`): the
tables of Unicode decide it, and what the parser relies on is stated with it.
-/

set_option autoImplicit false

namespace WebhookClient.Url

/-- Why a text is not a URL. -/
inductive ParseError where
  | noScheme
  | emptyHost
  | invalidPort
  | invalidIpv4
  | invalidIpv6
  | invalidName
  /-- A character that cannot stand in a host of this scheme. -/
  | invalidHostCharacter
deriving DecidableEq, Repr

/-- The wording of a failure. -/
def ParseError.message : ParseError → String
  | .noScheme => "relative URL without a base"
  | .emptyHost => "empty host"
  | .invalidPort => "invalid port number"
  | .invalidIpv4 => "invalid IPv4 address"
  | .invalidIpv6 => "invalid IPv6 address"
  | .invalidName => "invalid international domain name"
  | .invalidHostCharacter => "invalid domain character"

/-- The host of a URL. -/
inductive Host where
  | name (s : String)
  /-- An address of 32 bits. -/
  | ipv4 (address : Nat)
  /-- An address of eight pieces of 16 bits. -/
  | ipv6 (pieces : List Nat)
deriving DecidableEq, Repr

namespace Host

/-! ## IPv4 -/

/-- A number in one of the notations of addresses: hexadecimal after `0x`, octal after `0`,
decimal otherwise. -/
def ipv4Number? (cs : List Char) : Option Nat :=
  let inBase (base : Nat) (ds : List Char) : Option Nat :=
    ds.foldl
      (fun acc c => do
        let n ← acc
        let d ← Percent.hexValue? c
        if d < base then some (n * base + d) else none)
      (some 0)
  match cs with
  | [] => none
  | '0' :: 'x' :: ds => inBase 16 ds
  | '0' :: 'X' :: ds => inBase 16 ds
  | '0' :: d :: ds => inBase 8 (d :: ds)
  | ds => inBase 10 ds

/-- The labels of a name, without an empty last one. -/
def labels (cs : List Char) : List (List Char) :=
  let parts := cs.splitOn '.'
  if 1 < parts.length ∧ parts.getLast? = some [] then parts.dropLast else parts

/-- Whether the last label of a name is a number. -/
def endsInNumber (cs : List Char) : Bool :=
  match (labels cs).getLast? with
  | some last => (!last.isEmpty && last.all Char.isDigit) || (ipv4Number? last).isSome
  | none => false

/-- The address of a name that ends in a number: at most four numbers, each but the last a byte,
the last filling the remaining bytes. -/
def ipv4? (cs : List Char) : Option Nat := do
  let ns ← (labels cs).mapM ipv4Number?
  let last ← ns.getLast?
  let bytes := ns.dropLast
  if ns.length ≤ 4 ∧ bytes.all (· ≤ 255) ∧ last < Nat.pow 256 (4 - bytes.length) then
    some (bytes.foldl (fun n b => n * 256 + b) 0 * Nat.pow 256 (4 - bytes.length) + last)
  else none

/-! ## IPv6 -/

/-- A piece of one to four hexadecimal digits. -/
def ipv6Piece? (cs : List Char) : Option Nat :=
  if 1 ≤ cs.length ∧ cs.length ≤ 4 then
    cs.foldl (fun acc c => do some ((← acc) * 16 + (← Percent.hexValue? c))) (some 0)
  else none

/-- A byte in decimal without leading zeros. -/
def decimalByte? (cs : List Char) : Option Nat :=
  if cs.isEmpty || !cs.all Char.isDigit || (1 < cs.length && cs.head? = some '0') ||
      3 < cs.length || 255 < Decimal.value cs then none
  else some (Decimal.value cs)

/-- The two pieces of an address of four decimal bytes. -/
def embeddedIpv4? (cs : List Char) : Option (List Nat) := do
  match ← (cs.splitOn '.').mapM decimalByte? with
  | [a, b, c, d] => some [a * 256 + b, c * 256 + d]
  | _ => none

/-- Pieces separated by colons; the last may be an address of four decimal bytes. -/
def ipv6Pieces? (cs : List Char) (ipv4AtEnd : Bool) : Option (List Nat) :=
  if cs.isEmpty then some []
  else
    let parts := cs.splitOn ':'
    match parts.getLast? with
    | some last =>
      if ipv4AtEnd && last.contains '.' then do
        some ((← parts.dropLast.mapM ipv6Piece?) ++ (← embeddedIpv4? last))
      else parts.mapM ipv6Piece?
    | none => some []

/-- Cuts a text at its first double colon. -/
def splitDoubleColon : List Char → Option (List Char × List Char)
  | ':' :: ':' :: cs => some ([], cs)
  | c :: cs => (splitDoubleColon cs).map fun p => (c :: p.1, p.2)
  | [] => none

/-- The address between brackets: eight pieces, or fewer around a double colon that stands for
the missing ones, which are zero. -/
def ipv6? (cs : List Char) : Option (List Nat) :=
  match splitDoubleColon cs with
  | none => do
    let ps ← ipv6Pieces? cs true
    if ps.length = 8 then some ps else none
  | some (before, after) => do
    let ps ← ipv6Pieces? before false
    let qs ← ipv6Pieces? after true
    if ps.length + qs.length ≤ 7 then
      some (ps ++ List.replicate (8 - (ps.length + qs.length)) 0 ++ qs)
    else none

/-! ## Names -/

/-- The characters that cannot stand in a name in ASCII. -/
def isForbidden (c : Char) : Bool :=
  c.toNat ≤ 0x20 || 0x7F ≤ c.toNat ||
    ['#', '/', ':', '<', '>', '?', '@', '[', '\\', ']', '^', '|', '%'].contains c

theorem isForbidden_toLower {c : Char} (h : isForbidden c = false) :
    isForbidden c.toLower = false := by
  have hascii : ∀ n < 0x7F, isForbidden (Char.ofNat n) = false →
      isForbidden (Char.ofNat n).toLower = false := by decide
  have hlt : c.toNat < 0x7F := by
    simp only [isForbidden, Bool.or_eq_false_iff, decide_eq_false_iff_not] at h
    omega
  rw [← Char.ofNat_toNat c] at h ⊢
  exact hascii c.toNat hlt h

/-- Whether a label stands for one that is not all ASCII. -/
def isPunycode (label : List Char) : Bool :=
  ['x', 'n', '-', '-'].isPrefixOf (label.map Char.toLower)

/-- Whether a name is all ASCII and stands for itself. -/
def isPlain (cs : List Char) : Bool :=
  cs.all (fun c => c.toNat < 0x80) && !(cs.splitOn '.').any isPunycode

/-- The text of the bytes of a name. Bytes that are all ASCII are characters as they are. -/
def nameText (bs : List UInt8) : List Char :=
  if bs.all (· < 0x80) then bs.map fun b => Char.ofNat b.toNat else Utf8.decode bs

end Host

/-- How names are put into ASCII, with Punycode for labels that are not. Hyphens may stand anywhere
in a label, and a label may be of any length. -/
structure Idna where
  /-- The ASCII form of a name, if it has one. -/
  toAscii? : List Char → Option (List Char)
  /-- A form has only characters that can stand in a name. -/
  allowed : ∀ cs ds, toAscii? cs = some ds → ∀ c ∈ ds, Host.isForbidden c = false
  /-- The form of a plain name is the name in lower case, unless a character of it cannot stand in
  a name. -/
  plain : ∀ cs, Host.isPlain cs = true →
    toAscii? cs = if cs.any Host.isForbidden then none else some (cs.map Char.toLower)

/-- The names that are plain, and no others. -/
def Idna.plainNames : Idna where
  toAscii? cs :=
    if Host.isPlain cs && !cs.any Host.isForbidden then some (cs.map Char.toLower) else none
  allowed cs ds h c hc := by
    split at h
    · next hcs =>
      cases h
      simp only [Bool.and_eq_true, Bool.not_eq_true', List.any_eq_false] at hcs
      obtain ⟨c, hmem, rfl⟩ := List.mem_map.1 hc
      exact Host.isForbidden_toLower (Bool.eq_false_iff.2 (hcs.2 c hmem))
    · cases h
  plain cs h := by
    cases hany : cs.any Host.isForbidden <;> simp [h]

namespace Host

/-- An address in brackets. -/
def bracketed (cs : List Char) : Except ParseError Host :=
  match (cs.drop 1).getLast? with
  | some ']' =>
    match ipv6? ((cs.drop 1).dropLast) with
    | some ps => .ok (.ipv6 ps)
    | none => .error .invalidIpv6
  | _ => .error .invalidIpv6

/-- The host of a URL of a scheme of the web. -/
def parse (idna : Idna) (cs : List Char) : Except ParseError Host :=
  if cs.head? = some '[' then bracketed cs
  else
    match idna.toAscii? (nameText (Percent.decode cs)) with
    | none => .error .invalidName
    | some ds =>
      if ds.isEmpty then .error .emptyHost
      else if endsInNumber ds then
        match ipv4? ds with
        | some n => .ok (.ipv4 n)
        | none => .error .invalidIpv4
      else .ok (.name (String.ofList ds))

/-- The characters that cannot stand in the host of another scheme. -/
def isForbiddenElsewhere (c : Char) : Bool :=
  ['\x00', '\t', '\n', '\r', ' ', '#', '/', ':', '<', '>', '?', '@', '[', '\\', ']', '^',
    '|'].contains c

/-- The host of a URL of another scheme. -/
def parseElsewhere (cs : List Char) : Except ParseError Host :=
  if cs.head? = some '[' then bracketed cs
  else if cs.any isForbiddenElsewhere then .error .invalidHostCharacter
  else .ok (.name (String.ofList (Percent.encode Percent.control cs)))

/-! ## Text -/

/-- The start and length of the first longest run of at least two zeros, where `start` is the
place of the head of the list. -/
def longestZeros (start : Nat) : List Nat → Option (Nat × Nat)
  | [] => none
  | p :: ps =>
    let run := ((p :: ps).takeWhile (· = 0)).length
    match longestZeros (start + 1) ps with
    | none => if 2 ≤ run then some (start, run) else none
    | some (s, n) => if 2 ≤ run ∧ n ≤ run then some (start, run) else some (s, n)

/-- Pieces separated by colons. -/
def piecesText (ps : List Nat) : List Char :=
  [':'].intercalate (ps.map fun p => Nat.toDigits 16 p)

/-- The text of an IPv6 address; a double colon stands for the first longest run of zeros. -/
def ipv6Text (ps : List Nat) : List Char :=
  match longestZeros 0 ps with
  | none => piecesText ps
  | some (s, n) => piecesText (ps.take s) ++ ':' :: ':' :: piecesText (ps.drop (s + n))

/-- The text of a host. -/
def render : Host → List Char
  | .name s => s.toList
  | .ipv4 n =>
    ['.'].intercalate ([n / 16777216, n / 65536 % 256, n / 256 % 256, n % 256].map
      Decimal.digits)
  | .ipv6 ps => '[' :: (ipv6Text ps ++ [']'])

end Host

end WebhookClient.Url
