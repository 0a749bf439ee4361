import WebhookClient.Text.Decimal
import WebhookClient.Url.Basic

/-!
# Parsing URLs

A text is read as an absolute URL: controls and spaces at its ends are dropped, tabs and line
breaks vanish everywhere, the scheme and the host are put into lower case, a default port is
dropped, and every part is percent-encoded where it needs it.
-/

set_option autoImplicit false

namespace WebhookClient.Url

/-- Drops controls and spaces at both ends. -/
def trim (cs : List Char) : List Char :=
  let trimStart (cs : List Char) := cs.dropWhile fun c => c.toNat ≤ 0x20
  (trimStart (trimStart cs).reverse).reverse

/-- The characters of a scheme after its first letter. -/
def isSchemeChar (c : Char) : Bool := c.isAlphanum || c = '+' || c = '-' || c = '.'

/-- The scheme in lower case, and the text after its colon. -/
def readScheme? (cs : List Char) : Option (List Char × List Char) :=
  match cs with
  | c :: _ =>
    if c.isAlpha then
      match cs.dropWhile isSchemeChar with
      | ':' :: rest => some ((cs.takeWhile isSchemeChar).map Char.toLower, rest)
      | _ => none
    else none
  | [] => none

/-! ## The authority -/

/-- The characters that end an authority. -/
def endsAuthority (kind : SchemeKind) (c : Char) : Bool :=
  c = '/' || c = '?' || c = '#' || (kind.isSpecial && c = '\\')

/-- Cuts a text at the last occurrence of a character. -/
def splitLast (c : Char) (cs : List Char) : Option (List Char × List Char) :=
  if c ∈ cs then
    let after := (cs.reverse.takeWhile (· ≠ c)).reverse
    some (cs.take (cs.length - after.length - 1), after)
  else none

/-- User name and password, each percent-encoded; the first colon separates them. -/
def readUser (cs : List Char) : List Char × List Char :=
  (Percent.encode Percent.userSet (cs.takeWhile (· ≠ ':')),
    Percent.encode Percent.userSet ((cs.dropWhile (· ≠ ':')).drop 1))

/-- Cuts a host from what follows it: a colon outside brackets, or the end of the authority. -/
def spanHost (kind : SchemeKind) (inBrackets : Bool) : List Char → List Char × List Char
  | [] => ([], [])
  | c :: cs =>
    if (c = ':' && !inBrackets) || endsAuthority kind c then ([], c :: cs)
    else
      -- A bracket opens or closes an IPv6 address, in which colons belong to the host.
      let inside := if c = '[' then true else if c = ']' then false else inBrackets
      let (h, rest) := spanHost kind inside cs
      (c :: h, rest)

/-- The port after a colon: digits up to the path; none if there are no digits, or if it is the
default of the scheme. -/
def readPort (scheme cs : List Char) : Except ParseError (Option Nat × List Char) :=
  let ds := cs.takeWhile Char.isDigit
  let rest := cs.dropWhile Char.isDigit
  let n := Decimal.value ds
  if 65535 < n then .error .invalidPort
  else if rest.headD '/' ∉ ['/', '\\', '?', '#'] then .error .invalidPort
  else .ok (if ds.isEmpty || defaultPort? scheme = some n then none else some n, rest)

/-- Host and port. -/
def readHostAndPort (idna : Idna) (scheme cs : List Char) :
    Except ParseError (Host × Option Nat × List Char) := do
  let kind := schemeKind scheme
  let (text, rest) := spanHost kind false cs
  if kind = .web && text.isEmpty then .error .emptyHost
  else
    let h ← if kind.isSpecial then Host.parse idna text else Host.parseElsewhere text
    match rest with
    | ':' :: r =>
      if text.isEmpty then .error .emptyHost
      else
        let (port, rest) ← readPort scheme r
        .ok (h, port, rest)
    | rest => .ok (h, none, rest)

/-! ## The rest -/

/-- Query and fragment after a path. -/
def readQueryAndFragment (kind : SchemeKind) (cs : List Char) :
    Option (List Char) × Option (List Char) :=
  let fragment := match cs.dropWhile (· ≠ '#') with
    | '#' :: f => some (Percent.encode Percent.fragmentSet f)
    | _ => none
  match cs with
  | '?' :: r =>
    let set := if kind.isSpecial then Percent.specialQuerySet else Percent.querySet
    (some (Percent.encode set (r.takeWhile (· ≠ '#'))), fragment)
  | _ => (none, fragment)

/-- The text of a path, and what follows it. -/
def spanPath (cs : List Char) : List Char × List Char :=
  (cs.takeWhile fun c => c ≠ '?' && c ≠ '#', cs.dropWhile fun c => c ≠ '?' && c ≠ '#')

/-- A URL whose path follows its authority. -/
def withAuthority (scheme username password : List Char) (host : Host) (port : Option Nat)
    (cs : List Char) : Url :=
  let kind := schemeKind scheme
  let (path, rest) := spanPath cs
  let (query, fragment) := readQueryAndFragment kind rest
  ⟨scheme, username, password, some host, port, .segments (Path.read kind path), query, fragment⟩

/-- What follows the two slashes before an authority. -/
def readAuthority (idna : Idna) (scheme cs : List Char) : Except ParseError Url := do
  let kind := schemeKind scheme
  let authority := cs.takeWhile fun c => !endsAuthority kind c
  let rest := cs.drop authority.length
  match splitLast '@' authority with
  | none =>
    let (host, port, rest) ← readHostAndPort idna scheme cs
    .ok (withAuthority scheme [] [] host port rest)
  | some (user, after) =>
    if user.isEmpty && after.isEmpty && !rest.isEmpty then .error .emptyHost
    else
      let (username, password) := readUser user
      let (host, port, rest) ← readHostAndPort idna scheme (after ++ rest)
      if host = .name "" && !(username.isEmpty && password.isEmpty) then .error .emptyHost
      else .ok (withAuthority scheme username password host port rest)

/-! ## Files -/

/-- Drops the given number of characters that do not vanish, and all before the last of them. -/
def dropVisible : Nat → List Char → List Char
  | 0, cs => cs
  | _, [] => []
  | n + 1, c :: cs => dropVisible (if Path.vanishes c then n + 1 else n) cs

/-- The URL of a file, from its host and the text after the slash of its root. A host before a
drive does not count. -/
def withRoot (host : Host) (cs : List Char) : Url :=
  let (path, rest) := spanPath cs
  let (query, fragment) := readQueryAndFragment .file (Path.visible rest)
  ⟨"file".toList, [], [], some (if Path.hasDrive path then .name "" else host), none,
    .segments (Path.readFile path), query, fragment⟩

/-- The URL of a file, from what follows the colon of its scheme. A drive at the place of the
host belongs to the path. Without a host the slash that ends the authority is a part of the path,
whose empty segments at the start do not count. -/
def readFile (idna : Idna) (cs : List Char) : Except ParseError Url :=
  let isSlash (c : Char) : Bool := c = '/' || c = '\\'
  let slashes (cs : List Char) : Nat := if cs.head?.any isSlash then 1 else 0
  -- What follows `n` characters, in the text where tabs and line breaks still stand.
  let after (n : Nat) : List Char := dropVisible n cs
  match Path.visible cs with
  | a :: b :: r =>
    if isSlash a && isSlash b then
      let text := r.takeWhile fun c => !endsAuthority .file c
      if text.isEmpty || Path.isDrive text then .ok (withRoot (.name "") (after 2))
      else do
        let host ← Host.parse idna text
        if host = .name "localhost" then .ok (withRoot (.name "") (after (2 + text.length)))
        else
          .ok (withRoot host (after (2 + text.length + slashes (r.drop text.length))))
    else .ok (withRoot (.name "") (after (slashes [a])))
  | cs => .ok (withRoot (.name "") (after (slashes cs)))

/-! ## URLs -/

/-- Reads a text as an absolute URL. -/
def parse (idna : Idna) (s : String) : Except ParseError Url :=
  let cs := trim s.toList
  match readScheme? (Path.visible cs) with
  | none => .error .noScheme
  | some (scheme, rest) =>
    match schemeKind scheme with
    | .file => readFile idna (dropVisible (scheme.length + 1) cs)
    | .web => readAuthority idna scheme (rest.dropWhile fun c => c = '/' || c = '\\')
    | .other =>
      match rest with
      | '/' :: '/' :: r => readAuthority idna scheme r
      | rest =>
        let (path, rest) := spanPath rest
        let (query, fragment) := readQueryAndFragment .other rest
        let location :=
          match path with
          | '/' :: _ => Location.segments (Path.read .other path)
          | _ => .text (Percent.encode Percent.control path)
        .ok ⟨scheme, [], [], none, none, location, query, fragment⟩

end Url

end WebhookClient
