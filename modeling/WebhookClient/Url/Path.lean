import WebhookClient.Url.Percent

/-!
# Paths of URLs

A path is a list of segments. Reading a path resolves the segments `.` and `..`, in all their
spellings, and percent-encodes the others. `Path.pushSegment` appends one more segment to a path
that has been read; the path of a root, one empty segment, is replaced by it.

A segment that names a drive, a letter and a colon or a bar, is never removed by `..`. At the very
start of the path of a file it is written with a colon, and `Path.hasDrive` tells that it is there.
-/

set_option autoImplicit false

namespace WebhookClient.Url

/-- The kinds of schemes that URLs tell apart. -/
inductive SchemeKind where
  /-- A scheme of the web. -/
  | web
  | file
  | other
deriving DecidableEq, Repr

/-- In URLs of the web and of files a backslash separates like a slash. -/
def SchemeKind.isSpecial : SchemeKind → Bool
  | .other => false
  | _ => true

namespace Path

/-- A segment that stands for the path it ends. -/
def isSingleDot (s : List Char) : Bool :=
  s.map Char.toLower ∈ [['.'], ['%', '2', 'e']]

/-- A segment that removes the one before it. -/
def isDoubleDot (s : List Char) : Bool :=
  s.map Char.toLower ∈
    [['.', '.'], ['%', '2', 'e', '.'], ['.', '%', '2', 'e'], ['%', '2', 'e', '%', '2', 'e']]

/-- The name of a drive: a letter, then a colon or a bar. -/
def isDrive : List Char → Bool
  | [c, d] => c.isAlpha && (d = ':' || d = '|')
  | _ => false

/-- Characters that vanish from URLs. -/
def vanishes (c : Char) : Bool := c = '\t' || c = '\n' || c = '\r'

/-- A text without the characters that vanish. -/
def visible (cs : List Char) : List Char := cs.filter fun c => !vanishes c

/-- Removes the last segment. The name of a drive stays; where a backslash does not separate
segments, it may be followed by one. -/
def popSegment (path : List (List Char)) : List (List Char) :=
  match path.getLast? with
  | some s => if isDrive (s.takeWhile (· ≠ '\\')) then path else path.dropLast
  | none => []

/-- Cuts a text after a drive with a colon, if characters that vanish stand between the drive and
a remainder. -/
def splitDrive? (raw : List Char) : Option (List Char × List Char) :=
  let letter := visible (raw.takeWhile (· ≠ ':'))
  match raw.dropWhile (· ≠ ':') with
  | ':' :: c :: rest =>
    if isDrive (letter ++ [':']) && vanishes c && !(visible rest).isEmpty then
      some (letter ++ [':'], visible rest)
    else none
  | _ => none

/-- The segments that a text adds to a path, percent-encoded. At the start of the path of a file
a drive is written with a colon, and one that `splitDrive?` cuts off is a segment of its own; all
other texts are one segment. -/
def added (kind : SchemeKind) (set : Char → Bool) (path : List (List Char)) (raw : List Char) :
    List (List Char) :=
  let s := visible raw
  if kind = .file && path.isEmpty then
    match splitDrive? raw with
    | some (drive, rest) => [drive, Percent.encode set rest]
    | none => [Percent.encode set (if isDrive s then s.take 1 ++ [':'] else s)]
  else [Percent.encode set s]

/-- A raw segment in the form in which dots are told. -/
def encoded (raw : List Char) : List Char := Percent.encode Percent.pathSet (visible raw)

/-- The segments of a path after one more raw segment. -/
def step (kind : SchemeKind) (path : List (List Char)) (raw : List Char) : List (List Char) :=
  if isDoubleDot (encoded raw) then popSegment path
  else if isSingleDot (encoded raw) then path
  else path ++ added kind Percent.pathSet path raw

/-- Resolves raw segments one after the other; dots at the end leave an empty segment. -/
def resolve (kind : SchemeKind) (raws : List (List Char)) : List (List Char) :=
  let path := raws.foldl (step kind) []
  match raws.getLast? with
  | some raw =>
    if isDoubleDot (encoded raw) || isSingleDot (encoded raw) then path ++ [[]] else path
  | none => path

/-- Cuts a text into segments. -/
def split (kind : SchemeKind) (cs : List Char) : List (List Char) :=
  cs.splitOnP fun c => c = '/' || (kind.isSpecial && c = '\\')

/-- A text without the separator that it may begin with. -/
def dropSeparator (kind : SchemeKind) (cs : List Char) : List Char :=
  match cs with
  | '/' :: r => r
  | '\\' :: r => if kind.isSpecial then r else cs
  | r => r

/-- The path of a text that follows a host. -/
def read (kind : SchemeKind) (cs : List Char) : List (List Char) :=
  if kind = .other && cs.isEmpty then [] else resolve kind (split kind (dropSeparator kind cs))

/-! ## Paths of files -/

/-- The empty segments at the start of the path of a file do not count. -/
def dropEmpty (path : List (List Char)) : List (List Char) :=
  let rest := path.dropWhile (· = [])
  if rest.isEmpty then [[]] else rest

/-- The path of a file, from the text after the slash of its root. -/
def readFile (cs : List Char) : List (List Char) := dropEmpty (resolve .file (split .file cs))

/-- Whether raw segments name a drive where no segment of the path stands before it. -/
def hasDriveAfter (path : List (List Char)) : List (List Char) → Bool
  | [] => false
  | raw :: rest =>
    (path.isEmpty && isDrive (visible raw)) || hasDriveAfter (step .file path raw) rest

/-- Whether the path of a file starts with a drive, from the text after the slash of its root. -/
def hasDrive (cs : List Char) : Bool := hasDriveAfter [] (split .file cs)

/-- The text of a path: each segment after a slash. -/
def render (path : List (List Char)) : List Char := path.flatMap ('/' :: ·)

/-! ## Appending segments -/

/-- Removes an empty segment at the end, unless it is the only one. -/
def popIfEmpty (path : List (List Char)) : List (List Char) :=
  if 1 < path.length ∧ path.getLast? = some [] then path.dropLast else path

/-- The path to which a segment is appended: the root has no segments of its own. -/
def openEnd (path : List (List Char)) : List (List Char) :=
  if path = [[]] then [] else path

/-- The set of characters to encode in a segment. -/
def segmentSet (kind : SchemeKind) : Char → Bool :=
  if kind.isSpecial then Percent.specialSegmentSet else Percent.segmentSet

/-- Appends a segment to a path. A segment that is `.` or `..` is left out. One that becomes
`.` when its tabs and line breaks vanish leaves an empty segment, and one that becomes `..`
removes the last segment before it does. -/
def pushSegment (kind : SchemeKind) (path : List (List Char)) (segment : List Char) :
    List (List Char) :=
  if segment = ['.'] ∨ segment = ['.', '.'] then path
  else if visible segment = ['.', '.'] then popSegment (openEnd path) ++ [[]]
  else if visible segment = ['.'] then openEnd path ++ [[]]
  else
    let longer := openEnd path ++ added kind (segmentSet kind) (openEnd path) segment
    if kind = .file then dropEmpty longer else longer

/-- Appends segments one by one. -/
def pushSegments (kind : SchemeKind) (path segments : List (List Char)) : List (List Char) :=
  segments.foldl (pushSegment kind) path

end Path

end WebhookClient.Url
