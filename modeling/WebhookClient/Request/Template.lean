import WebhookClient.Failure
import WebhookClient.Json.Dict

/-!
# Path templates

A template is a path in which groups, names between braces, stand for values. It is filled in
segment by segment: each group is replaced by its value once, and what a value brings in is not
looked at again. A brace that no group is made of stands for itself.

A segment with a group must not come out empty or as `.` or `..`, which would lead to another
path.
-/

set_option autoImplicit false

namespace WebhookClient

namespace Template

/-- A piece of a segment. -/
inductive Piece where
  | char (c : Char)
  /-- A name between braces. -/
  | group (name : List Char)
deriving DecidableEq, Repr

/-- The pieces of a segment; `open?` holds the part of a name that has been read after an opening
brace. A group ends at the first closing brace after its opening one. -/
def pieces (open? : Option (List Char)) : List Char → List Piece
  | [] => []
  | c :: cs =>
    match open? with
    | none =>
      -- An opening brace that is never closed stands for itself.
      if c = '\x7b' ∧ '\x7d' ∈ cs then pieces (some []) cs else .char c :: pieces none cs
    | some name =>
      if c = '\x7d' then .group name :: pieces none cs else pieces (some (name ++ [c])) cs

/-- The names in a segment. -/
def names (ps : List Piece) : List (List Char) :=
  ps.filterMap fun
    | .group n => some n
    | .char _ => none

/-- The segments of a template; empty ones do not count. -/
def segments (template : String) : List (List Piece) :=
  ((template.toList.splitOn '/').filter (· ≠ [])).map (pieces none)

/-- Values under the names of groups. -/
abbrev Values := Dict String

/-- A piece with the values filled in. -/
def fillPiece (values : Values) : Piece → List Char
  | .char c => [c]
  | .group n => ((values.get? (String.ofList n)).getD "").toList

/-- A segment with the values filled in. -/
def fill (values : Values) (ps : List Piece) : List Char := ps.flatMap (fillPiece values)

/-- The segments that lead to another path. -/
def isMisleading (cs : List Char) : Bool := cs = [] || cs = ['.'] || cs = ['.', '.']

/-- Fills in a segment, if every group has a value and the segment stays one of the path. The
first group without a value is reported, or else the last one with its value. -/
def expandSegment (template : String) (values : Values) (ps : List Piece) :
    Except Failure (List Char) :=
  match (names ps).find? fun n => (values.get? (String.ofList n)).isNone with
  | some n => .error (.missingPathParam (String.ofList n) template)
  | none =>
    match (names ps).getLast? with
    | some n =>
      if isMisleading (fill values ps) then
        .error (.invalidPathParam (String.ofList n)
          ((values.get? (String.ofList n)).getD "") template)
      else .ok (fill values ps)
    | none => .ok (fill values ps)

/-- Fills in all segments of a template; the first segment that fails is reported. -/
def expand (template : String) (values : Values) : Except Failure (List (List Char)) :=
  (segments template).mapM (expandSegment template values)

end Template

end WebhookClient
