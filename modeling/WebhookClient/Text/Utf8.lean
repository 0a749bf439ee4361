/-!
# Text as bytes

The UTF-8 bytes of a text, and the text of any bytes: where bytes are not UTF-8, each longest
run of bytes that starts a character without ending it is read as one replacement character.
-/

set_option autoImplicit false

namespace WebhookClient.Utf8

/-- The bytes of a character. -/
def encodeChar (c : Char) : List UInt8 := String.utf8EncodeChar c

/-- The bytes of a text. -/
def encode (cs : List Char) : List UInt8 := cs.flatMap encodeChar

/-- The character read where bytes are not UTF-8. -/
def replacement : Char := '\ufffd'

/-- A byte that continues a character. -/
def isContinuation (b : UInt8) : Bool := 0x80 ≤ b && b ≤ 0xBF

/-- How many bytes follow a first byte; `none` for a byte that is not first in any character. -/
def followers? (b : UInt8) : Option Nat :=
  if b < 0x80 then some 0
  else if 0xC2 ≤ b && b ≤ 0xDF then some 1
  else if 0xE0 ≤ b && b ≤ 0xEF then some 2
  else if 0xF0 ≤ b && b ≤ 0xF4 then some 3
  else none

/-- Whether a second byte may follow a first one: besides being a continuation, it must not make
the character too small for its length, half of a pair, or too large. -/
def isSecond (first second : UInt8) : Bool :=
  isContinuation second &&
    (if first = 0xE0 then 0xA0 ≤ second
    else if first = 0xED then second ≤ 0x9F
    else if first = 0xF0 then 0x90 ≤ second
    else if first = 0xF4 then second ≤ 0x8F
    else true)

/-- The code point of a first byte and the bytes after it. -/
def codePoint (first : UInt8) (rest : List UInt8) : Nat :=
  let lead :=
    match rest.length with
    | 0 => first.toNat
    | 1 => first.toNat % 0x20
    | 2 => first.toNat % 0x10
    | _ => first.toNat % 0x08
  rest.foldl (fun n b => n * 0x40 + b.toNat % 0x40) lead

/-- The bytes after a first byte that belong to its character, as far as they are there. -/
def continuations (first : UInt8) (n : Nat) (bs : List UInt8) : List UInt8 :=
  match n, bs with
  | 0, _ => []
  | _, [] => []
  | n + 1, b :: bs =>
    if isSecond first b then b :: (bs.take n).takeWhile isContinuation else []

/-- The text of bytes. -/
def decode (bs : List UInt8) : List Char :=
  match bs with
  | [] => []
  | b :: bs =>
    match followers? b with
    | none => replacement :: decode bs
    | some n =>
      let more := continuations b n bs
      (if more.length = n then Char.ofNat (codePoint b more) else replacement) ::
        decode (bs.drop more.length)
termination_by bs.length
decreasing_by
  all_goals simp only [List.length_cons, List.length_drop]
  all_goals omega

end WebhookClient.Utf8
