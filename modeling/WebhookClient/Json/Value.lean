import WebhookClient.Json.Number

/-!
# JSON values

A JSON value, its compact text, and equality of values. The members of an object keep their
order; `Json.insert` keeps them sorted by name without repetition, as objects that come from a
text of unknown shape are.
-/

set_option autoImplicit false

universe u

namespace WebhookClient

/-- A JSON value. -/
inductive Json where
  | null
  | bool (b : Bool)
  | number (n : Json.Number)
  | string (s : String)
  | list (items : List Json)
  | object (members : List (String × Json))

namespace Json

instance : Inhabited Json := ⟨.null⟩

/-- The integer `n`. -/
def ofNat (n : Nat) : Json := .number (.int n)

/-- The integer `i`. -/
def ofInt (i : Int) : Json := .number (.int i)

/-! ## Equality -/

mutual

/-- Equality of values: numbers by the number denoted, objects member by member. -/
def beq : Json → Json → Bool
  | .null, .null => true
  | .bool a, .bool b => a == b
  | .number a, .number b => a.numEq b
  | .string a, .string b => a == b
  | .list a, .list b => beqList a b
  | .object a, .object b => beqMembers a b
  | _, _ => false

def beqList : List Json → List Json → Bool
  | [], [] => true
  | a :: as, b :: bs => beq a b && beqList as bs
  | _, _ => false

def beqMembers : List (String × Json) → List (String × Json) → Bool
  | [], [] => true
  | (k, a) :: as, (l, b) :: bs => k == l && beq a b && beqMembers as bs
  | _, _ => false

end

instance : BEq Json := ⟨beq⟩

/-! ## Members sorted by name -/

/-- Puts a member into a list of members sorted by name; an earlier member of that name is
replaced. Names are compared by code points. -/
def insert {α : Type u} (name : String) (value : α) : List (String × α) → List (String × α)
  | [] => [(name, value)]
  | (k, v) :: rest =>
    if name < k then (name, value) :: (k, v) :: rest
    else if name = k then (name, value) :: rest
    else (k, v) :: insert name value rest

/-- The member of a name. -/
def lookup {α : Type u} (name : String) (members : List (String × α)) : Option α :=
  (members.find? fun m => m.1 = name).map (·.2)

/-! ## Text -/

/-- A character of a string: quote, backslash and controls are escaped. -/
def escapeChar (c : Char) : List Char :=
  match c with
  | '"' => ['\\', '"']
  | '\\' => ['\\', '\\']
  | '\x08' => ['\\', 'b']
  | '\x0c' => ['\\', 'f']
  | '\n' => ['\\', 'n']
  | '\r' => ['\\', 'r']
  | '\t' => ['\\', 't']
  | c =>
    if c.toNat < 0x20 then
      ['\\', 'u', '0', '0', Nat.digitChar (c.toNat / 16), Nat.digitChar (c.toNat % 16)]
    else [c]

/-- A string between quotes. -/
def renderString (s : String) : List Char := '"' :: (s.toList.flatMap escapeChar ++ ['"'])

mutual

/-- The compact text of a value: no blanks, members in the order they have. -/
def render : Json → List Char
  | .null => ['n', 'u', 'l', 'l']
  | .bool true => ['t', 'r', 'u', 'e']
  | .bool false => ['f', 'a', 'l', 's', 'e']
  | .number n => n.render
  | .string s => renderString s
  | .list items => '[' :: renderItems items
  | .object members => '\x7b' :: renderMembers members

/-- The items of a list, separated by commas, and the closing bracket. -/
def renderItems : List Json → List Char
  | [] => [']']
  | [a] => render a ++ [']']
  | a :: b :: rest => render a ++ ',' :: renderItems (b :: rest)

/-- The members of an object, separated by commas, and the closing brace. -/
def renderMembers : List (String × Json) → List Char
  | [] => ['\x7d']
  | [(k, a)] => renderString k ++ ':' :: (render a ++ ['\x7d'])
  | (k, a) :: m :: rest => renderString k ++ ':' :: (render a ++ ',' :: renderMembers (m :: rest))

end

/-- The compact text of a value. -/
def toText (j : Json) : String := String.ofList j.render

end Json

end WebhookClient
