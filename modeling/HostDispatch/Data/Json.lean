/-!
# JSON values

Requests arrive and answers leave as JSON, and configuration files are JSON documents, so the
library carries one tree type for them. Numbers keep the text they were written with: whether a
request field is a 64-bit integer, and how a decoded number reads back, are questions about that
text. Object members keep their order; the writer sorts keys, as answers are written with sorted
keys.
-/

namespace HostDispatch

/-- A JSON tree. A number holds its literal text; an object holds its members in input order. -/
inductive Json where
  | null
  | bool (b : Bool)
  | num (text : String)
  | str (s : String)
  | arr (items : List Json)
  | obj (fields : List (String × Json))
deriving Inhabited, Repr

namespace Json

mutual
/-- Equality of trees, decided node by node. -/
def decEq : (a b : Json) → Decidable (a = b)
  | .null, .null => isTrue rfl
  | .bool x, .bool y => if h : x = y then isTrue (h ▸ rfl) else isFalse fun e => h (Json.bool.inj e)
  | .num x, .num y => if h : x = y then isTrue (h ▸ rfl) else isFalse fun e => h (Json.num.inj e)
  | .str x, .str y => if h : x = y then isTrue (h ▸ rfl) else isFalse fun e => h (Json.str.inj e)
  | .arr xs, .arr ys =>
    match decEqItems xs ys with
    | isTrue h => isTrue (h ▸ rfl)
    | isFalse h => isFalse fun e => h (Json.arr.inj e)
  | .obj xs, .obj ys =>
    match decEqMembers xs ys with
    | isTrue h => isTrue (h ▸ rfl)
    | isFalse h => isFalse fun e => h (Json.obj.inj e)
  | .null, .bool _ | .null, .num _ | .null, .str _ | .null, .arr _ | .null, .obj _
  | .bool _, .null | .bool _, .num _ | .bool _, .str _ | .bool _, .arr _ | .bool _, .obj _
  | .num _, .null | .num _, .bool _ | .num _, .str _ | .num _, .arr _ | .num _, .obj _
  | .str _, .null | .str _, .bool _ | .str _, .num _ | .str _, .arr _ | .str _, .obj _
  | .arr _, .null | .arr _, .bool _ | .arr _, .num _ | .arr _, .str _ | .arr _, .obj _
  | .obj _, .null | .obj _, .bool _ | .obj _, .num _ | .obj _, .str _ | .obj _, .arr _ =>
    isFalse nofun

/-- Equality of item lists, decided item by item. -/
def decEqItems : (xs ys : List Json) → Decidable (xs = ys)
  | [], [] => isTrue rfl
  | [], _ :: _ | _ :: _, [] => isFalse nofun
  | x :: xs, y :: ys =>
    match decEq x y, decEqItems xs ys with
    | isTrue h, isTrue h' => isTrue (h ▸ h' ▸ rfl)
    | isFalse h, _ => isFalse fun e => h (List.cons.inj e).1
    | _, isFalse h => isFalse fun e => h (List.cons.inj e).2

/-- Equality of member lists, decided member by member. -/
def decEqMembers : (xs ys : List (String × Json)) → Decidable (xs = ys)
  | [], [] => isTrue rfl
  | [], _ :: _ | _ :: _, [] => isFalse nofun
  | (k, x) :: xs, (l, y) :: ys =>
    if hk : k = l then
      match decEq x y, decEqMembers xs ys with
      | isTrue h, isTrue h' => isTrue (hk ▸ h ▸ h' ▸ rfl)
      | isFalse h, _ => isFalse fun e => h (Prod.mk.inj (List.cons.inj e).1).2
      | _, isFalse h => isFalse fun e => h (List.cons.inj e).2
    else isFalse fun e => hk (Prod.mk.inj (List.cons.inj e).1).1
end

instance : DecidableEq Json := decEq

/-- A number written from an integer. -/
def int (n : Int) : Json := .num (toString n)

/-- A number written from a natural number. -/
def nat (n : Nat) : Json := .num (toString n)

/-- The value of a member, the last one when a key repeats. -/
def get? (j : Json) (key : String) : Option Json :=
  match j with
  | .obj fs => (fs.reverse.find? (fun kv => kv.1 == key)).map (·.2)
  | _ => none

/-- Whether an object has a member of this name. -/
def has (j : Json) (key : String) : Bool := (j.get? key).isSome

/-- An option of a JSON value, with `null` for nothing. -/
def ofOption {α : Type} (f : α → Json) : Option α → Json
  | some a => f a
  | none => .null

/-- Hexadecimal digit of a nibble, lowercase. -/
def hexDigit (n : Nat) : Char :=
  if n < 10 then Char.ofNat (48 + n) else Char.ofNat (87 + n)

/-- Four lowercase hex digits of a code unit below 65536. -/
def hex4 (n : Nat) : String :=
  String.ofList [hexDigit (n / 4096 % 16), hexDigit (n / 256 % 16), hexDigit (n / 16 % 16),
    hexDigit (n % 16)]

/-- One character inside a written string: quotes, backslashes and control characters are escaped,
and the two line separators of JavaScript too; everything else is written as it is. -/
def escapeChar (c : Char) : String :=
  if c = '"' then "\\\""
  else if c = '\\' then "\\\\"
  else if c = '\n' then "\\n"
  else if c = '\r' then "\\r"
  else if c = '\t' then "\\t"
  else if c.toNat < 32 || c.toNat = 0x2028 || c.toNat = 0x2029 then "\\u" ++ hex4 c.toNat
  else c.toString

/-- A string literal with its quotes. -/
def quote (s : String) : String :=
  "\"" ++ String.join (s.toList.map escapeChar) ++ "\""

/-- Insertion of a written member into a list sorted by key. -/
def insertByKey (kv : String × String) : List (String × String) → List (String × String)
  | [] => [kv]
  | x :: xs => if kv.1 < x.1 then kv :: x :: xs else x :: insertByKey kv xs

/-- Written members sorted by key and joined, the order in which answers are written. -/
def joinMembers (ms : List (String × String)) : String :=
  ",".intercalate ((ms.foldr insertByKey []).map (fun kv => quote kv.1 ++ ":" ++ kv.2))

mutual
/-- The compact text of a value, object keys in sorted order. -/
def render : Json → String
  | .null => "null"
  | .bool b => if b then "true" else "false"
  | .num t => t
  | .str s => quote s
  | .arr items => "[" ++ ",".intercalate (renderItems items) ++ "]"
  | .obj fs => "\x7b" ++ joinMembers (renderMembers fs) ++ "\x7d"

/-- The text of each array item. -/
def renderItems : List Json → List String
  | [] => []
  | x :: xs => render x :: renderItems xs

/-- The text of each member's value, beside its key. -/
def renderMembers : List (String × Json) → List (String × String)
  | [] => []
  | (k, v) :: rest => (k, render v) :: renderMembers rest
end

end Json

end HostDispatch
