import HostDispatch.Data.Yaml.Value

/-!
# YAML documents as JSON

The first document of a YAML stream, read as plain data and written as the JSON value that holds
the same data. Reading goes text → tokens → node tree → value; the text is taken in by blocks of
bytes, and one with control characters is refused when their block is taken in. A leading
byte-order mark is dropped.
-/

namespace HostDispatch

namespace Yaml

/-- Why a YAML text has no JSON value: it does not read as YAML, or it holds a value that JSON
cannot write. -/
inductive Fault where
  | unreadable (message : String)
  | unwritable (message : String)

/-- The characters a YAML text may hold. -/
def allowedChar (c : Char) : Bool :=
  let n := c.toNat
  n = 0x09 || n = 0x0A || n = 0x0D || (0x20 ≤ n && n ≤ 0x7E) || n = 0x85 ||
    (0xA0 ≤ n && n ≤ 0xD7FF) || (0xE000 ≤ n && n ≤ 0xFFFD) || (0x10000 ≤ n && n ≤ 0x10FFFF)

/-- The size of the blocks in which the text is taken in, in bytes. -/
def blockSize : Nat := 512

/-- The characters taken in once `needed` characters are: the text comes in blocks of
`blockSize` bytes (the first `lead` bytes being a dropped byte-order mark), at least one block and
as many as it takes to hold the needed characters; a character split by the end of the last block
waits for the next one. -/
def takenIn (lead : Nat) (cs : List Char) (needed : Nat) : List Char :=
  let ends := (cs.foldl (fun (acc : List Nat × Nat) c =>
    let e := acc.2 + (Text.utf8Bytes c).length
    (e :: acc.1, e)) ([], lead)).1.reverse
  let m := min needed cs.length
  let lastEnd := if m = 0 then 0 else ends.getD (m - 1) 0
  let blocks := max 1 ((lastEnd + blockSize - 1) / blockSize)
  ((cs.zip ends).takeWhile fun (_, e) => e ≤ blocks * blockSize).map (·.1)

/-- The value of the first document of a text; none when there is no document or it is null. A
character that YAML does not allow is refused as soon as the block holding it is taken in, which
the first document may not need when a later document holds it. -/
def read (text : String) : Except String (Option Value) := do
  let (lead, text) := match text.toList with
    | '\uFEFF' :: rest => (3, String.ofList rest)
    | _ => (0, text)
  let (composed, reached) := compose text
  if !(takenIn lead text.toList reached).all allowedChar then
    throw "yaml: control characters are not allowed"
  match ← composed with
  | none => return none
  | some root =>
    let fuel := text.length * 2 + 8
    match (decode fuel root).run ⟨#[], 0, 0, 0⟩ with
    | .error e _ => throw e
    | .ok v d =>
      if !d.reports.isEmpty then
        throw ("yaml: unmarshal errors:\n  " ++ "\n  ".intercalate d.reports.toList)
      match v with
      | .null => return none
      | other => return some other

/-- The JSON value of the first document of a text; none when the document is empty or null. -/
def toJson (text : String) : Except Fault (Option Json) :=
  match read text with
  | .error e => .error (.unreadable e)
  | .ok none => .ok none
  | .ok (some v) =>
    match v.toJson (text.length * 4 + 8) with
    | .error e => .error (.unwritable e)
    | .ok j => .ok (some j)

end Yaml

end HostDispatch
