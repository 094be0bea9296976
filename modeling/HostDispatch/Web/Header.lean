import HostDispatch.Text.Quoted

/-!
# Message headers

A header holds values under names. Names are kept in canonical form: when every character of a
name is a token character, its first letter and each letter after a `-` are made uppercase and the
others lowercase (`content-type` becomes `Content-Type`); a name with any other character is kept
as it is. Adding a value keeps the values already under the name; setting one replaces them all.

A header is shown as the lines `Name: value`, one per value, in text order.
-/

namespace HostDispatch

namespace Header

/-- A token character: a letter, a digit or one of ``!#$%&'*+-.^_`|~``. -/
def isTokenChar (c : Char) : Bool :=
  c.isAlphanum && c.toNat < 0x80 || "!#$%&\x27*+-.^_|~".contains c || c.toNat = 0x60

/-- The canonical form of a name. -/
def canonical (name : String) : String :=
  if !name.toList.all isTokenChar then name
  else
    let step (acc : List Char × Bool) (c : Char) : List Char × Bool :=
      let (out, upper) := acc
      let c := if upper then c.toUpper else c.toLower
      (c :: out, c = '-')
    String.ofList ((name.toList.foldl step ([], true)).1.reverse)

end Header

/-- A header: values under canonical names, in the order they were added. -/
structure Header where
  entries : List (String × String) := []
deriving Inhabited, DecidableEq

namespace Header

/-- Add a value under a name. -/
def add (h : Header) (name value : String) : Header :=
  { entries := h.entries ++ [(canonical name, value)] }

/-- The first value under a name, or the empty text. -/
def get (h : Header) (name : String) : String :=
  ((h.entries.find? (·.1 = canonical name)).map (·.2)).getD ""

/-- Replace the values under a name with one value. -/
def set (h : Header) (name value : String) : Header :=
  let k := canonical name
  { entries := h.entries.filter (·.1 ≠ k) ++ [(k, value)] }

/-- Insert a line into a list in text order. -/
def insertLine (l : String) : List String → List String
  | [] => [l]
  | x :: xs => if l < x then l :: x :: xs else x :: insertLine l xs

/-- The lines `Name: value`, one per value, in text order. -/
def lines (h : Header) : List String :=
  (h.entries.map fun (k, v) => k ++ ": " ++ v).foldr insertLine []

end Header

end HostDispatch
