/-!
# White space

The white-space characters by the Unicode `White_Space` property: the ASCII tab, line feed,
vertical tab, form feed, carriage return and space, next line, no-break space, and the spaces and
separators of the general punctuation block. Fields of a text are its longest runs without white
space; trimming drops white space at both ends.
-/

namespace HostDispatch

namespace Text

/-- Whether a character is white space. -/
def isSpace (c : Char) : Bool :=
  let n := c.toNat
  (9 ≤ n && n ≤ 13) || n = 32 || n = 0x85 || n = 0xA0 || n = 0x1680 ||
    (0x2000 ≤ n && n ≤ 0x200A) || n = 0x2028 || n = 0x2029 || n = 0x202F || n = 0x205F ||
    n = 0x3000

/-- The runs of characters between white space, without empty runs. -/
def fields (s : String) : List String :=
  (s.toList.splitBy (fun a b => isSpace a == isSpace b)).filterMap fun run =>
    match run with
    | c :: _ => if isSpace c then none else some (String.ofList run)
    | [] => none

/-- A text without white space at either end. -/
def trim (s : String) : String :=
  String.ofList ((s.toList.dropWhile isSpace).reverse.dropWhile isSpace).reverse

end Text

end HostDispatch
