import HostDispatch.Data.Json.Parse

/-!
# Reading values one after another

A stream of JSON text holds values one after another, separated by blanks. Reading the next value
skips blanks, reports the end of the stream when nothing else is left, and otherwise reads one
value: a fault in it is reported as the scanner words it, and text that ends inside it as an
unexpected end. An object or array ends at its closing bracket; a number, string or literal at the
top must be followed by a blank or the end of the text.
-/

namespace HostDispatch

namespace Json

/-- What reading the next value of a stream gives. -/
inductive Next where
  | value (j : Json) (rest : List Char)
  | finished
  | fault (message : String)
deriving DecidableEq

/-- Whether a value is a number, string or literal. -/
def isScalar : Json → Bool
  | .arr _ | .obj _ => false
  | _ => true

/-- Read the next value of a stream. -/
def next (cs : List Char) : Next :=
  let cs := skipBlank cs
  if cs.isEmpty then .finished
  else
    match readPrefix cs with
    | .error (.malformed m) => .fault m
    | .error .endOfInput => .fault "unexpected EOF"
    | .ok (v, rest) =>
      match rest with
      | c :: _ =>
        if isScalar v && !isBlank c then
          .fault ("invalid character " ++ quoteByte c ++ " after top-level value")
        else .value v rest
      | [] => .value v rest

end Json

end HostDispatch
