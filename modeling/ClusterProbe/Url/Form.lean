import ClusterProbe.Text.Pieces
import ClusterProbe.Url.Percent

/-!
# Parameters of a query

A query is a list of names and values, written as in a form: an ampersand between two parameters, an
equals sign between name and value, a plus sign for a space, and every other character that is not
harmless encoded. `parameters` reads such a query back.
-/

namespace ClusterProbe.Url

/-- The characters that a parameter keeps. -/
def isPlainInForm (c : Char) : Bool := c.isAlphanum || ['*', '-', '.', '_'].contains c

/-- A name or a value, encoded. -/
def formEncode (cs : List Char) : List Char :=
  cs.flatMap fun c ↦
    if c = ' ' then ['+']
    else if isPlainInForm c then [c]
    else (String.utf8EncodeChar c).flatMap encodeOctet

/-- A parameter. -/
def formPair (p : String × String) : List Char :=
  formEncode p.1.toList ++ '=' :: formEncode p.2.toList

/-- A query with parameters behind those it has. Where nothing has been asked for there is no
query. -/
def appendPairs (query : Option (List Char)) (pairs : List (String × String)) :
    Option (List Char) :=
  let front := match query with
    | some q => if q.isEmpty then [] else [q]
    | none => []
  let all := front ++ pairs.map formPair
  if all.isEmpty then none else some (Text.join ['&'] all)

/-- A name or a value, decoded. -/
def formDecode (cs : List Char) : String :=
  String.ofList (Text.decodeLossy (decode (cs.map fun c ↦ if c = '+' then ' ' else c)))

/-- The parameters of a query; empty stretches between ampersands are none. -/
def parameters (query : List Char) : List (String × String) :=
  ((Text.pieces '&' query).filter (!·.isEmpty)).map fun part ↦
    let (name, rest) := part.span (· ≠ '=')
    (formDecode name, formDecode (rest.drop 1))

end ClusterProbe.Url
