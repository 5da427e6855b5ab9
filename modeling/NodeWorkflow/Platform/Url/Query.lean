import NodeWorkflow.Text.Lenient
import NodeWorkflow.Files.Path
import NodeWorkflow.Platform.Url.Percent

/-!
# Queries

A query is a list of names with values, in which a name may stand more than once. A plus sign stands
for a space.

Part of the platform: the client for requests writes queries this way. No statement of the library
is about it.

## Main definitions

* `Query.parse` reads a query and gathers the values of a name where it first stands.
* `Query.write` writes a query.
-/

namespace NodeWorkflow

/-- The values under the names of a query. -/
abbrev Query := Entries String (List String)

namespace Query

/-- A name or a value of a query. -/
def readPart (cs : List Char) : String :=
  String.ofList (Lenient.decode (Url.unescape (cs.map fun c => if c = '+' then ' ' else c)))

/-- A name and the value behind the first equals sign, which is empty without one. -/
def readPair (cs : List Char) : String × String :=
  (readPart (cs.takeWhile (· ≠ '=')), readPart ((cs.dropWhile (· ≠ '=')).drop 1))

def pairs (query : List Char) : List (String × String) :=
  ((pieces '&' query).filter (· ≠ [])).map readPair

def parse (query : List Char) : Query :=
  (pairs query).foldl
    (fun q kv => Entries.put q kv.1 ((Entries.get? q kv.1).getD [] ++ [kv.2])) []

def writePart (text : String) : List Char :=
  (Url.escape (· == ' ') text.toList).map fun c => if c = ' ' then '+' else c

def write (q : Query) : List Char :=
  let written := q.flatMap fun (name, values) =>
    values.map fun v => writePart name ++ '=' :: writePart v
  List.intercalate ['&'] written

/-- The first value under a name. -/
def first? (q : Query) (name : String) : Option String :=
  (Entries.get? q name).bind List.head?

end Query

end NodeWorkflow
