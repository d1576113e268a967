import SchemaLens.Toml.Value

/-!
# Building tables

How a table grows line by line. A header opens a table that no line has written before, a
repeated header adds a table to a list, and an assignment adds one value. Nothing is ever written
twice: each operation is `none` where it would be.
-/

namespace SchemaLens.Toml

/-- The members of a table with a new value for one of the names. -/
def replace (name : String) (value : Value) (members : Members) : Members :=
  members.map fun member => if member.1 = name then (name, value) else member

/-- Changes the table at the end of a path, tables on the way being made where they are missing.
A path of dotted keys does not pass through a table that has a header. -/
def alterAt (dotted : Bool) (change : Origin → Members → Option (Origin × Members)) :
    List String → Origin → Members → Option (Origin × Members)
  | [], origin, members => change origin members
  | name :: path, origin, members =>
    match members.lookup name with
    | none => do
      let (inner, content) ← alterAt dotted change path (if dotted then .dotted else .path) []
      return (origin, members ++ [(name, .table inner content)])
    | some (.table inner content) =>
      if inner = .inline ∨ (dotted ∧ !inner.isImplicit) then none
      else do
        let (inner, content) ← alterAt dotted change path inner content
        return (origin, replace name (.table inner content) members)
    | some (.tables elements) =>
      match elements.getLast? with
      | some (.table inner content) => do
        let (inner, content) ← alterAt dotted change path inner content
        let elements := elements.dropLast ++ [.table inner content]
        return (origin, replace name (.tables elements) members)
      | _ => none
    | some _ => none

/-- Adds a value under a name that is not in use. -/
def addValue (name : String) (value : Value) (members : Members) : Option Members :=
  if (members.lookup name).isSome then none else some (members ++ [(name, value)])

/-- Assigns a value to a dotted key inside the table at hand. The last table on the way has to be
one that dotted keys have made. -/
def assign (path : List String) (name : String) (value : Value) (origin : Origin)
    (members : Members) : Option (Origin × Members) :=
  alterAt true
    (fun inner content =>
      if decide (inner = .dotted) == path.isEmpty then none
      else (addValue name value content).map (inner, ·))
    path origin members

/-- Opens the table of a header. A table that is only on the way to others can still get one. -/
def openTable (path : List String) (name : String) (members : Members) : Option Members :=
  (alterAt false
    (fun origin content =>
      match content.lookup name with
      | none => some (origin, content ++ [(name, .table .header [])])
      | some (.table .path inner) => some (origin, replace name (.table .header inner) content)
      | some _ => none)
    path .header members).map Prod.snd

/-- Adds a table under a repeated header. -/
def appendTable (path : List String) (name : String) (members : Members) : Option Members :=
  (alterAt false
    (fun origin content =>
      match content.lookup name with
      | none => some (origin, content ++ [(name, .tables [.table .header []])])
      | some (.tables elements) =>
        some (origin, replace name (.tables (elements ++ [.table .header []])) content)
      | some _ => none)
    path .header members).map Prod.snd

/-- Assigns a value to a dotted key inside the table of a header. -/
def assignUnder (header path : List String) (name : String) (value : Value) (members : Members) :
    Option Members :=
  (alterAt false (assign path name value) header .header members).map Prod.snd

end SchemaLens.Toml
