/-!
# Capital case

Names of models and fields are made from raw identifiers: each run of ASCII letters becomes a
capital followed by small letters, digits stay as they are and everything else is dropped. A
digit ends a run, so `ip4_addr` becomes `Ip4Addr`.
-/

namespace SchemaLens.Naming

/-- Capital case of a text, where `atStart` tells whether the next letter begins a run. -/
def capitalCaseFrom (atStart : Bool) : List Char → List Char
  | [] => []
  | character :: rest =>
    if character.isAlpha then
      (if atStart then character.toUpper else character.toLower) :: capitalCaseFrom false rest
    else if character.isDigit then character :: capitalCaseFrom true rest
    else capitalCaseFrom true rest

/-- The capital case of an identifier. -/
def capitalCase (identifier : String) : String :=
  String.ofList (capitalCaseFrom true identifier.toList)

end SchemaLens.Naming
