import SchemaLens.Query.Kind
import SchemaLens.Text.Quoted

/-!
# Filter errors

Why a filter parameter could not be read, and the message that says so.
-/

namespace SchemaLens.Query

/-- Why a text is no count. -/
inductive CountFault where
  /-- There is no text. -/
  | empty
  /-- A character is no digit. -/
  | invalidDigit
  /-- The number does not fit 64 bits. -/
  | tooLarge
deriving DecidableEq, Repr

/-- What is wrong with a count, in words. -/
def CountFault.message : CountFault → String
  | .empty => "cannot parse integer from empty string"
  | .invalidDigit => "invalid digit found in string"
  | .tooLarge => "number too large to fit in target type"

/-- Why a filter parameter could not be read. -/
inductive FilterError where
  /-- The kind of query has no filter of this keyword. -/
  | unknownFilter (keyword : String) (kind : QueryKind)
  /-- The value of a limit or a skip is no count. -/
  | invalidNumber (filterType : FilterType) (value : String) (fault : CountFault)
  /-- The last segment of a condition names no operator. -/
  | unknownOperator (word : String)
  /-- The path has a shape that the filter does not take. -/
  | invalidPath (key : String)
  /-- The flag of a field says neither true nor false. -/
  | invalidFlag (key value : String)
  /-- A condition without field and operator. -/
  | bareCondition
deriving DecidableEq, Repr

/-- What is wrong, in words. Values are quoted, everything else stands as it is. -/
def FilterError.message : FilterError → String
  | .unknownFilter keyword kind => keyword ++ " is not a valid filter for a " ++ kind.title
  | .invalidNumber filterType value fault =>
    "invalid value " ++ Text.quoted value ++ " for the " ++ Named.name filterType ++
      " filter, it is not a valid integer: " ++ fault.message
  | .unknownOperator word => "unknown where operator: " ++ word
  | .invalidPath key => "invalid filter path: " ++ key
  | .invalidFlag key value =>
    "invalid fields flag " ++ Text.quoted value ++ " for " ++ key ++ ", expected true or false"
  | .bareCondition =>
    "the where filter is not supported in this form: " ++
      "expected filter[where][<field>][<operator>]"

end SchemaLens.Query
