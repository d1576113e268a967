/-!
# Named alternatives

A type with finitely many members, each known outside by a name of its own. Reading a name is
the inverse of writing it.
-/

namespace SchemaLens

/-- A type whose members have names. -/
class Named (Member : Type) where
  /-- All members. -/
  members : List Member
  /-- The name of a member. -/
  name : Member → String
  /-- Every member is the first of its name. -/
  find?_name : ∀ member, (members.find? fun other => name other == name member) = some member := by
    intro member
    cases member <;> rfl

namespace Named

variable {Member : Type} [Named Member]

/-- The member with exactly this name. -/
def ofName? (text : String) : Option Member :=
  members.find? fun member => name member == text

theorem ofName?_name (member : Member) : ofName? (name member) = some member :=
  find?_name member

theorem name_of_ofName? {text : String} {member : Member} (found : ofName? text = some member) :
    name member = text := by
  simpa using List.find?_some found

end Named

end SchemaLens
