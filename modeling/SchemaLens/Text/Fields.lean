/-!
# Fields of a text

The stretches of a text between separators, without the empty ones. A list of field names is
read this way.
-/

namespace SchemaLens.Text

/-- The non-empty stretches of a text between the characters that separate. -/
def fields (separates : Char → Bool) (text : List Char) : List (List Char) :=
  (text.splitOnP separates).filter (!·.isEmpty)

theorem ne_nil_of_mem_fields {separates : Char → Bool} {text field : List Char}
    (field_mem : field ∈ fields separates text) : field ≠ [] := by
  have := (List.mem_filter.mp field_mem).2
  simpa using this

end SchemaLens.Text
