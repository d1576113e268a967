import SchemaLens.Proofs.Query.FormEncoding
import SchemaLens.Proofs.Query.Values

/-!
# Joined query strings

Two query strings joined by an ampersand are read as one after the other. The text is cut at its
ampersands before anything in it is decoded, so neither an escape nor a character whose bytes are
escaped one by one goes on behind an ampersand, however malformed the two texts are. Only a question
mark counts at the start of a query string and nowhere else, so the second text may not start with
one.
-/

namespace SchemaLens.Query

namespace FormEncoding

theorem withoutQuestionMark_append_ampersand (text rest : List Char) :
    withoutQuestionMark (text ++ '&' :: rest) = withoutQuestionMark text ++ '&' :: rest := by
  by_cases marked : text.head? = some '?'
  · rcases List.head?_eq_some_iff.mp marked with ⟨behind, rfl⟩
    rfl
  · have joined_unmarked : (text ++ '&' :: rest).head? ≠ some '?' := by
      cases text with
      | nil => simp
      | cons first others => exact marked
    rw [withoutQuestionMark_of_head?_ne joined_unmarked, withoutQuestionMark_of_head?_ne marked]

theorem splitOn_append_cons (separator : Char) (text rest : List Char) :
    (text ++ separator :: rest).splitOn separator =
      text.splitOn separator ++ rest.splitOn separator := by
  simp only [List.splitOn_eq_splitOnP]
  exact List.splitOnP_append_cons text rest (beq_self_eq_true separator)

/-- What stands behind an ampersand is read as if it stood alone. -/
theorem pairs_append_ampersand {rest : List Char} (no_mark : rest.head? ≠ some '?')
    (text : List Char) : pairs (text ++ '&' :: rest) = pairs text ++ pairs rest := by
  have rest_eq := withoutQuestionMark_of_head?_ne no_mark
  rw [pairs, withoutQuestionMark_append_ampersand, splitOn_append_cons, List.filter_append,
    List.map_append, pairs, pairs, rest_eq]

end FormEncoding

namespace Values

theorem parse_append_ampersand {rest : String} (no_mark : rest.toList.head? ≠ some '?')
    (query : String) :
    parse (query ++ "&" ++ rest) =
      ofPairs (FormEncoding.pairs query.toList ++ FormEncoding.pairs rest.toList) := by
  have joined : (query ++ "&" ++ rest).toList = query.toList ++ '&' :: rest.toList := by
    rw [String.toList_append, String.toList_append, List.append_assoc]
    rfl
  rw [parse, joined, FormEncoding.pairs_append_ampersand no_mark]

/--
Joined query strings have the keys of the first, then those of the second that the first lacks, each
in their order, and every key has its values in the first and then those in the second.
-/
theorem parse_joined {rest : String} (no_mark : rest.toList.head? ≠ some '?') (query : String) :
    (parse (query ++ "&" ++ rest)).keys =
        (parse query).keys ++ (parse rest).keys.filter (fun key => key ∉ (parse query).keys) ∧
      ∀ key, ((parse (query ++ "&" ++ rest)).get? key).getD [] =
        ((parse query).get? key).getD [] ++ ((parse rest).get? key).getD [] := by
  rw [parse_append_ampersand no_mark]
  constructor
  · rw [keys_ofPairs, List.map_append, eraseDups_append_filter, ← keys_ofPairs, ← keys_ofPairs]
    simp only [← mem_keys_ofPairs]
    rfl
  · intro key
    rw [getD_get?_ofPairs, valuesOf_append, ← getD_get?_ofPairs, ← getD_get?_ofPairs]
    rfl

/-- Neither the percent sign at the end of the first text nor the character it breaks off in goes
on in the second one. -/
theorem parse_joined_cut_escapes :
    "%A9=1&&a%4=+&41=".toList.head? ≠ some '?' ∧
      (parse "?%C3=0&&a%4&b=%").keys = ["\uFFFD", "a%4", "b"] ∧
      (parse "%A9=1&&a%4=+&41=").keys = ["\uFFFD", "a%4", "41"] ∧
      (parse ("?%C3=0&&a%4&b=%" ++ "&" ++ "%A9=1&&a%4=+&41=")).keys =
        ["\uFFFD", "a%4", "b", "41"] ∧
      ((parse ("?%C3=0&&a%4&b=%" ++ "&" ++ "%A9=1&&a%4=+&41=")).get? "a%4").getD [] =
        ["", " "] := by
  have no_mark : "%A9=1&&a%4=+&41=".toList.head? ≠ some '?' := by decide +kernel
  have joined := parse_joined no_mark "?%C3=0&&a%4&b=%"
  exact ⟨no_mark, by decide +kernel, by decide +kernel, joined.1.trans (by decide +kernel),
    (joined.2 "a%4").trans (by decide +kernel)⟩

end Values

end SchemaLens.Query
