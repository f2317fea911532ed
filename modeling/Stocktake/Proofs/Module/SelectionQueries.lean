import Stocktake.Module.Packages
import Stocktake.Proofs.Text.Literals

/-!
# Queries for selections of packages

The names of the tags stand as literals in the condition of the query.  Whatever the names are, even if they
look like parts of the query, the literals of the condition are read back as the names, so that no two
selections have the same query.  Main statement: `literals_of_selectionQuery`.
-/

namespace Stocktake

namespace Text

/-- The texts of the literals that stand before the parenthesis that closes a clause. -/
def clauseLiterals? : List Char → Option (List String)
  | [] => none
  | c :: rest =>
    if c = ')' then some []
    else if c = '"' then
      match _h : readQuoted? rest with
      | none => none
      | some (text, after) => (clauseLiterals? after).map (String.ofList text :: ·)
    else clauseLiterals? rest
termination_by s => s.length
decreasing_by
  · exact Nat.lt_succ_of_lt (length_of_readQuoted? _h)
  · exact Nat.lt_succ_self _

/-- The texts of the literals in the first condition of a query. -/
def conditionLiterals? (query : String) : Option (List String) :=
  (splitOnce? "FILTER (".toList query.toList).bind fun cut => clauseLiterals? cut.2

theorem clauseLiterals?_append_of_not_mem {word : List Char} (hquote : '"' ∉ word) (hclose : ')' ∉ word)
    (s : List Char) : clauseLiterals? (word ++ s) = clauseLiterals? s := by
  induction word with
  | nil => rfl
  | cons c word ih =>
    rw [List.cons_append, clauseLiterals?, if_neg (List.ne_of_not_mem_cons hclose).symm,
      if_neg (List.ne_of_not_mem_cons hquote).symm,
      ih (List.not_mem_of_not_mem_cons hquote) (List.not_mem_of_not_mem_cons hclose)]

theorem clauseLiterals?_literal_append (text : String) (s : List Char) :
    clauseLiterals? ((Vocabulary.literal text).toList ++ s) = (clauseLiterals? s).map (text :: ·) := by
  rw [toList_literal_append, clauseLiterals?, if_neg (by decide), if_pos rfl]
  split
  · rename_i hnone
    rw [readQuoted?_flatMap_literalChar] at hnone
    cases hnone
  · rename_i after hsome
    rw [readQuoted?_flatMap_literalChar] at hsome
    cases hsome
    rw [String.ofList_toList]

end Text

namespace Packages

/-- The literals of the alternatives are the names. -/
theorem clauseLiterals?_alternatives {tags : List String} (h : tags ≠ []) (s : List Char) :
    Text.clauseLiterals? ((Text.join " || " (tags.map fun tag =>
      "?tagName = " ++ Vocabulary.literal tag)).toList ++ ')' :: s) = some tags := by
  have hread : ∀ tag s, Text.clauseLiterals? (("?tagName = " ++ Vocabulary.literal tag).toList ++ s) =
      (Text.clauseLiterals? s).map (tag :: ·) := by
    intro tag s
    rw [String.toList_append, List.append_assoc,
      Text.clauseLiterals?_append_of_not_mem (by decide) (by decide),
      Text.clauseLiterals?_literal_append]
  induction tags with
  | nil => exact absurd rfl h
  | cons tag tags ih =>
    cases tags with
    | nil =>
      rw [List.map_singleton, Text.join, String.intercalate_singleton, hread, Text.clauseLiterals?,
        if_pos rfl]
      rfl
    | cons tag' tags =>
      have hrest := ih (List.cons_ne_nil tag' tags)
      rw [Text.join] at hrest ⊢
      rw [List.map_cons, String.intercalate_cons_of_ne_nil (by simp), String.toList_append,
        String.toList_append, List.append_assoc, List.append_assoc, hread,
        Text.clauseLiterals?_append_of_not_mem (by decide) (by decide), hrest]
      rfl

/-- The condition starts behind texts without the letter that it starts with. -/
theorem splitOnce?_selectionQuery {tags : List String} (h : tags ≠ []) :
    (Text.splitOnce? "FILTER (".toList (selectionQuery tags).toList).map Prod.snd =
      some ((Text.join " || " (tags.map fun tag => "?tagName = " ++ Vocabulary.literal tag)).toList ++
        ')' :: " \x7d".toList) := by
  have hsome : tags.isEmpty = false := List.isEmpty_eq_false_iff.2 h
  have hstart : "?t <http://inventag.local/tagName> ?tagName . FILTER (".toList =
      "?t <http://inventag.local/tagName> ?tagName . ".toList ++ "FILTER (".toList := by decide +kernel
  have hend : ") ".toList ++ "\x7d".toList = ')' :: " \x7d".toList := by decide
  unfold selectionQuery tagCondition
  simp only [hsome, Bool.false_eq_true, if_false, String.toList_append, List.append_assoc, hstart, hend]
  rw [← List.append_assoc, ← List.append_assoc, ← List.append_assoc]
  exact congrArg (Option.map Prod.snd) (Text.splitOnce?_append_append (by decide +kernel) _)

/-- The literals in the condition of a query for a selection are the names of the tags; without a name there
    is no condition. -/
theorem conditionLiterals?_selectionQuery (tags : List String) :
    Text.conditionLiterals? (selectionQuery tags) = if tags = [] then none else some tags := by
  by_cases h : tags = []
  · subst h
    have hnone : Text.splitOnce? "FILTER (".toList (selectionQuery []).toList = none :=
      Text.splitOnce?_of_not_mem (by decide +kernel)
    rw [Text.conditionLiterals?, hnone]
    rfl
  · obtain ⟨⟨before, clause⟩, hcut, hclause⟩ := Option.map_eq_some_iff.1 (splitOnce?_selectionQuery h)
    rw [if_neg h, Text.conditionLiterals?, hcut, Option.bind_some, hclause,
      clauseLiterals?_alternatives h]

/-- A literal is made of its text by two replacements, that of the backslashes first, and is read back from
    the start of any text that starts with it, of which nothing else is taken.  So the literals in the
    condition of a query for a selection are the names of its tags in their order, where there are any, and
    different selections have different queries. -/
theorem literals_of_selectionQuery :
    (∀ text, Vocabulary.literal text =
      "\"" ++ Text.replace (Text.replace text "\\" "\\\\") "\"" "\\\"" ++ "\"") ∧
    (∀ text rest, Text.readLiteral? (Vocabulary.literal text ++ rest) = some (text, rest)) ∧
    (∀ tags, Text.conditionLiterals? (selectionQuery tags) = if tags = [] then none else some tags) ∧
    Function.Injective selectionQuery := by
  refine ⟨Vocabulary.literal_eq_replace, Text.readLiteral?_literal_append,
    conditionLiterals?_selectionQuery, ?_⟩
  intro tags tags' heq
  have hread := congrArg Text.conditionLiterals? heq
  rw [conditionLiterals?_selectionQuery, conditionLiterals?_selectionQuery] at hread
  by_cases h : tags = [] <;> by_cases h' : tags' = []
  · rw [h, h']
  · rw [if_pos h, if_neg h'] at hread
    cases hread
  · rw [if_neg h, if_pos h'] at hread
    cases hread
  · rw [if_neg h, if_neg h'] at hread
    exact Option.some.inj hread

end Packages

end Stocktake
