import Stocktake.Proofs.Text.Replacing
import Stocktake.Store.Vocabulary

/-!
# Literals

A literal of a query can be read back whatever text it was made of and whatever follows it: inside it every
quote has a backslash before it, and so does every backslash.  Words without quotes and backslashes occur in
a literal exactly where they occur in its text.  Main statements: `readLiteral?_literal_append`,
`literal_eq_replace`.
-/

namespace Stocktake

namespace Vocabulary

/-- A character is written with a backslash before it, or as it is. -/
theorem literalChar_cases (c : Char) :
    (c = '\\' ∨ c = '"') ∧ literalChar c = ['\\', c] ∨ (c ≠ '\\' ∧ c ≠ '"') ∧ literalChar c = [c] := by
  unfold literalChar
  by_cases hbackslash : c = '\\'
  · subst hbackslash
    exact .inl ⟨.inl rfl, rfl⟩
  by_cases hquote : c = '"'
  · subst hquote
    exact .inl ⟨.inr rfl, rfl⟩
  rw [if_neg hbackslash, if_neg hquote]
  exact .inr ⟨⟨hbackslash, hquote⟩, rfl⟩

/-- A literal is made by two replacements, of which that of the backslashes comes first. -/
theorem literal_eq_replace (text : String) :
    literal text = "\"" ++ Text.replace (Text.replace text "\\" "\\\\") "\"" "\\\"" ++ "\"" := by
  have hchars : ∀ c : Char, (if c = '\\' then ['\\', '\\'] else [c]).flatMap
      (fun d => if d = '"' then ['\\', '"'] else [d]) = literalChar c := by
    intro c
    unfold literalChar
    by_cases h : c = '\\'
    · subst h
      rfl
    · rw [if_neg h, if_neg h, List.flatMap_singleton]
  have hbody : (Text.replace (Text.replace text "\\" "\\\\") "\"" "\\\"").toList =
      text.toList.flatMap literalChar := by
    simp only [Text.replace, String.toList_ofList]
    calc Text.replaceAll ['"'] ['\\', '"'] (Text.replaceAll ['\\'] ['\\', '\\'] text.toList)
      _ = text.toList.flatMap fun c => (if c = '\\' then ['\\', '\\'] else [c]).flatMap
            fun d => if d = '"' then ['\\', '"'] else [d] := by
        rw [Text.replaceAll_singleton, Text.replaceAll_singleton, List.flatMap_assoc]
      _ = text.toList.flatMap literalChar := congrArg (text.toList.flatMap ·) (funext hchars)
  refine String.toList_inj.1 ?_
  rw [literal, String.toList_append, String.toList_append, String.toList_ofList, hbody]
  rfl

section Words

variable {word : List Char} (hbackslash : '\\' ∉ word) (hquote : '"' ∉ word)
include hbackslash hquote

theorem isSome_stripStart?_flatMap_literalChar (s : List Char) :
    (Text.stripStart? word (s.flatMap literalChar)).isSome = (Text.stripStart? word s).isSome := by
  induction word generalizing s with
  | nil => rfl
  | cons d word ih =>
    have hrest := ih (List.not_mem_of_not_mem_cons hbackslash) (List.not_mem_of_not_mem_cons hquote)
    cases s with
    | nil => rfl
    | cons c s =>
      rw [List.flatMap_cons]
      rcases literalChar_cases c with ⟨hspecial, hc⟩ | ⟨-, hc⟩
      · have hd : d ≠ c := by
          rcases hspecial with rfl | rfl
          · exact (List.ne_of_not_mem_cons hbackslash).symm
          · exact (List.ne_of_not_mem_cons hquote).symm
        rw [hc, List.cons_append, Text.stripStart?_of_ne (List.ne_of_not_mem_cons hbackslash).symm,
          Text.stripStart?_of_ne hd]
      · rw [hc, List.singleton_append, Text.stripStart?, Text.stripStart?]
        split
        · exact hrest s
        · rfl

/-- A word without quotes and backslashes occurs where it occurred before they were written. -/
theorem occursIn_flatMap_literalChar (hword : word ≠ []) (s : List Char) :
    Text.occursIn word (s.flatMap literalChar) = Text.occursIn word s := by
  induction s with
  | nil => rfl
  | cons c s ih =>
    rw [List.flatMap_cons]
    rcases literalChar_cases c with ⟨hspecial, hc⟩ | ⟨-, hc⟩
    · have hnot : c ∉ word := by
        rcases hspecial with rfl | rfl
        · exact hbackslash
        · exact hquote
      rw [hc, List.cons_append, List.singleton_append,
        Text.occursIn_cons (Text.stripStart?_of_not_mem hword hbackslash _),
        Text.occursIn_cons (Text.stripStart?_of_not_mem hword hnot _),
        Text.occursIn_cons (Text.stripStart?_of_not_mem hword hnot _), ih]
    · have hstart := isSome_stripStart?_flatMap_literalChar hbackslash hquote (c :: s)
      rw [List.flatMap_cons, hc, List.singleton_append] at hstart
      rw [hc, List.singleton_append, Text.occursIn, Text.occursIn, hstart, ih]

/-- A word without quotes and backslashes occurs in a literal if it occurs in its text. -/
theorem occursIn_literal (hword : word ≠ []) (text : String) :
    Text.occursIn word (literal text).toList = Text.occursIn word text.toList := by
  have hend : Text.occursIn word [] = false := by
    rw [Text.occursIn, decide_eq_false hword]
  rw [literal, String.toList_ofList, List.cons_append,
    Text.occursIn_cons (Text.stripStart?_of_not_mem hword hquote _),
    Text.occursIn_append_of_not_mem hword hquote, hend, Bool.or_false,
    occursIn_flatMap_literalChar hbackslash hquote hword]

end Words

end Vocabulary

namespace Text

/-- Reads what stands before the first double quote that has no backslash before it, and gives it and what
    follows the quote.  A backslash and a quote or backslash behind it are read as the latter. -/
def readQuoted? : List Char → Option (List Char × List Char)
  | [] => none
  | '"' :: rest => some ([], rest)
  | '\\' :: '\\' :: rest => (readQuoted? rest).map fun (s, after) => ('\\' :: s, after)
  | '\\' :: '"' :: rest => (readQuoted? rest).map fun (s, after) => ('"' :: s, after)
  | c :: rest => (readQuoted? rest).map fun (s, after) => (c :: s, after)

/-- Reads a literal at the start of a text, and gives what it holds and what follows it. -/
def readLiteral? (s : String) : Option (String × String) :=
  match s.toList with
  | '"' :: rest => (readQuoted? rest).map fun (text, after) => (String.ofList text, String.ofList after)
  | _ => none

theorem readQuoted?_literalChar_append (c : Char) (s : List Char) :
    readQuoted? (Vocabulary.literalChar c ++ s) =
      (readQuoted? s).map fun (text, after) => (c :: text, after) := by
  rcases Vocabulary.literalChar_cases c with ⟨hspecial, hc⟩ | ⟨⟨hbackslash, hquote⟩, hc⟩
  · rw [hc]
    rcases hspecial with rfl | rfl <;> rfl
  · rw [hc, List.singleton_append, readQuoted?]
    · exact hquote
    · exact fun _ h _ => hbackslash h
    · exact fun _ h _ => hbackslash h

theorem readQuoted?_flatMap_literalChar (text s : List Char) :
    readQuoted? (text.flatMap Vocabulary.literalChar ++ '"' :: s) = some (text, s) := by
  induction text with
  | nil => rfl
  | cons c text ih =>
    rw [List.flatMap_cons, List.append_assoc, readQuoted?_literalChar_append, ih]
    rfl

theorem toList_literal_append (text : String) (s : List Char) :
    (Vocabulary.literal text).toList ++ s =
      '"' :: (text.toList.flatMap Vocabulary.literalChar ++ '"' :: s) := by
  rw [Vocabulary.literal, String.toList_ofList, List.cons_append, List.cons_append, List.append_assoc]
  rfl

/-- Whatever follows a literal, its text is read back and the rest is left. -/
theorem readLiteral?_literal_append (text rest : String) :
    readLiteral? (Vocabulary.literal text ++ rest) = some (text, rest) := by
  rw [readLiteral?, String.toList_append, toList_literal_append]
  simp only [readQuoted?_flatMap_literalChar, Option.map_some, String.ofList_toList]

theorem length_of_readQuoted? {s text after : List Char} (h : readQuoted? s = some (text, after)) :
    after.length < s.length := by
  fun_induction readQuoted? s generalizing text with
  | case1 => cases h
  | case2 rest =>
    cases h
    exact Nat.lt_succ_self _
  | case3 rest ih | case4 rest ih | case5 _ rest _ _ _ ih =>
    obtain ⟨⟨inner, after'⟩, hread, heq⟩ := Option.map_eq_some_iff.1 h
    cases heq
    refine Nat.lt_trans (ih hread) ?_
    simp only [List.length_cons]
    omega

end Text

end Stocktake
