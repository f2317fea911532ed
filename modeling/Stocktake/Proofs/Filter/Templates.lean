import Stocktake.Filter.Factory
import Stocktake.Proofs.Text.Literals

/-!
# Questions made of templates

A filter that is made of a template puts a question about every subject to the store.  The pattern is put
into the template when the filter is made, and the subject when a record is tested; so a placeholder of
subjects that stands in the pattern is replaced, too, and such a pattern does not reach the store as it is.
Main statement: `question_of_template`.
-/

namespace Stocktake

/-- Whether a record of the subject passes the filter is what the store answers to the query; a query that
    fails counts as no. -/
def Filter.PutsQuestion (f : Filter) (uri query : String) : Prop :=
  ∀ (store : Store) (r : Reading), r.uri = some uri →
    f.accepts store r = match store.ask query with
      | .ok answer => answer
      | .error _ => false

/-- There is at most one question that a filter puts about a subject. -/
theorem Filter.PutsQuestion.unique {f : Filter} {uri query query' : String}
    (h : f.PutsQuestion uri query) (h' : f.PutsQuestion uri query') : query = query' := by
  refine Decidable.byContradiction fun hne => ?_
  -- A store that says yes to the first query only.
  let store : Store := { asks := Dict.empty.insert query true }
  have hyes : store.ask query = .ok true := by
    simp only [store, Store.ask, Dict.get?_empty, Dict.get?_insert, if_true, Option.getD_some]
  have hno : store.ask query' = .ok false := by
    simp only [store, Store.ask, Dict.get?_empty, Dict.get?_insert, if_neg (Ne.symm hne),
      Option.getD_none]
  have haccepts := h store { display := "", uri := some uri } rfl
  rw [h' store { display := "", uri := some uri } rfl, hyes, hno] at haccepts
  cases haccepts

/-- How a subject is written in a query. -/
def subjectTerm (uri : String) : String := "<" ++ uri ++ ">"

namespace Template

/-- The start of every word that `stripStart?` takes away leaves less. -/
theorem length_of_stripStart? {p s rest : List Char} (hp : p ≠ [])
    (h : Text.stripStart? p s = some rest) : rest.length < s.length := by
  have hpositive := List.length_pos_iff.2 hp
  rw [Text.stripStart?_eq_some.1 h, List.length_append]
  omega

theorem patternPlaceholder_ne_nil : Vocabulary.patternPlaceholder.toList ≠ [] := by decide

theorem uriPlaceholder_ne_nil : Vocabulary.uriPlaceholder.toList ≠ [] := by decide

/-- A template with both placeholders replaced in one go from left to right, so that what is put in is not
    looked at again. -/
def filledChars (pattern subject : List Char) : List Char → List Char
  | [] => []
  | c :: s =>
    match _hpattern : Text.stripStart? Vocabulary.patternPlaceholder.toList (c :: s) with
    | some rest => pattern ++ filledChars pattern subject rest
    | none =>
      match _hsubject : Text.stripStart? Vocabulary.uriPlaceholder.toList (c :: s) with
      | some rest => subject ++ filledChars pattern subject rest
      | none => c :: filledChars pattern subject s
termination_by s => s.length
decreasing_by
  · exact length_of_stripStart? patternPlaceholder_ne_nil _hpattern
  · exact length_of_stripStart? uriPlaceholder_ne_nil _hsubject
  · exact Nat.lt_succ_self _

/-- The template with a text for the pattern and one for the subject. -/
def filled (template pattern subject : String) : String :=
  String.ofList (filledChars pattern.toList subject.toList template.toList)

/-- No pattern starts in a placeholder of subjects. -/
theorem replaceAll_uriPlaceholder_append (pattern s : List Char) :
    Text.replaceAll Vocabulary.patternPlaceholder.toList pattern (Vocabulary.uriPlaceholder.toList ++ s) =
      Vocabulary.uriPlaceholder.toList ++ Text.replaceAll Vocabulary.patternPlaceholder.toList pattern s := by
  have hp := patternPlaceholder_ne_nil
  have huri : Vocabulary.uriPlaceholder.toList = ['?', 'u', 'r', 'i'] := by decide
  rw [huri]
  simp only [List.cons_append, List.nil_append]
  rw [Text.replaceAll_cons hp pattern rfl, Text.replaceAll_cons hp pattern rfl,
    Text.replaceAll_cons hp pattern rfl, Text.replaceAll_cons hp pattern rfl]

/-- What is put in starts and ends with a quote, which no placeholder has. -/
theorem replaceAll_replaceAll_template (body subject template : List Char) :
    let pattern := '"' :: body ++ ['"']
    Text.replaceAll Vocabulary.uriPlaceholder.toList subject
        (Text.replaceAll Vocabulary.patternPlaceholder.toList pattern template) =
      filledChars (Text.replaceAll Vocabulary.uriPlaceholder.toList subject pattern) subject template := by
  intro pattern
  have hp := patternPlaceholder_ne_nil
  have hu := uriPlaceholder_ne_nil
  have hquote : '"' ∉ Vocabulary.uriPlaceholder.toList := by decide
  have hpattern : ∀ s, Text.replaceAll Vocabulary.uriPlaceholder.toList subject (pattern ++ s) =
      Text.replaceAll Vocabulary.uriPlaceholder.toList subject pattern ++
        Text.replaceAll Vocabulary.uriPlaceholder.toList subject s := by
    intro s
    rw [List.append_assoc, List.singleton_append, Text.replaceAll_append_of_not_mem hu subject hquote,
      Text.replaceAll_append_of_not_mem hu subject hquote, Text.replaceAll_nil hu, List.append_assoc,
      List.singleton_append]
  generalize Text.replaceAll Vocabulary.uriPlaceholder.toList subject pattern = filling at hpattern ⊢
  fun_induction filledChars filling subject template with
  | case1 => rw [Text.replaceAll_nil hp, Text.replaceAll_nil hu]
  | case2 c s rest hstart ih =>
    rw [Text.stripStart?_eq_some.1 hstart, Text.replaceAll_append hp, hpattern, ih]
  | case3 c s _ rest hstart ih =>
    rw [Text.stripStart?_eq_some.1 hstart, replaceAll_uriPlaceholder_append, Text.replaceAll_append hu, ih]
  | case4 c s hnone hstart ih =>
    have hstart' : Text.stripStart? Vocabulary.uriPlaceholder.toList
        (Text.replaceAll Vocabulary.patternPlaceholder.toList pattern (c :: s)) = none :=
      Text.stripStart?_of_replaceAll hp (body ++ ['"']) hquote hstart
    rw [Text.replaceAll_cons hp _ hnone] at hstart' ⊢
    rw [Text.replaceAll_cons hu _ hstart', ih]

theorem occursIn_uriPlaceholder_append (s : List Char) :
    Text.occursIn Vocabulary.patternPlaceholder.toList (Vocabulary.uriPlaceholder.toList ++ s) =
      Text.occursIn Vocabulary.patternPlaceholder.toList s := by
  have huri : Vocabulary.uriPlaceholder.toList = ['?', 'u', 'r', 'i'] := by decide
  rw [huri]
  simp only [List.cons_append, List.nil_append]
  rw [Text.occursIn_cons rfl, Text.occursIn_cons rfl, Text.occursIn_cons rfl, Text.occursIn_cons rfl]

/-- A template without a place for the pattern does not show which pattern was put in. -/
theorem filledChars_congr {template : List Char} (pattern pattern' subject : List Char)
    (h : Text.occursIn Vocabulary.patternPlaceholder.toList template = false) :
    filledChars pattern subject template = filledChars pattern' subject template := by
  fun_induction filledChars pattern subject template with
  | case1 => rw [filledChars]
  | case2 c s rest hstart ih =>
    rw [Text.occursIn, hstart] at h
    cases h
  | case3 c s hnone rest hstart ih =>
    rw [Text.stripStart?_eq_some.1 hstart, occursIn_uriPlaceholder_append] at h
    rw [filledChars, hnone, hstart, ih h]
  | case4 c s hnone hstart ih =>
    rw [Text.occursIn_cons hnone] at h
    rw [filledChars, hnone, hstart, ih h]

/-- A template with a place for the pattern shows how patterns differ. -/
theorem filledChars_ne {pattern pattern' template : List Char} (subject : List Char)
    (hdiffer : ∀ s s', pattern ++ s ≠ pattern' ++ s')
    (h : Text.occursIn Vocabulary.patternPlaceholder.toList template = true) :
    filledChars pattern subject template ≠ filledChars pattern' subject template := by
  fun_induction filledChars pattern subject template with
  | case1 =>
    rw [Text.occursIn, decide_eq_false patternPlaceholder_ne_nil] at h
    cases h
  | case2 c s rest hstart ih =>
    rw [filledChars, hstart]
    exact hdiffer _ _
  | case3 c s hnone rest hstart ih =>
    rw [Text.stripStart?_eq_some.1 hstart, occursIn_uriPlaceholder_append] at h
    rw [filledChars, hnone, hstart]
    exact fun heq => ih h (List.append_cancel_left heq)
  | case4 c s hnone hstart ih =>
    rw [Text.occursIn_cons hnone] at h
    rw [filledChars, hnone, hstart]
    exact fun heq => ih h (List.tail_eq_of_cons_eq heq)

end Template

theorem toList_subjectTerm (uri : String) :
    (subjectTerm uri).toList = '<' :: (uri.toList ++ ['>']) := by
  have happend : (subjectTerm uri).toList = "<".toList ++ uri.toList ++ ">".toList := by
    rw [subjectTerm, String.toList_append, String.toList_append]
  exact happend

theorem Filter.putsQuestion_ask (label query uri : String) :
    (Filter.ask label query).PutsQuestion uri (Filter.queryFor query uri) := by
  intro store r hr
  cases hanswer : store.ask (Filter.queryFor query uri) with
  | ok answer => simp only [Filter.accepts, Filter.asks, hr, hanswer]
  | error e => simp only [Filter.accepts, Filter.asks, hr, hanswer]

/-- The question that is put is the template with the pattern in which the subject has been put in the place
    of its placeholder. -/
theorem queryFor_fillTemplate (template pattern uri : String) :
    Filter.queryFor (DecideFactory.fillTemplate template pattern) uri =
      Template.filled template
        (Text.replace (Vocabulary.literal pattern) Vocabulary.uriPlaceholder (subjectTerm uri))
        (subjectTerm uri) := by
  rw [Filter.queryFor, DecideFactory.fillTemplate, Text.replace, Text.replace, Template.filled, Text.replace,
    String.toList_ofList, String.toList_ofList, Vocabulary.literal, String.toList_ofList,
    Template.replaceAll_replaceAll_template]
  rfl

/-- A filter that is made of a template and a pattern puts one question about a subject: the template with
    the subject for one placeholder, and with the literal of the pattern for the other, in which the first
    placeholder has been replaced by the subject, too.  So it is the template with the very literal exactly
    if the template has no place for the pattern or the pattern does not hold the placeholder of
    subjects. -/
theorem question_of_template (key name description template pattern : String) :
    ∃ f, (DecideFactory.askTemplate key name description template).build pattern = .ok f ∧ ∀ uri,
      f.PutsQuestion uri (Template.filled template
        (Text.replace (Vocabulary.literal pattern) Vocabulary.uriPlaceholder (subjectTerm uri))
        (subjectTerm uri)) ∧
      (f.PutsQuestion uri (Template.filled template (Vocabulary.literal pattern) (subjectTerm uri)) ↔
        Text.contains template Vocabulary.patternPlaceholder = false ∨
          Text.contains pattern Vocabulary.uriPlaceholder = false) := by
  refine ⟨.ask key (DecideFactory.fillTemplate template pattern), rfl, fun uri => ?_⟩
  have hputs := Filter.putsQuestion_ask key (DecideFactory.fillTemplate template pattern) uri
  rw [queryFor_fillTemplate] at hputs
  refine ⟨hputs, ?_⟩
  have hliteral : Text.occursIn Vocabulary.uriPlaceholder.toList (Vocabulary.literal pattern).toList =
      Text.occursIn Vocabulary.uriPlaceholder.toList pattern.toList :=
    Vocabulary.occursIn_literal (by decide) (by decide) Template.uriPlaceholder_ne_nil pattern
  constructor
  · intro hliterally
    cases htemplate : Text.contains template Vocabulary.patternPlaceholder with
    | false => exact .inl rfl
    | true =>
      cases hpattern : Text.contains pattern Vocabulary.uriPlaceholder with
      | false => exact .inr rfl
      | true =>
        have heq := String.ofList_injective (hliterally.unique hputs)
        rw [Text.replace, String.toList_ofList, toList_subjectTerm] at heq
        refine absurd heq (Template.filledChars_ne _ (fun s s' => ?_) htemplate)
        exact Text.append_ne_replaceAll_append (by decide) _ _ (hliteral.trans hpattern) s s'
  · rintro (htemplate | hpattern)
    · rw [Template.filled, Template.filledChars_congr _ _ _ htemplate] at hputs
      exact hputs
    · rw [Text.replace, Text.replaceAll_of_not_occursIn Template.uriPlaceholder_ne_nil _
        (hliteral.trans hpattern), String.ofList_toList] at hputs
      exact hputs

/-- Asked for what the user `?uri` owns, the store is asked for what is owned by the subject. -/
theorem question_loses_pattern :
    let template := "ASK \x7b ?uri <owner> ?pattern \x7d"
    ∃ f, (DecideFactory.askTemplate "owner" "Owner" "Owned by the user" template).build "?uri" = .ok f ∧
      f.PutsQuestion "urn:f" "ASK \x7b <urn:f> <owner> \"<urn:f>\" \x7d" ∧
      ¬ f.PutsQuestion "urn:f"
        (Template.filled template (Vocabulary.literal "?uri") (subjectTerm "urn:f")) := by
  intro template
  have hasked : Filter.queryFor (DecideFactory.fillTemplate template "?uri") "urn:f" =
      "ASK \x7b <urn:f> <owner> \"<urn:f>\" \x7d" := by decide +kernel
  have hliterally : Template.filled template (Vocabulary.literal "?uri") (subjectTerm "urn:f") =
      "ASK \x7b <urn:f> <owner> \"?uri\" \x7d" := by decide +kernel
  have hputs := Filter.putsQuestion_ask "owner" (DecideFactory.fillTemplate template "?uri") "urn:f"
  rw [hasked] at hputs
  refine ⟨.ask "owner" (DecideFactory.fillTemplate template "?uri"), rfl, hputs, fun h => ?_⟩
  rw [hliterally] at h
  exact absurd (h.unique hputs) (by decide)

end Stocktake
