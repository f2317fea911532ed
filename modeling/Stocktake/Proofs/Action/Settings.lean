import Mathlib.Data.List.Induction
import Stocktake.Action.Parameter

/-!
# What a parameter is set to

A change that a parameter refuses leaves it as it was, and any other change says what it is set to.  After any
changes a parameter is then set to the text it took last, unless it was cleared since, and it still takes what
it is set to.  Main statements: `stands_append` for what the changes leave standing, `Parameter.setting?_editAll`
for a run, `Parameter.editAll_keeps_taken`.
-/

namespace Stocktake

theorem Glob.matchesText_iff {pattern text : String} :
    matchesText pattern text = true ↔ ∃ ts, parse? pattern = some ts ∧ accepts ts text.toList = true := by
  unfold matchesText
  cases parse? pattern with
  | none => simp
  | some ts => simp

theorem FileParameter.accepts_iff {f : FileParameter} {path : String} :
    f.accepts path = true ↔ f.patterns = [] ∨ ∃ name, fileName? path = some name ∧
      ∃ pattern ∈ f.patterns, Glob.matchesText pattern name = true := by
  unfold accepts
  cases fileName? path with
  | none => simp
  | some name => simp

section Standing

/-- A text that is taken was set by one of the changes, and since then none was set and nothing was cleared. -/
def Stands (takes : String → Prop) (edits : List ParameterEdit) (v : String) : Prop :=
  ∃ before after, edits = before ++ .set v :: after ∧ takes v ∧
    .clear ∉ after ∧ ∀ u, takes u → .set u ∉ after

variable {takes : String → Prop} {edits : List ParameterEdit} {u v : String}

theorem not_stands_nil : ¬ Stands takes [] v := by
  rintro ⟨before, after, h, -⟩
  simp at h

theorem Stands.taken (h : Stands takes edits v) : takes v := by
  obtain ⟨-, -, -, htaken, -⟩ := h
  exact htaken

/-- The last change sets what stands, or is one that leaves standing what did. -/
theorem stands_append {e : ParameterEdit} :
    Stands takes (edits ++ [e]) v ↔
      (e = .set v ∧ takes v) ∨ (Stands takes edits v ∧ e ≠ .clear ∧ ∀ u, takes u → e ≠ .set u) := by
  constructor
  · rintro ⟨before, after, h, htaken, hclear, hset⟩
    rcases List.eq_nil_or_concat after with rfl | ⟨after, last, rfl⟩
    · obtain ⟨-, he⟩ := List.append_inj' h rfl
      exact .inl ⟨List.singleton_inj.1 he, htaken⟩
    · rw [List.concat_eq_append] at h hclear hset
      rw [← List.cons_append, ← List.append_assoc] at h
      obtain ⟨rfl, he⟩ := List.append_inj' h rfl
      obtain rfl := List.singleton_inj.1 he
      refine .inr ⟨⟨before, after, rfl, htaken, ?_, ?_⟩, ?_, ?_⟩
      · exact fun hmem => hclear (List.mem_append_left _ hmem)
      · exact fun u hu hmem => hset u hu (List.mem_append_left _ hmem)
      · rintro rfl
        exact hclear (List.mem_append_right _ (List.mem_singleton_self _))
      · rintro u hu rfl
        exact hset u hu (List.mem_append_right _ (List.mem_singleton_self _))
  · rintro (⟨rfl, htaken⟩ | ⟨⟨before, after, rfl, htaken, hclear, hset⟩, hne, hother⟩)
    · exact ⟨edits, [], rfl, htaken, List.not_mem_nil, fun _ _ => List.not_mem_nil⟩
    · refine ⟨before, after ++ [e], by simp, htaken, ?_, ?_⟩
      · rw [List.mem_append, List.mem_singleton]
        rintro (hmem | rfl)
        · exact hclear hmem
        · exact hne rfl
      · intro u hu
        rw [List.mem_append, List.mem_singleton]
        rintro (hmem | rfl)
        · exact hset u hu hmem
        · exact hother u hu rfl

theorem not_stands_append_clear : ¬ Stands takes (edits ++ [.clear]) v := by
  simp [stands_append]

theorem stands_append_set_of_taken (hu : takes u) : Stands takes (edits ++ [.set u]) v ↔ u = v := by
  rw [stands_append]
  constructor
  · rintro (⟨h, -⟩ | ⟨-, -, h⟩)
    · exact ParameterEdit.set.inj h
    · exact absurd rfl (h u hu)
  · rintro rfl
    exact .inl ⟨rfl, hu⟩

theorem stands_append_set_of_not_taken (hu : ¬ takes u) :
    Stands takes (edits ++ [.set u]) v ↔ Stands takes edits v := by
  rw [stands_append]
  constructor
  · rintro (⟨h, hv⟩ | ⟨h, -⟩)
    · exact absurd (ParameterEdit.set.inj h ▸ hv) hu
    · exact h
  · intro h
    refine .inr ⟨h, ParameterEdit.noConfusion, fun w hw hset => hu ?_⟩
    exact ParameterEdit.set.inj hset ▸ hw

end Standing

namespace Parameter

/-- What the parameter is set to. -/
def setting? : Parameter → Option String
  | .text t => t.current
  | .file f => f.path

/-- The parameter if nothing had been done to it but to set it so. -/
def withSetting (setting : Option String) : Parameter → Parameter
  | .text t => .text { t with current := setting }
  | .file f => .file { f with path := setting }

/-- What is shown of a parameter that is not set. -/
def fallback : Parameter → String
  | .text t => t.fallback.getD ""
  | .file _ => ""

/-- The choices there are. -/
def choices (store : Store) : Parameter → List String
  | .text t => t.suggestions store
  | .file _ => []

/-- A text from which only choices are taken takes a choice, and a file of given patterns takes a path with a
    name that a well-formed one of them matches. -/
def Takes (choices : List String) : Parameter → String → Prop
  | .text t, v => t.onlyChoices = true → v ∈ choices
  | .file f, path => f.patterns = [] ∨ ∃ name, fileName? path = some name ∧
      ∃ pattern ∈ f.patterns, ∃ ts, Glob.parse? pattern = some ts ∧ Glob.accepts ts name.toList = true

/-- The changes there are: the path of a file cannot be cleared. -/
def Offers : Parameter → ParameterEdit → Prop
  | .text _, _ => True
  | .file _, e => e ≠ .clear

variable {p : Parameter} {store : Store} {v : String}

@[simp] theorem setting?_withSetting (p : Parameter) (setting : Option String) :
    (p.withSetting setting).setting? = setting := by
  cases p <;> rfl

@[simp] theorem withSetting_withSetting (p : Parameter) (a b : Option String) :
    (p.withSetting a).withSetting b = p.withSetting b := by
  cases p <;> rfl

theorem withSetting_self (p : Parameter) : p.withSetting p.setting? = p := by
  cases p <;> rfl

@[simp] theorem name_withSetting (p : Parameter) (setting : Option String) :
    (p.withSetting setting).name = p.name := by
  cases p <;> rfl

@[simp] theorem choices_withSetting (p : Parameter) (setting : Option String) :
    (p.withSetting setting).choices store = p.choices store := by
  cases p <;> rfl

@[simp] theorem takes_withSetting (p : Parameter) (setting : Option String) (choices : List String) :
    (p.withSetting setting).Takes choices = p.Takes choices := by
  cases p <;> rfl

@[simp] theorem offers_withSetting (p : Parameter) (setting : Option String) :
    (p.withSetting setting).Offers = p.Offers := by
  cases p <;> rfl

/-- What is shown is what the parameter is set to, or what is shown of one that is not set. -/
theorem displayValue_withSetting (p : Parameter) (setting : Option String) :
    (p.withSetting setting).displayValue = setting.getD p.fallback := by
  cases p with
  | text t => cases setting <;> rfl
  | file f => cases setting <;> rfl

section Steps

theorem edit_set_of_takes (h : p.Takes (p.choices store) v) :
    p.edit store (.set v) = (.ok (), p.withSetting (some v)) := by
  cases p with
  | text t =>
    have hchoice : (t.onlyChoices && !(t.suggestions store).contains v) = false := by
      rw [Bool.and_eq_false_imp, Bool.not_eq_false', List.contains_iff_mem]
      exact h
    rw [edit, set, TextParameter.set, hchoice]
    rfl
  | file f =>
    have hname : f.accepts v = true := by
      simp only [FileParameter.accepts_iff, Glob.matchesText_iff]
      exact h
    rw [edit, set, FileParameter.set, hname]
    rfl

theorem edit_set_of_not_takes (h : ¬ p.Takes (p.choices store) v) :
    ∃ reason, p.edit store (.set v) = (.error (.invalidParameter p.name reason), p) := by
  cases p with
  | text t =>
    have hchoice : (t.onlyChoices && !(t.suggestions store).contains v) = true := by
      rw [← Bool.not_eq_false, Bool.and_eq_false_imp, Bool.not_eq_false', List.contains_iff_mem]
      exact h
    rw [edit, set, TextParameter.set, hchoice]
    exact ⟨_, rfl⟩
  | file f =>
    have hname : f.accepts v = false := by
      simp only [← Bool.not_eq_true, FileParameter.accepts_iff, Glob.matchesText_iff]
      exact h
    rw [edit, set, FileParameter.set, hname]
    exact ⟨_, rfl⟩

theorem edit_clear (h : p.Offers .clear) : p.edit store .clear = (.ok (), p.withSetting none) := by
  cases p with
  | text t => rfl
  | file f => exact absurd rfl h

/-- A change says at most what the parameter is set to. -/
theorem edit_eq_withSetting (store : Store) {e : ParameterEdit} (h : p.Offers e) :
    ∃ setting, (p.edit store e).2 = p.withSetting setting := by
  cases e with
  | set v =>
    by_cases htakes : p.Takes (p.choices store) v
    · exact ⟨some v, by rw [edit_set_of_takes htakes]⟩
    · obtain ⟨reason, hedit⟩ := edit_set_of_not_takes htakes
      exact ⟨p.setting?, by rw [hedit, withSetting_self]⟩
  | clear => exact ⟨none, by rw [edit_clear h]⟩

end Steps

section Runs

theorem editAll_append (p : Parameter) (edits : List (Store × ParameterEdit)) (store : Store)
    (e : ParameterEdit) : p.editAll (edits ++ [(store, e)]) = ((p.editAll edits).edit store e).2 := by
  rw [editAll, editAll, List.foldl_append, List.foldl_cons, List.foldl_nil]

theorem editAll_eq_withSetting {edits : List (Store × ParameterEdit)} (h : ∀ x ∈ edits, p.Offers x.2) :
    p.editAll edits = p.withSetting (p.editAll edits).setting? := by
  induction edits using List.reverseRecOn with
  | nil => exact (withSetting_self p).symm
  | append_singleton edits x ih =>
    obtain ⟨store, e⟩ := x
    have hbefore := ih fun x hx => h x (List.mem_append_left _ hx)
    have hoffers : (p.editAll edits).Offers e := by
      rw [hbefore, offers_withSetting]
      exact h (store, e) (List.mem_append_right _ (List.mem_singleton_self _))
    obtain ⟨setting, hedit⟩ := edit_eq_withSetting store hoffers
    rw [editAll_append, hedit, setting?_withSetting, hbefore, withSetting_withSetting]

variable {choices : List String} {edits : List (Store × ParameterEdit)} (hunset : p.setting? = none)
  (hchoices : ∀ x ∈ edits, p.choices x.1 = choices) (hoffers : ∀ x ∈ edits, p.Offers x.2)
include hunset hchoices hoffers

/-- A parameter is set to what its changes leave standing. -/
theorem setting?_editAll :
    (p.editAll edits).setting? = some v ↔ Stands (p.Takes choices) (edits.map Prod.snd) v := by
  induction edits using List.reverseRecOn with
  | nil =>
    have hnone : (p.editAll []).setting? = none := hunset
    rw [hnone]
    exact iff_of_false nofun not_stands_nil
  | append_singleton edits x ih =>
    obtain ⟨store, e⟩ := x
    have hfirst : ∀ x ∈ edits, p.Offers x.2 := fun x hx => hoffers x (List.mem_append_left _ hx)
    have hlast : (store, e) ∈ edits ++ [(store, e)] :=
      List.mem_append_right _ (List.mem_singleton_self _)
    have ih := ih (fun x hx => hchoices x (List.mem_append_left _ hx)) hfirst
    have hsame := editAll_eq_withSetting hfirst
    -- The changes before have not changed what the parameter takes.
    have htakes : (p.editAll edits).Takes ((p.editAll edits).choices store) = p.Takes choices := by
      rw [hsame, takes_withSetting, choices_withSetting, hchoices (store, e) hlast]
    rw [editAll_append, List.map_append, List.map_singleton]
    cases e with
    | set u =>
      by_cases hu : p.Takes choices u
      · rw [edit_set_of_takes (by rwa [htakes]), setting?_withSetting, Option.some_inj,
          stands_append_set_of_taken hu]
      · have hrefused : ¬ (p.editAll edits).Takes ((p.editAll edits).choices store) u := by rwa [htakes]
        obtain ⟨reason, hedit⟩ := edit_set_of_not_takes hrefused
        rw [hedit, stands_append_set_of_not_taken hu]
        exact ih
    | clear =>
      have hclear : (p.editAll edits).Offers .clear := by
        rw [hsame, offers_withSetting]
        exact hoffers (store, .clear) hlast
      rw [edit_clear hclear, setting?_withSetting]
      exact iff_of_false nofun not_stands_append_clear

end Runs

/-- A parameter that was not set is, after any changes while its choices stay the same, changed in what it is set
    to alone: this is the text that it took last, if it was not cleared since, and else it shows its default.  A
    text that it does not take is refused in the name of the parameter, which stays as it is; a text that it takes
    it is set to.  If only choices are taken, what it is set to is one of them, and the name of the file it is set
    to is matched by one of the well-formed patterns, if there are patterns. -/
theorem editAll_keeps_taken (p : Parameter) (choices : List String) (edits : List (Store × ParameterEdit))
    (hunset : p.setting? = none) (hchoices : ∀ x ∈ edits, p.choices x.1 = choices)
    (hoffers : ∀ x ∈ edits, p.Offers x.2) :
    let q := p.editAll edits
    q = p.withSetting q.setting? ∧
    (∀ v, q.setting? = some v ↔ Stands (p.Takes choices) (edits.map Prod.snd) v) ∧
    q.displayValue = q.setting?.getD p.fallback ∧
    (∀ store v, p.choices store = choices →
      (p.Takes choices v → q.edit store (.set v) = (.ok (), p.withSetting (some v))) ∧
      (¬ p.Takes choices v →
        ∃ reason, q.edit store (.set v) = (.error (.invalidParameter p.name reason), q))) ∧
    (p.Offers .clear → ∀ store, q.edit store .clear = (.ok (), p)) ∧
    (∀ t v, q = .text t → t.onlyChoices = true → t.current = some v → v ∈ choices) ∧
    (∀ f path, q = .file f → f.patterns ≠ [] → f.path = some path →
      ∃ name, fileName? path = some name ∧ ∃ pattern ∈ f.patterns,
        ∃ ts, Glob.parse? pattern = some ts ∧ Glob.accepts ts name.toList = true) := by
  intro q
  have hsame : q = p.withSetting q.setting? := editAll_eq_withSetting hoffers
  have hstands := fun v => setting?_editAll (v := v) hunset hchoices hoffers
  have htakes : q.Takes choices = p.Takes choices := by rw [hsame, takes_withSetting]
  have htaken : ∀ v, q.setting? = some v → q.Takes choices v := by
    intro v hv
    rw [htakes]
    exact ((hstands v).1 hv).taken
  refine ⟨hsame, hstands, ?_, ?_, ?_, ?_, ?_⟩
  · rw [hsame, displayValue_withSetting, setting?_withSetting]
  · intro store v hstore
    have hnow : q.choices store = choices := by rw [hsame, choices_withSetting, hstore]
    constructor
    · intro hv
      rw [edit_set_of_takes (by rwa [hnow, htakes]), hsame, withSetting_withSetting]
    · intro hv
      have hrefused : ¬ q.Takes (q.choices store) v := by rwa [hnow, htakes]
      obtain ⟨reason, hedit⟩ := edit_set_of_not_takes hrefused
      have hname : q.name = p.name := by rw [hsame, name_withSetting]
      exact ⟨reason, by rw [hedit, hname]⟩
  · intro hclear store
    have hq : q.Offers .clear := by rwa [hsame, offers_withSetting]
    rw [edit_clear hq, hsame, withSetting_withSetting, ← hunset, withSetting_self]
  · intro t v ht honly hv
    have htext := htaken v (by rw [ht]; exact hv)
    rw [ht] at htext
    exact htext honly
  · intro f path hf hpatterns hpath
    have hfile := htaken path (by rw [hf]; exact hpath)
    rw [hf] at hfile
    exact hfile.resolve_left hpatterns

/-- A colour with a default that is not a choice, after four refusals, and a file of two patterns, the first of
    which is ill-formed. -/
theorem editAll_keeps_taken_colour_and_file :
    let store : Store := {}
    let colour : Parameter := .text {
      name := "Colour", description := "", fallback := some "blue",
      choices := some (.fixed ["red", "green"]), onlyChoices := true }
    let edits : List (Store × ParameterEdit) := [(store, .set "green"), (store, .set "blue"), (store, .clear),
      (store, .set "blue"), (store, .set "red"), (store, .set "pink"), (store, .set "")]
    let given : FileParameter := { name := "File", description := "", patterns := ["[", "*.txt"] }
    let file : Parameter := .file given
    let paths : List (Store × ParameterEdit) := [(store, .set "/a/b.txt"), (store, .set "/a/[")]
    (colour.editAll (edits.take 2)).displayValue = "green" ∧
      (colour.editAll (edits.take 4)).displayValue = "blue" ∧
      Stands (colour.Takes ["red", "green"]) (edits.map Prod.snd) "red" ∧
      (∃ reason, (colour.editAll edits).edit store (.set "blue") =
        (.error (.invalidParameter "Colour" reason), colour.withSetting (some "red"))) ∧
      (file.editAll paths).setting? = some "/a/b.txt" ∧
      ¬ file.Takes [] "/a/[" ∧
      ∃ name, fileName? "/a/b.txt" = some name ∧ ∃ pattern ∈ ["[", "*.txt"],
        ∃ ts, Glob.parse? pattern = some ts ∧ Glob.accepts ts name.toList = true := by
  intro store colour edits given file paths
  have hfixed : ∀ x ∈ edits, colour.choices x.1 = ["red", "green"] := fun _ _ => rfl
  obtain ⟨hcolour, hstands, -, hedits, -⟩ :=
    editAll_keeps_taken colour ["red", "green"] edits rfl hfixed (by simp [edits, colour, Offers])
  obtain ⟨-, -, -, hpaths, -, -, hmatched⟩ :=
    editAll_keeps_taken file [] paths rfl (fun _ _ => rfl) (by simp [paths, file, Offers])
  have hred : (colour.editAll edits).setting? = some "red" := by decide +kernel
  have hpath : (file.editAll paths).setting? = some "/a/b.txt" := by decide +kernel
  rw [hred] at hcolour hstands
  refine ⟨by decide +kernel, by decide +kernel, (hstands "red").1 rfl, ?_, hpath, ?_, ?_⟩
  · rw [← hcolour]
    exact (hedits store "blue" rfl).2 (by simp [colour, Takes])
  · intro htakes
    have hset := (hpaths store "/a/[" rfl).1 htakes
    exact absurd (congrArg Prod.fst hset) (by decide +kernel)
  · exact hmatched { given with path := some "/a/b.txt" } "/a/b.txt" (by decide +kernel) (by decide) rfl

end Parameter

end Stocktake
