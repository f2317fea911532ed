import Stocktake.Config.Basic
import Stocktake.Proofs.Number.Numerals
import Mathlib.Data.List.Nodup

/-!
# Overriding settings by variables

A variable counts over the file, and the file over the default; each variable is for one setting.  What a
variable says is read as a switch, a number or a text before a setting that is a text takes it, so that such
a setting has the text of the value and not the characters that were typed.  Main statements:
`get?_addVariables`, `load_eq_some_iff`, `spelling_eq_self_iff`, `load_overridden`, and
`numeral_respelled`.
-/

namespace Stocktake

/-! ## What a text setting takes from a variable -/

section Spelling

/-- The text that a setting takes from a variable. -/
def spelling (s : String) : String := (ConfigValue.ofVariable s).text?.getD s

/-- A text that reads as on or off. -/
def IsSwitchWord (s : String) : Prop := Text.lowercase s = "true" ∨ Text.lowercase s = "false"

/-- The texts that a setting takes as they are: a switch or a number as it is written out, and what reads as
    neither. -/
inductive TakenVerbatim (s : String) : Prop
  | on (written : s = "true")
  | off (written : s = "false")
  | integer (n : Int) (fits : Numeral.Fits64 n) (written : s = toString n)
  | float (x : Binary64) (not_integer : Numeral.integer? s.toList = none)
    (reads : Numeral.float? s.toList = some x) (written : s = x.text)
  | text (not_switch : ¬ IsSwitchWord s) (not_number : Numeral.float? s.toList = none)

variable {s : String}

/-- The lowercase of what a number starts with is the start of no switch. -/
theorem lowerChar_of_startsNumber {c : Char} (hc : Numeral.startsNumber c = true) :
    ∃ d rest, Text.lowerChar c = d :: rest ∧ d ≠ 't' ∧ d ≠ 'f' := by
  rw [Numeral.startsNumber, Bool.or_eq_true] at hc
  rcases hc with hdigit | hother
  · simp only [Numeral.isDigit, Bool.and_eq_true, decide_eq_true_eq] at hdigit
    have hlow : 48 ≤ c.toNat := hdigit.1
    have hhigh : c.toNat ≤ 57 := hdigit.2
    have hsmall : ¬ c.val ≥ 'A'.val := by
      intro hupper
      have hnat : 65 ≤ c.toNat := hupper
      omega
    have hself : c.toLower = c := dif_neg fun h => hsmall h.1
    have hlower : Text.lowerChar c = [c] := by rw [Text.lowerChar, if_pos (by omega), hself]
    refine ⟨c, [], hlower, ?_, ?_⟩
    · rintro rfl
      exact absurd hhigh (by decide)
    · rintro rfl
      exact absurd hhigh (by decide)
  · simp only [List.contains_iff_mem, List.mem_cons, List.not_mem_nil, or_false] at hother
    rcases hother with rfl | rfl | rfl | rfl | rfl | rfl | rfl
    all_goals exact ⟨_, [], rfl, by decide, by decide⟩

theorem float?_eq_none_of_isSwitchWord (h : IsSwitchWord s) : Numeral.float? s.toList = none := by
  apply Option.eq_none_iff_forall_ne_some.2
  intro x hx
  have hstart := Numeral.startsNumber_of_float? (Option.isSome_iff_exists.2 ⟨x, hx⟩)
  cases hchars : s.toList with
  | nil =>
    rw [hchars] at hx
    cases hx
  | cons c rest =>
    rw [hchars, List.head?_cons, Option.any_some] at hstart
    obtain ⟨d, rest', hlower, ht, hf⟩ := lowerChar_of_startsNumber hstart
    have hsigma : c ≠ 'Σ' := by
      rintro rfl
      cases hstart
    have hword : (Text.lowercase s).toList.head? = some d := by
      rw [Text.lowercase, String.toList_ofList, hchars, Text.lowerChars, Text.lowerAfter, if_neg hsigma,
        hlower]
      rfl
    rcases h with h | h
    · rw [h] at hword
      exact ht (Option.some.inj hword).symm
    · rw [h] at hword
      exact hf (Option.some.inj hword).symm

theorem integer?_eq_none_of_float? {cs : List Char} (h : Numeral.float? cs = none) :
    Numeral.integer? cs = none := by
  apply Option.eq_none_iff_forall_ne_some.2
  intro n hn
  have hfloat := Numeral.isSome_float?_of_integer? hn
  rw [h] at hfloat
  cases hfloat

/-- How a variable reads. -/
theorem ofVariable_cases (s : String) :
    (∃ b : Bool, IsSwitchWord s ∧ toString b = Text.lowercase s ∧ ConfigValue.ofVariable s = .boolean b) ∨
    (∃ n, ¬ IsSwitchWord s ∧ Numeral.integer? s.toList = some n ∧
      ConfigValue.ofVariable s = .integer n) ∨
    (∃ x, ¬ IsSwitchWord s ∧ Numeral.integer? s.toList = none ∧ Numeral.float? s.toList = some x ∧
      ConfigValue.ofVariable s = .float x) ∨
    (¬ IsSwitchWord s ∧ Numeral.float? s.toList = none ∧ ConfigValue.ofVariable s = .text s) := by
  by_cases hon : Text.lowercase s = "true"
  · refine .inl ⟨true, .inl hon, hon.symm, ?_⟩
    simp only [ConfigValue.ofVariable, if_pos hon]
  by_cases hoff : Text.lowercase s = "false"
  · refine .inl ⟨false, .inr hoff, hoff.symm, ?_⟩
    simp only [ConfigValue.ofVariable, if_neg hon, if_pos hoff]
  have hswitch : ¬ IsSwitchWord s := not_or.2 ⟨hon, hoff⟩
  simp only [ConfigValue.ofVariable, if_neg hon, if_neg hoff]
  cases hinteger : Numeral.integer? s.toList with
  | some n => exact .inr (.inl ⟨n, hswitch, rfl, rfl⟩)
  | none =>
    cases hfloat : Numeral.float? s.toList with
    | some x => exact .inr (.inr (.inl ⟨x, hswitch, rfl, rfl, rfl⟩))
    | none => exact .inr (.inr (.inr ⟨hswitch, rfl, rfl⟩))

theorem text?_ofVariable (s : String) : (ConfigValue.ofVariable s).text? = some (spelling s) := by
  rw [spelling]
  obtain ⟨b, -, -, hv⟩ | ⟨n, -, -, hv⟩ | ⟨x, -, -, -, hv⟩ | ⟨-, -, hv⟩ := ofVariable_cases s
  all_goals
    rw [hv]
    rfl

theorem spelling_of_integer? {n : Int} (h : Numeral.integer? s.toList = some n) :
    spelling s = toString n := by
  have hnumber := Numeral.isSome_float?_of_integer? h
  rw [spelling]
  obtain ⟨b, hswitch, -, -⟩ | ⟨m, -, hm, hv⟩ | ⟨x, -, hinteger, -, -⟩ | ⟨-, hfloat, -⟩ := ofVariable_cases s
  · rw [float?_eq_none_of_isSwitchWord hswitch] at hnumber
    cases hnumber
  · rw [hv, Option.some.inj (hm.symm.trans h)]
    rfl
  · cases hinteger.symm.trans h
  · rw [hfloat] at hnumber
    cases hnumber

theorem spelling_of_float? (hinteger : Numeral.integer? s.toList = none) {x : Binary64}
    (h : Numeral.float? s.toList = some x) : spelling s = x.text := by
  rw [spelling]
  obtain ⟨b, hswitch, -, -⟩ | ⟨n, -, hn, -⟩ | ⟨y, -, -, hy, hv⟩ | ⟨-, hfloat, -⟩ := ofVariable_cases s
  · cases (float?_eq_none_of_isSwitchWord hswitch).symm.trans h
  · cases hinteger.symm.trans hn
  · rw [hv, Option.some.inj (hy.symm.trans h)]
    rfl
  · cases hfloat.symm.trans h

theorem spelling_of_text (hswitch : ¬ IsSwitchWord s) (h : Numeral.float? s.toList = none) :
    spelling s = s := by
  rw [spelling]
  obtain ⟨b, hword, -, -⟩ | ⟨n, -, hn, -⟩ | ⟨x, -, -, hx, -⟩ | ⟨-, -, hv⟩ := ofVariable_cases s
  · exact absurd hword hswitch
  · cases (integer?_eq_none_of_float? h).symm.trans hn
  · cases h.symm.trans hx
  · rw [hv]
    rfl

/-- A setting takes a text as it is exactly if it reads as neither a switch nor a number or is how what it
    reads as is written. -/
theorem spelling_eq_self_iff : spelling s = s ↔ TakenVerbatim s := by
  constructor
  · intro h
    rw [spelling] at h
    obtain ⟨b, -, -, hv⟩ | ⟨n, -, hn, hv⟩ | ⟨x, -, hinteger, hx, hv⟩ | ⟨hswitch, hnumber, -⟩ :=
      ofVariable_cases s
    · rw [hv] at h
      cases b with
      | true => exact .on h.symm
      | false => exact .off h.symm
    · rw [hv] at h
      obtain ⟨-, -, -, fits⟩ := Numeral.integer?_eq_some.1 hn
      exact .integer n fits h.symm
    · rw [hv] at h
      exact .float x hinteger hx h.symm
    · exact .text hswitch hnumber
  · rintro (rfl | rfl | ⟨n, fits, rfl⟩ | ⟨x, hinteger, hx, hwritten⟩ | ⟨hswitch, hnumber⟩)
    · decide +kernel
    · decide +kernel
    · exact spelling_of_integer? (Numeral.integer?_toString fits)
    · rw [spelling_of_float? hinteger hx, ← hwritten]
    · exact spelling_of_text hswitch hnumber

/-- What starts like no number is taken as it is, switches apart. -/
theorem TakenVerbatim.of_head (hswitch : ¬ IsSwitchWord s)
    (hhead : s.toList.head?.any Numeral.startsNumber = false) : TakenVerbatim s := by
  apply TakenVerbatim.text hswitch
  apply Option.eq_none_iff_forall_ne_some.2
  intro x hx
  rw [Numeral.startsNumber_of_float? (Option.isSome_iff_exists.2 ⟨x, hx⟩)] at hhead
  cases hhead

end Spelling

/-! ## Variables over a file -/

/-- The settings that are texts. -/
inductive TextSetting
  | pluginDir
  | hiddenTag
  | defaultFilter
  deriving DecidableEq

namespace TextSetting

/-- The variable that overrides the setting. -/
def variableName : TextSetting → String
  | pluginDir => "INVENTAG_PLUGIN_DIR"
  | hiddenTag => "INVENTAG_HIDDEN_TAG"
  | defaultFilter => "INVENTAG_DEFAULT_FILTER"

/-- The key of the setting in a file. -/
def key : TextSetting → String
  | pluginDir => "plugin_dir"
  | hiddenTag => "hidden_tag"
  | defaultFilter => "default_filter"

/-- The setting. -/
def of (c : Config) : TextSetting → String
  | pluginDir => c.pluginDir
  | hiddenTag => c.hiddenTag
  | defaultFilter => c.defaultFilter

/-- The text that the setting gets: from its variable, else from the file, else by default; `none` if what the
    file has is no single value. -/
def given? (layer : ConfigLayer) (environment : List (String × String)) (t : TextSetting) :
    Option String :=
  match Dict.lookup t.variableName environment with
  | some value => some (spelling value)
  | none =>
    match layer.get? t.key with
    | some v => v.text?
    | none => some (t.of {})

theorem key_injective {t t' : TextSetting} (h : t.key = t'.key) : t = t' := by
  cases t <;> cases t' <;> first | rfl | exact absurd h (by decide)

theorem variableName_injective {t t' : TextSetting} (h : t.variableName = t'.variableName) : t = t' := by
  cases t <;> cases t' <;> first | rfl | exact absurd h (by decide)

/-- The variable is meant for the setting. -/
theorem after?_variableName (t : TextSetting) :
    Text.after? (Text.lowercase t.variableName) variableStart = some t.key := by
  cases t <;> decide +kernel

theorem settingOf_key (t : TextSetting) : settingOf t.key = (t.key, false) := by
  cases t <;> decide +kernel

end TextSetting

/-- The only variables that are meant for the program are those of text settings, and none is set twice. -/
structure OverridesTexts (environment : List (String × String)) : Prop where
  meant : ∀ x ∈ environment, (Text.after? (Text.lowercase x.1) variableStart).isSome →
    ∃ t : TextSetting, x.1 = t.variableName
  distinct : (environment.map Prod.fst).Nodup

/-- The values of a file, if it can be read; one that is not there has none. -/
def fileLayer? : (file : Option (List UInt8)) → Option ConfigLayer
  | none => some Dict.empty
  | some octets => (Toml.read .v11 (Text.decodeLossy octets)).map ConfigLayer.ofEntries

section Layers

variable {environment : List (String × String)}

theorem OverridesTexts.tail {x : String × String} (h : OverridesTexts (x :: environment)) :
    OverridesTexts environment where
  meant y hy := h.meant y (List.mem_cons_of_mem _ hy)
  distinct := (List.nodup_cons.1 h.distinct).2

/-- The first variable gives its setting a value, or is passed over. -/
theorem addVariables_cons {name value : String} (h : OverridesTexts ((name, value) :: environment))
    (layer : ConfigLayer) :
    (∃ t : TextSetting, name = t.variableName ∧
      layer.addVariables ((name, value) :: environment) =
        ConfigLayer.addVariables (layer.insert t.key (.ofVariable value)) environment) ∨
    (∀ t : TextSetting, t.variableName ≠ name) ∧
      layer.addVariables ((name, value) :: environment) = layer.addVariables environment := by
  simp only [ConfigLayer.addVariables, List.foldl_cons]
  cases hkey : Text.after? (Text.lowercase name) variableStart with
  | some key =>
    obtain ⟨t, ht⟩ := h.meant (name, value) List.mem_cons_self (by rw [hkey]; rfl)
    have hname : name = t.variableName := ht
    rw [hname, t.after?_variableName] at hkey
    obtain rfl := Option.some.inj hkey
    have hadd : layer.add t.key (.ofVariable value) = layer.insert t.key (.ofVariable value) := by
      rw [ConfigLayer.add, t.settingOf_key]
    exact .inl ⟨t, hname, by simp only [hadd]⟩
  | none =>
    refine .inr ⟨?_, rfl⟩
    intro t ht
    rw [← ht, t.after?_variableName] at hkey
    cases hkey

theorem lookup_eq_none_of_not_mem {name : String} (h : name ∉ environment.map Prod.fst) :
    Dict.lookup name environment = none := by
  cases hlookup : Dict.lookup name environment with
  | none => rfl
  | some value => exact absurd (Dict.isSome_lookup.1 (by rw [hlookup]; rfl)) h

/-- A text setting has the value of its variable, or what it had before. -/
theorem get?_addVariables (h : OverridesTexts environment) (layer : ConfigLayer) (t : TextSetting) :
    (layer.addVariables environment).get? t.key =
      ((Dict.lookup t.variableName environment).map ConfigValue.ofVariable).or (layer.get? t.key) := by
  induction environment generalizing layer with
  | nil => rfl
  | cons x environment ih =>
    obtain ⟨name, value⟩ := x
    rcases addVariables_cons h layer with ⟨t', hname, hstep⟩ | ⟨hother, hstep⟩
    · rw [hstep, ih h.tail, Dict.get?_insert, Dict.lookup, hname]
      by_cases ht : t' = t
      · have hlater : Dict.lookup t.variableName environment = none :=
          lookup_eq_none_of_not_mem (ht ▸ hname ▸ (List.nodup_cons.1 h.distinct).1)
        rw [if_pos (congrArg TextSetting.key ht.symm), if_pos (congrArg TextSetting.variableName ht), hlater]
        rfl
      · rw [if_neg fun heq => ht (TextSetting.key_injective heq).symm, if_neg fun heq => ht (TextSetting.variableName_injective heq)]
    · rw [hstep, ih h.tail, Dict.lookup, if_neg (Ne.symm (hother t))]

/-- What is no text setting keeps its value. -/
theorem get?_addVariables_of_ne (h : OverridesTexts environment) (layer : ConfigLayer) {key : String}
    (hkey : ∀ t : TextSetting, key ≠ t.key) :
    (layer.addVariables environment).get? key = layer.get? key := by
  induction environment generalizing layer with
  | nil => rfl
  | cons x environment ih =>
    rcases addVariables_cons h layer with ⟨t, -, hstep⟩ | ⟨-, hstep⟩
    · rw [hstep, ih h.tail, Dict.get?_insert, if_neg (hkey t)]
    · rw [hstep, ih h.tail]

end Layers

section Loading

variable {environment : List (String × String)} {file : Option (List UInt8)} {c : Config}

theorem ofLayer_eq_some_iff {layer : ConfigLayer} :
    Config.ofLayer layer = some c ↔
      (∀ t : TextSetting, layer.setting t.key (t.of {}) ConfigValue.text? = some (t.of c)) ∧
        layer.setting "use_wrapper" true ConfigValue.boolean? = some c.useWrapper ∧
        layer.setting "quiet" false ConfigValue.boolean? = some c.quiet := by
  simp only [Config.ofLayer, Option.bind_eq_bind, Option.bind_eq_some_iff, Option.pure_def, Option.some_inj]
  constructor
  · rintro ⟨pluginDir, hdir, hiddenTag, htag, useWrapper, hwrapper, defaultFilter, hfilter, quiet, hquiet,
      rfl⟩
    refine ⟨?_, hwrapper, hquiet⟩
    intro t
    cases t with
    | pluginDir => exact hdir
    | hiddenTag => exact htag
    | defaultFilter => exact hfilter
  · rintro ⟨htexts, hwrapper, hquiet⟩
    exact ⟨_, htexts .pluginDir, _, htexts .hiddenTag, _, hwrapper, _, htexts .defaultFilter, _, hquiet, rfl⟩

theorem load_eq (file : Option (List UInt8)) (environment : List (String × String)) :
    Config.load file environment =
      (fileLayer? file).bind fun layer => Config.ofLayer (layer.addVariables environment) := by
  cases file <;> rfl

theorem setting_addVariables (h : OverridesTexts environment) (layer : ConfigLayer) (t : TextSetting) :
    (layer.addVariables environment).setting t.key (t.of {}) ConfigValue.text? =
      t.given? layer environment := by
  rw [ConfigLayer.setting, get?_addVariables h, TextSetting.given?]
  cases Dict.lookup t.variableName environment with
  | none =>
    rw [Option.map_none, Option.none_or]
    cases layer.get? t.key <;> rfl
  | some value => exact text?_ofVariable value

theorem setting_addVariables_of_ne {α : Type} (h : OverridesTexts environment) (layer : ConfigLayer)
    {key : String} (hkey : ∀ t : TextSetting, key ≠ t.key) (fallback : α) (decode : ConfigValue → Option α) :
    (layer.addVariables environment).setting key fallback decode = layer.setting key fallback decode := by
  rw [ConfigLayer.setting, get?_addVariables_of_ne h layer hkey, ConfigLayer.setting]

/-- The settings are those that the variables and the file give; nothing else counts. -/
theorem load_eq_some_iff (h : OverridesTexts environment) :
    Config.load file environment = some c ↔
      ∃ layer, fileLayer? file = some layer ∧
        (∀ t : TextSetting, t.given? layer environment = some (t.of c)) ∧
        layer.setting "use_wrapper" true ConfigValue.boolean? = some c.useWrapper ∧
        layer.setting "quiet" false ConfigValue.boolean? = some c.quiet := by
  have hwrapper : ∀ t : TextSetting, "use_wrapper" ≠ t.key := by
    intro t
    cases t <;> decide
  have hquiet : ∀ t : TextSetting, "quiet" ≠ t.key := by
    intro t
    cases t <;> decide
  rw [load_eq, Option.bind_eq_some_iff]
  apply exists_congr
  intro layer
  apply and_congr_right
  intro _
  rw [ofLayer_eq_some_iff, setting_addVariables_of_ne h layer hwrapper,
    setting_addVariables_of_ne h layer hquiet]
  simp only [setting_addVariables h]

theorem overridesTexts_nil : OverridesTexts [] where
  meant _ hx := absurd hx List.not_mem_nil
  distinct := List.nodup_nil

end Loading

/-- The settings with other texts. -/
def Config.withTexts (c : Config) (texts : TextSetting → String) : Config where
  pluginDir := texts .pluginDir
  hiddenTag := texts .hiddenTag
  useWrapper := c.useWrapper
  defaultFilter := texts .defaultFilter
  quiet := c.quiet

/-- A file that is accepted is accepted under variables for text settings.  Each of them changes its own
    setting and no other one: to the text of the value as which it reads.  So a setting has the text of its
    variable, or else that of the file, or else its default; and the text of the variable is the variable
    exactly if this is taken verbatim. -/
theorem load_overridden {environment : List (String × String)} (h : OverridesTexts environment)
    (file : Option (List UInt8)) :
    (∀ base, Config.load file [] = some base →
      ∃ c, Config.load file environment = some c ∧ c.useWrapper = base.useWrapper ∧ c.quiet = base.quiet ∧
        ∀ t : TextSetting, t.of c =
          ((Dict.lookup t.variableName environment).map spelling).getD (t.of base)) ∧
    (∀ c, Config.load file environment = some c →
      ∃ layer, fileLayer? file = some layer ∧
        ∀ t : TextSetting, t.given? layer environment = some (t.of c)) ∧
    ∀ s, spelling s = s ↔ TakenVerbatim s := by
  refine ⟨?_, ?_, ?_⟩
  · intro base hbase
    obtain ⟨layer, hlayer, htexts, hwrapper, hquiet⟩ := (load_eq_some_iff overridesTexts_nil).1 hbase
    let c := base.withTexts fun t =>
      ((Dict.lookup t.variableName environment).map spelling).getD (t.of base)
    have hof : ∀ t : TextSetting, t.of c =
        ((Dict.lookup t.variableName environment).map spelling).getD (t.of base) := by
      intro t
      cases t <;> rfl
    refine ⟨c, (load_eq_some_iff h).2 ⟨layer, hlayer, ?_, hwrapper, hquiet⟩, rfl, rfl, hof⟩
    intro t
    have hfile := htexts t
    rw [hof]
    unfold TextSetting.given? at hfile ⊢
    cases Dict.lookup t.variableName environment with
    | none => exact hfile
    | some value => rfl
  · intro c hc
    obtain ⟨layer, hlayer, htexts, -⟩ := (load_eq_some_iff h).1 hc
    exact ⟨layer, hlayer, htexts⟩
  · intro s
    exact spelling_eq_self_iff

/-- A tag for hidden records that is no number is taken from its variable as it is, over the file. -/
theorem load_overridden_private :
    let environment := [("PATH", "/usr/bin"), ("INVENTAG_HIDDEN_TAG", "private")]
    let file := some (Text.octets "hidden_tag = \"secret\"\ndefault_filter = \"name\"\nquiet = true\n")
    OverridesTexts environment ∧ ∃ c, Config.load file environment = some c ∧ c.hiddenTag = "private" ∧
      c.defaultFilter = "name" ∧ c.pluginDir = "modules/plugins" ∧ c.quiet = true := by
  intro environment file
  have henvironment : OverridesTexts environment := by
    refine ⟨?_, by decide⟩
    intro x hx hmeant
    rcases List.mem_cons.1 hx with rfl | hx
    · exact absurd hmeant (by decide +kernel)
    · exact ⟨.hiddenTag, by rw [List.mem_singleton.1 hx]; rfl⟩
  have hbase : Config.load file [] =
      some { hiddenTag := "secret", defaultFilter := "name", quiet := true } := by decide +kernel
  obtain ⟨hover, -, hverbatim⟩ := load_overridden henvironment file
  obtain ⟨c, hc, -, hquiet, htexts⟩ := hover _ hbase
  have hword : spelling "private" = "private" :=
    (hverbatim "private").2 (.of_head (by unfold IsSwitchWord; decide +kernel) (by decide +kernel))
  refine ⟨henvironment, c, hc, (htexts .hiddenTag).trans hword, htexts .defaultFilter, htexts .pluginDir,
    hquiet⟩

/-- A tag of digits loses the zeros before them. -/
theorem numeral_respelled :
    Config.load none [("INVENTAG_HIDDEN_TAG", "007")] = some { hiddenTag := "7" } := by
  decide +kernel

end Stocktake
