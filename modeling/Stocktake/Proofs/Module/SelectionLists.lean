import Stocktake.Proofs.Action.ListValues
import Stocktake.Proofs.Files.Writing
import Stocktake.Proofs.Module.Endings
import Stocktake.Proofs.Module.Ordering
import Stocktake.Proofs.Number.Numerals
import Stocktake.Proofs.Text.Decoding

/-!
# Selection lists

The export asks one query for the names of packages, and what it writes is made of the answer alone: a line
with the number of the names, and a line for each of them, in the order of the names in small letters.  Unless
a name has a line feed in it, the names are read back from the lines.  Main statement:
`selectionExport_writes`.
-/

namespace Stocktake.Packages

/-- The package that a line of a selection list asks for, if it does. -/
def wanted? (line : String) : Option String :=
  (Text.stripStart? " install".toList.reverse line.toList.reverse).map fun name => String.ofList name.reverse

/-- The packages that a selection list asks for. -/
def wanted (text : String) : List String := (Text.lines text).filterMap wanted?

/-- How many packages the first line of a selection list speaks of. -/
def announced? (text : String) : Option Nat :=
  (Text.lines text).head?.bind fun line =>
    (Text.stripStart? "# Packages: ".toList line.toList).bind Numeral.digits?

section Reading

theorem wanted?_install (name : String) : wanted? (name ++ " install") = some name := by
  rw [wanted?, String.toList_append, List.reverse_append, Text.stripStart?_append_self, Option.map_some,
    List.reverse_reverse, String.ofList_toList]

theorem toList_count (n : Nat) :
    ("# Packages: " ++ toString n).toList = "# Packages: ".toList ++ Nat.toDigits 10 n := by
  rw [String.toList_append, Nat.toString_eq_repr, Nat.toList_repr]

/-- The first line does not ask for a package: it ends with a digit. -/
theorem wanted?_count (n : Nat) : wanted? ("# Packages: " ++ toString n) = none := by
  rw [wanted?, Option.map_eq_none_iff, toList_count, List.reverse_append]
  cases hstrip : Text.stripStart? " install".toList.reverse
      ((Nat.toDigits 10 n).reverse ++ "# Packages: ".toList.reverse) with
  | none => rfl
  | some r =>
    have heq := Text.stripStart?_eq_some.1 hstrip
    cases hdigits : (Nat.toDigits 10 n).reverse with
    | nil => exact absurd (List.reverse_eq_nil_iff.1 hdigits) Nat.toDigits_ne_nil
    | cons c digits =>
      have hc : c ∈ Nat.toDigits 10 n := List.mem_reverse.1 (hdigits ▸ List.mem_cons_self)
      rw [hdigits] at heq
      obtain rfl : c = 'l' := (List.cons.inj heq).1
      exact absurd hc (Numeral.not_mem_toDigits (by decide) n)

variable {names : List String}

/-- The text of a selection list. -/
def selectionText (names : List String) : String :=
  String.join ((selectionLines names).map fun line => line ++ "\n")

theorem selectionText_eq (names : List String) :
    selectionText names = "# Packages: " ++ toString names.length ++ "\n" ++
      String.join (names.map fun name => name ++ " install\n") := by
  have hline : ((fun line => line ++ "\n") ∘ fun name => name ++ " install") =
      fun name : String => name ++ " install\n" := by
    funext name
    rw [Function.comp_apply, String.append_assoc]
    rfl
  rw [selectionText, selectionLines, List.map_cons, String.join_cons, List.map_map, hline]

theorem lines_selectionText (h : ∀ name ∈ names, '\n' ∉ name.toList) :
    Text.lines (selectionText names) = selectionLines names := by
  refine Text.lines_ended ?_ ?_
  · intro line hline
    rcases List.mem_cons.1 hline with rfl | hline
    · rw [toList_count, List.mem_append, not_or]
      exact ⟨by decide, Numeral.not_mem_toDigits (by decide) _⟩
    · obtain ⟨name, hname, rfl⟩ := List.mem_map.1 hline
      rw [String.toList_append, List.mem_append, not_or]
      exact ⟨h name hname, by decide⟩
  · intro line hline hreturn
    rcases List.mem_cons.1 hline with rfl | hline
    · rw [toList_count, List.getLast?_append_of_ne_nil _ Nat.toDigits_ne_nil] at hreturn
      exact absurd (List.mem_of_getLast? hreturn) (Numeral.not_mem_toDigits (by decide) _)
    · obtain ⟨name, -, rfl⟩ := List.mem_map.1 hline
      rw [String.toList_append, List.getLast?_append_of_ne_nil _ (by decide)] at hreturn
      exact absurd hreturn (by decide)

/-- The names are read back, and the first line has their number. -/
theorem reads_selectionText (h : ∀ name ∈ names, '\n' ∉ name.toList) :
    wanted (selectionText names) = names ∧ announced? (selectionText names) = some names.length := by
  constructor
  · rw [wanted, lines_selectionText h, selectionLines, List.filterMap_cons_none (wanted?_count _),
      List.filterMap_map]
    exact (congrArg (names.filterMap ·) (funext wanted?_install)).trans List.filterMap_some
  · rw [announced?, lines_selectionText h, selectionLines, List.head?_cons, Option.bind_some, toList_count,
      Text.stripStart?_append_self, Option.bind_some, Numeral.digits?_toDigits]

end Reading

section Export

/-- The inputs of the export with a file, and with the text of the tags if there is one. -/
def inputs (path : String) (tags : Option String) : List Parameter :=
  [.file { fileParameter with path := some path }, .text { tagsParameter with current := tags }]

/-- The tags are the pieces between commas that are not blank, trimmed. -/
theorem exportTags_inputs (path : String) (tags : Option String) :
    exportTags (inputs path tags) =
      (((tags.getD "").toList.splitOn ',').filter fun piece => !piece.all Text.isBlank).map
        fun piece => String.ofList (Text.trimChars piece) := by
  have hparameter : exportTags (inputs path tags) =
      ({ tagsParameter with current := tags } : TextParameter).values := rfl
  have hvalue : ({ tagsParameter with current := tags } : TextParameter).value = tags.getD "" :=
    congrArg (Option.getD · "") Option.or_none
  have hlist : ({ tagsParameter with current := tags } : TextParameter).separator = some "," := rfl
  rw [hparameter, TextParameter.values_eq hlist, hvalue]
  exact congrArg (fun pieces : List (List Char) => (pieces.filter _).map _) (Text.splitOn_singleton ',' _)

variable {path : String} {tags : List String} {w : World} {rows : List Row}

theorem exportTo_of_error {e : StoreError} (h : w.store.select (selectionQuery tags) = .error e) :
    exportTo path tags w = (.error (.store e), w.report (.clamped .zero "Querying packages")) := by
  have hasked : (w.report (.clamped .zero "Querying packages")).store.select (selectionQuery tags) =
      .error e := h
  simp only [exportTo, hasked]

theorem exportTo_of_ok (h : w.store.select (selectionQuery tags) = .ok rows) :
    exportTo path tags w =
      match w.files.write? w.workingDirectory path (Text.octets (selectionText
        (sortByKey Text.lowercase (rows.filterMap fun row => row.get? "name")))) with
      | none => (.error .io, w.report (.clamped .zero "Querying packages"))
      | some files =>
        (.ok (), (({ w.report (.clamped .zero "Querying packages") with files }).report
          (.clamped .one "Package list written")).post (.exported exportName)) := by
  have hasked : (w.report (.clamped .zero "Querying packages")).store.select (selectionQuery tags) =
      .ok rows := h
  simp only [exportTo, hasked]
  rfl

/-- What the store answers to other queries does not matter. -/
theorem exportTo_of_select_eq {s : Store}
    (h : s.select (selectionQuery tags) = w.store.select (selectionQuery tags)) :
    exportTo path tags { w with store := s } =
      ((exportTo path tags w).1, { (exportTo path tags w).2 with store := s }) := by
  cases hselect : w.store.select (selectionQuery tags) with
  | error e =>
    rw [exportTo_of_error hselect, exportTo_of_error (w := { w with store := s }) (h.trans hselect)]
    rfl
  | ok rows =>
    rw [exportTo_of_ok hselect, exportTo_of_ok (w := { w with store := s }) (h.trans hselect)]
    cases w.files.write? w.workingDirectory path _ <;> rfl

/-- The export takes any path and any text of tags.  The query that it asks is the one for the pieces of the
    text between commas, trimmed, that are not blank, and nothing else of the store matters; if the query
    fails, the export fails so.  The answer makes one text: a line with the number of the rows that bind the
    name, and a line for each of their names, in the order of the names in small letters, names that differ in
    case alone being in the order of the rows.  Either the file cannot be written and there is no other change
    to the files; or the export succeeds, and the text is read from the path.  Names without line feeds are
    read back from the text, and there are as many as the first line says. -/
theorem selectionExport_writes :
    (∀ store text, selectionExport.parameters.map (·.set store text) =
      [.ok (.file { fileParameter with path := some text }),
        .ok (.text { tagsParameter with current := some text })]) ∧
    ∀ (path : String) (tags : Option String) (w : World),
      let items := (((tags.getD "").toList.splitOn ',').filter fun piece => !piece.all Text.isBlank).map
        fun piece => String.ofList (Text.trimChars piece)
      let query := selectionQuery items
      let result := selectionExport.run (inputs path tags) w
      (∀ s : Store, s.select query = w.store.select query →
        selectionExport.run (inputs path tags) { w with store := s } =
          (result.1, { result.2 with store := s })) ∧
      (∀ e, w.store.select query = .error e → result.1 = .error (.store e) ∧ result.2.files = w.files) ∧
      ∀ rows, w.store.select query = .ok rows → ∃ names written,
        StablySorted Text.lowercase (rows.filterMap fun row => row.get? "name") names ∧
        written = "# Packages: " ++ toString (rows.countP fun row => row.has "name") ++ "\n" ++
          String.join (names.map fun name => name ++ " install\n") ∧
        (result.1 = .error .io ∧ result.2.files = w.files ∧
            w.files.write? w.workingDirectory path (Text.octets written) = none ∨
          result.1 = .ok () ∧
            w.files.write? w.workingDirectory path (Text.octets written) = some result.2.files ∧
            result.2.files.readText? result.2.workingDirectory path = some written) ∧
        ((∀ name ∈ names, '\n' ∉ name.toList) →
          wanted written = names ∧ announced? written = some (wanted written).length) := by
  refine ⟨fun store text => rfl, ?_⟩
  intro path tags w items query result
  have hrun : ∀ w : World, selectionExport.run (inputs path tags) w = exportTo path items w := by
    intro w
    have htags : exportTags (inputs path tags) = items := exportTags_inputs path tags
    rw [← htags]
    rfl
  have hresult : result = exportTo path items w := hrun w
  refine ⟨?_, ?_, ?_⟩
  · intro s hs
    rw [hrun, hresult]
    exact exportTo_of_select_eq hs
  · intro e he
    rw [hresult, exportTo_of_error he]
    exact ⟨rfl, rfl⟩
  · intro rows hrows
    rw [hresult, exportTo_of_ok hrows]
    have hsorted := stablySorted_sortByKey Text.lowercase (rows.filterMap fun row => row.get? "name")
    generalize sortByKey Text.lowercase (rows.filterMap fun row => row.get? "name") = names at hsorted ⊢
    have hcount : names.length = rows.countP fun row => row.has "name" := by
      rw [hsorted.perm.length_eq, List.length_filterMap_eq_countP]
      rfl
    refine ⟨names, selectionText names, hsorted, ?_, ?_, ?_⟩
    · rw [selectionText_eq, hcount]
    · cases hwrite : w.files.write? w.workingDirectory path (Text.octets (selectionText names)) with
      | none => exact .inl ⟨rfl, rfl, rfl⟩
      | some files =>
        refine .inr ⟨rfl, rfl, ?_⟩
        have hread : files.read? w.workingDirectory path = some (Text.octets (selectionText names)) :=
          FileTree.read?_write? hwrite
        have htext : files.readText? w.workingDirectory path = some (selectionText names) := by
          rw [FileTree.readText?, hread, Option.bind_some, Text.decode?_octets]
        exact htext
    · intro hfree
      obtain ⟨hnames, hnumber⟩ := reads_selectionText hfree
      rw [hnames]
      exact ⟨rfl, hnumber⟩

/-- Two names differ in case alone, one comes twice, and a row has no name. -/
theorem selectionExport_writes_cases :
    let rows := [["zsh"], ["Bash"], [], ["bash"], ["zsh"]].map fun names =>
      Dict.ofList (names.map fun name => ("name", name))
    let query := selectionQuery ["keep", "base set"]
    let w : World := { store := { selects := Dict.empty.insert query rows } }
    let result := selectionExport.run (inputs "list" (some " keep ,,base set")) w
    let written := "# Packages: 4\nBash install\nbash install\nzsh install\nzsh install\n"
    w.store.select query = .ok rows ∧ result.1 = .ok () ∧
      result.2.files.readText? result.2.workingDirectory "list" = some written ∧
      wanted written = ["Bash", "bash", "zsh", "zsh"] ∧ announced? written = some 4 := by
  intro rows query w result written
  have hquery : selectionQuery (((" keep ,,base set".toList.splitOn ',').filter
      fun piece => !piece.all Text.isBlank).map fun piece => String.ofList (Text.trimChars piece)) =
      query := by decide +kernel
  have hselect : w.store.select query = .ok rows := by decide +kernel
  obtain ⟨names, text, hsorted, htext, hended, hback⟩ :=
    (selectionExport_writes.2 "list" (some " keep ,,base set") w).2.2 rows (hquery ▸ hselect)
  have hnames : names = ["Bash", "bash", "zsh", "zsh"] := by
    have hrows : (rows.filterMap fun row => row.get? "name") = ["zsh", "Bash", "bash", "zsh"] := by
      decide +kernel
    have hkeys : ["Bash", "bash", "zsh", "zsh"].map Text.lowercase = ["bash", "bash", "zsh", "zsh"] := by
      decide +kernel
    refine hsorted.eq ⟨by decide +kernel, ?_, fun k => ?_⟩
    · have hordered : ["Bash", "bash", "zsh", "zsh"].Pairwise
          fun a b => ¬ Text.lowercase b < Text.lowercase a := by decide +kernel
      exact hordered.imp not_octets_lt
    · simp only [List.map_cons, List.cons.injEq] at hkeys
      obtain ⟨hupper, hlower, hzsh, -⟩ := hkeys
      rw [hrows]
      by_cases hk : k = "bash"
      · simp [hupper, hlower, hzsh, hk]
      · simp [List.filter_cons, hupper, hlower, hzsh, Ne.symm hk]
  have hlist : text = written := by
    rw [htext, hnames]
    decide +kernel
  have hgood : result.1.isOk = true := by decide +kernel
  rw [hlist, hnames] at hback
  obtain ⟨hwanted, hnumber⟩ := hback (by decide)
  rw [hwanted] at hnumber
  rcases hended with ⟨hfailed, -⟩ | ⟨hsucceeded, -, hread⟩
  · have herror : result.1 = .error .io := hfailed
    rw [herror] at hgood
    cases hgood
  · exact ⟨hselect, hsucceeded, hlist ▸ hread, hwanted, hnumber⟩

end Export

end Stocktake.Packages
