import Stocktake.Proofs.Module.Ordering
import Mathlib.Data.List.Induction

/-!
# Records grouped from cells

The cells of different subjects come in any order, and each is added to the record of its subject.  What a
record becomes can be told from the cells of its subject alone: the first of them has the display, and the
values of a field are joined in their order, less the empty ones at the start, which leave no comma behind.
Main statements: `groupCells_cons`, which takes the cells of the first subject apart from all others,
`get?_gatheredFields`, and `groupCells_records`.
-/

namespace Stocktake

section Fields

/-- The value of a field that has been given values one after the other. -/
def joinedValues? (values : List String) : Option String :=
  if values = [] then none else some (Text.join ", " (values.dropWhile fun v => v = ""))

/-- The fields that cells make, whatever their subjects are. -/
def gatheredFields (cells : List Cell) : Dict String :=
  cells.foldl (fun fields c => appendField fields c.field c.value) .empty

theorem join_concat (sep : String) {texts : List String} (h : texts ≠ []) (text : String) :
    Text.join sep (texts ++ [text]) = Text.join sep texts ++ sep ++ text := by
  rw [Text.join, String.intercalate_append_of_ne_nil h (List.cons_ne_nil text []),
    String.intercalate_singleton, Text.join]

theorem join_cons_ne_empty (sep : String) {first : String} (h : first ≠ "") (texts : List String) :
    Text.join sep (first :: texts) ≠ "" := by
  intro hempty
  by_cases hrest : texts = []
  · subst hrest
    exact h (by simpa [Text.join] using hempty)
  · rw [Text.join, String.intercalate_cons_of_ne_nil hrest] at hempty
    have hparts := String.append_eq_empty_iff.1 hempty
    exact h (String.append_eq_empty_iff.1 hparts.1).1

/-- One more value is put behind a comma, unless all before it have been empty. -/
theorem joinedValues?_concat (values : List String) (value : String) :
    joinedValues? (values ++ [value]) = some (match joinedValues? values with
      | none => value
      | some old => if old = "" then value else old ++ ", " ++ value) := by
  have hsome : joinedValues? (values ++ [value]) =
      some (Text.join ", " ((values ++ [value]).dropWhile fun v => v = "")) := by
    rw [joinedValues?, if_neg (by simp)]
  have hlast : Text.join ", " ([value].dropWhile fun v => v = "") = value := by
    by_cases hv : value = ""
    · subst hv
      rfl
    · simp [hv, Text.join]
  rw [hsome, List.dropWhile_append]
  by_cases hvalues : values = []
  · subst hvalues
    exact congrArg some hlast
  · rw [joinedValues?, if_neg hvalues]
    cases hrest : values.dropWhile fun v => v = "" with
    | nil => exact congrArg some hlast
    | cons first rest =>
      have hfirst : first ≠ "" := by
        have hhead := List.head?_dropWhile_not (fun v : String => decide (v = "")) values
        rw [hrest] at hhead
        simpa using hhead
      have hfilled := join_cons_ne_empty ", " hfirst rest
      simp only [List.isEmpty_cons, Bool.false_eq_true, if_false, if_neg hfilled]
      rw [join_concat _ (List.cons_ne_nil first rest)]

theorem get?_appendField (fields : Dict String) (name value field : String) :
    (appendField fields name value).get? field =
      if field = name then
        some (match fields.get? name with
          | none => value
          | some old => if old = "" then value else old ++ ", " ++ value)
      else fields.get? field := by
  unfold appendField
  cases fields.get? name with
  | none => exact Dict.get?_insert fields name field value
  | some old => exact Dict.get?_insert fields name field _

/-- The fields are those that the cells name, each with the values that they have for it. -/
theorem get?_gatheredFields (cells : List Cell) (field : String) :
    (gatheredFields cells).get? field =
      joinedValues? ((cells.filter fun c => c.field = field).map Cell.value) := by
  induction cells using List.reverseRecOn with
  | nil => rfl
  | append_singleton cells c ih =>
    have hstep : gatheredFields (cells ++ [c]) =
        appendField (gatheredFields cells) c.field c.value := List.foldl_concat ..
    rw [hstep, get?_appendField, List.filter_append, List.map_append]
    by_cases hfield : field = c.field
    · subst hfield
      rw [if_pos rfl, ih, ← joinedValues?_concat]
      simp
    · rw [if_neg hfield, ih, List.filter_singleton, decide_eq_false (Ne.symm hfield)]
      simp

end Fields

section Subjects

/-- The cells of a subject. -/
def cellsOf (uri : String) (cells : List Cell) : List Cell := cells.filter fun c => c.uri = uri

/-- The record of a subject whose cells these are. -/
def subjectDraft (uri : String) (own : List Cell) : Draft where
  display := (own.head?.map Cell.display).getD ""
  reference := some { uri }
  fields := gatheredFields own

/-- Cells of the subject of the first record are added to it, and the others to the rest. -/
theorem foldl_addCell_cons (cells : List Cell) {d : Draft} {uri : String} (h : d.uri = some uri)
    (ds : List Draft) :
    cells.foldl (fun ds c => addCell c ds) (d :: ds) =
      (cellsOf uri cells).foldl (fun d c => d.appendField c.field c.value) d ::
        (cells.filter fun c => c.uri ≠ uri).foldl (fun ds c => addCell c ds) ds := by
  induction cells generalizing d ds with
  | nil => rfl
  | cons c cells ih =>
    rw [List.foldl_cons, addCell, h]
    by_cases hc : c.uri = uri
    · have hadded : (d.appendField c.field c.value).uri = some uri := h
      rw [if_pos (by rw [hc]), ih hadded]
      simp [cellsOf, hc]
    · have hother : some uri ≠ some c.uri := fun he => hc (Option.some.inj he).symm
      rw [if_neg hother, ih h]
      simp [cellsOf, hc]

theorem foldl_appendField (cells : List Cell) (d : Draft) :
    cells.foldl (fun d c => d.appendField c.field c.value) d =
      { d with fields := cells.foldl (fun fields c => appendField fields c.field c.value) d.fields } := by
  induction cells generalizing d with
  | nil => rfl
  | cons c cells ih =>
    rw [List.foldl_cons, ih]
    rfl

/-- The first subject has the first record, made of its cells, and the cells of the others make the rest. -/
theorem groupCells_cons (c : Cell) (cells : List Cell) :
    groupCells (c :: cells) =
      subjectDraft c.uri (cellsOf c.uri (c :: cells)) ::
        groupCells (cells.filter fun x => x.uri ≠ c.uri) := by
  have hown : cellsOf c.uri (c :: cells) = c :: cellsOf c.uri cells := by simp [cellsOf]
  rw [groupCells, List.foldl_cons, addCell, foldl_addCell_cons cells rfl, foldl_appendField, hown]
  rfl

/-- The cells of one subject make one record. -/
theorem groupCells_cellsOf {uri : String} {cells : List Cell} (h : cellsOf uri cells ≠ []) :
    groupCells (cellsOf uri cells) = [subjectDraft uri (cellsOf uri cells)] := by
  have huri : ∀ c ∈ cellsOf uri cells, c.uri = uri := fun c hc => by
    simpa using (List.mem_filter.1 hc).2
  have hself : cellsOf uri (cellsOf uri cells) = cellsOf uri cells := by
    simp [cellsOf, List.filter_filter]
  cases hown : cellsOf uri cells with
  | nil => exact absurd hown h
  | cons c own =>
    rw [hown] at huri hself
    have hc : c.uri = uri := huri c List.mem_cons_self
    have hothers : own.filter (fun x => x.uri ≠ uri) = [] :=
      List.filter_eq_nil_iff.2 fun x hx => by simpa using huri x (List.mem_cons_of_mem c hx)
    rw [groupCells_cons, hc, hself, hothers]
    rfl

/-- There is one record for every subject, in the order in which they come up, made of its cells. -/
theorem groupCells_eq (cells : List Cell) :
    groupCells cells =
      (cells.map Cell.uri).eraseDups.map fun uri => subjectDraft uri (cellsOf uri cells) := by
  induction cells using keyInduction Cell.uri with
  | nil => rfl
  | cons c cells ih =>
    rw [groupCells_cons, ih, eraseDups_map_cons, List.map_cons]
    refine congrArg (_ :: ·) (List.map_congr_left fun uri huri => ?_)
    obtain ⟨x, hx, rfl⟩ := List.mem_map.1 (List.mem_eraseDups.1 huri)
    have hne : x.uri ≠ c.uri := by simpa using (List.mem_filter.1 hx).2
    have hown : cellsOf x.uri (cells.filter fun y => y.uri ≠ c.uri) = cellsOf x.uri (c :: cells) := by
      simp only [cellsOf, List.filter_filter, List.filter_cons, Ne.symm hne, decide_false,
        Bool.false_eq_true, if_false]
      refine List.filter_congr fun y _ => ?_
      by_cases hy : y.uri = x.uri
      · simp [hy, hne]
      · simp [hy]
    rw [hown]

/-- Grouping makes one record for every subject that has a cell, in the order in which they come up.  It
    refers to the subject and has the display of its first cell; its fields are those that its cells name,
    each with the values in order, less the empty ones at the start, and commas between them.  The cells of
    other subjects make no difference. -/
theorem groupCells_records (cells : List Cell) :
    List.Forall₂
      (fun uri d =>
        d.reference = some { uri } ∧ d.tags = [] ∧
        (cellsOf uri cells).head?.map Cell.display = some d.display ∧
        (∀ field, d.fields.get? field =
          joinedValues? (((cellsOf uri cells).filter fun c => c.field = field).map Cell.value)) ∧
        groupCells (cellsOf uri cells) = [d])
      (cells.map Cell.uri).eraseDups (groupCells cells) := by
  rw [groupCells_eq, List.forall₂_map_right_iff, List.forall₂_same]
  intro uri huri
  obtain ⟨c, hc, rfl⟩ := List.mem_map.1 (List.mem_eraseDups.1 huri)
  have hown : cellsOf c.uri cells ≠ [] :=
    List.ne_nil_of_mem (List.mem_filter.2 ⟨hc, decide_eq_true rfl⟩)
  refine ⟨rfl, rfl, ?_, fun field => get?_gatheredFields _ field, ?_⟩
  · obtain ⟨first, rest, hfirst⟩ := List.exists_cons_of_ne_nil hown
    rw [subjectDraft, hfirst]
    rfl
  · exact groupCells_cellsOf hown

end Subjects

end Stocktake
