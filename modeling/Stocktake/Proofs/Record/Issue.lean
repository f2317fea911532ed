import Stocktake.Proofs.Record.Refresh
import Mathlib.Data.List.Basic

/-!
# Handing out drafts

Drafts get the free numbers in order, so that no two records of them share one.  What is seen of the
records then, and after a look at the store, can be read off the drafts.  Main statements:
`issueAll_eq`, `read_issueAll`, `read_refreshAll_issueAll`.
-/

namespace Stocktake

namespace Draft

/-- The record of a draft with this number. -/
def numbered (d : Draft) (id : Nat) : Record := ⟨id, d.display, d.reference, d.fields⟩

/-- What is seen of a draft when the store has been asked for its tags. -/
def freshRead (store : Store) (d : Draft) : Reading :=
  { d.read with tags := ((d.numbered 0).told store).getD d.tags }

theorem issueAll_cons (cache : TagCache) (d : Draft) (ds : List Draft) :
    issueAll cache (d :: ds) =
      ((d.issue cache).1 :: (issueAll (d.issue cache).2 ds).1,
        (issueAll (d.issue cache).2 ds).2) := rfl

theorem issueAll_append (cache : TagCache) (ds es : List Draft) :
    issueAll cache (ds ++ es) =
      ((issueAll cache ds).1 ++ (issueAll (issueAll cache ds).2 es).1,
        (issueAll (issueAll cache ds).2 es).2) := by
  induction ds generalizing cache with
  | nil => rfl
  | cons d ds ih => rw [List.cons_append, issueAll_cons, ih, issueAll_cons, List.cons_append]

/-- Drafts get the numbers from the first free one on, and their tags stand under these. -/
theorem issueAll_eq (cache : TagCache) (ds : List Draft) :
    issueAll cache ds =
      ((ds.zipIdx cache.entries.size).map fun x => x.1.numbered x.2,
        ⟨cache.entries ++ (ds.map Draft.tags).toArray⟩) := by
  induction ds generalizing cache with
  | nil => simp [issueAll]
  | cons d ds ih =>
    rw [issueAll_cons, ih]
    simp [issue, TagCache.push, numbered]

theorem get_issueAll {cache : TagCache} {ds : List Draft} {d : Draft} {id : Nat}
    (h : (d, id) ∈ ds.zipIdx cache.entries.size) : (issueAll cache ds).2.get id = d.tags := by
  obtain ⟨hle, hget⟩ := List.mk_mem_zipIdx_iff_le_and_getElem?_sub.1 h
  rw [issueAll_eq, TagCache.get, Array.getD_eq_getD_getElem?, Array.getElem?_append_right hle]
  simp [hget]

/-- A number that is handed out stands for one record. -/
theorem coherent_issueAll (cache : TagCache) (ds : List Draft) :
    Record.Coherent (issueAll cache ds).1 := by
  rw [issueAll_eq]
  intro r hr s hs hid
  obtain ⟨⟨d, i⟩, hd, rfl⟩ := List.mem_map.1 hr
  obtain ⟨⟨e, j⟩, he, rfl⟩ := List.mem_map.1 hs
  obtain rfl : i = j := hid
  have hsame := (List.mk_mem_zipIdx_iff_le_and_getElem?_sub.1 hd).2
  rw [(List.mk_mem_zipIdx_iff_le_and_getElem?_sub.1 he).2] at hsame
  cases hsame
  rfl

/-- What can be told of the records of drafts, if it can be told of the drafts one by one. -/
theorem map_issueAll {α : Type} {cache : TagCache} {ds : List Draft} {told : Record → α}
    {toldOf : Draft → α}
    (h : ∀ d id, (d, id) ∈ ds.zipIdx cache.entries.size → told (d.numbered id) = toldOf d) :
    (issueAll cache ds).1.map told = ds.map toldOf := by
  rw [congrArg Prod.fst (issueAll_eq cache ds)]
  calc ((ds.zipIdx cache.entries.size).map fun x => x.1.numbered x.2).map told
    _ = (ds.zipIdx cache.entries.size).map fun x => told (x.1.numbered x.2) := List.map_map
    _ = (ds.zipIdx cache.entries.size).map (toldOf ∘ Prod.fst) :=
      List.map_congr_left fun x hx => h x.1 x.2 hx
    _ = ds.map toldOf := by rw [← List.map_map, List.zipIdx_map_fst]

theorem map_uri_issueAll (cache : TagCache) (ds : List Draft) :
    (issueAll cache ds).1.map Record.uri = ds.map Draft.uri := map_issueAll fun _ _ _ => rfl

/-- Handing out drafts shows them as they are. -/
theorem read_issueAll (cache : TagCache) (ds : List Draft) :
    (issueAll cache ds).1.map (Record.read (issueAll cache ds).2) = ds.map Draft.read := by
  refine map_issueAll fun d id hx => ?_
  simp only [Record.read, numbered, get_issueAll hx]
  rfl

/-- After a look at the store each record has the tags told of its subject, or those of its draft. -/
theorem read_refreshAll_issueAll (store : Store) (cache : TagCache) (ds : List Draft) :
    (issueAll cache ds).1.map
        (Record.read (Record.refreshAll store (issueAll cache ds).2 (issueAll cache ds).1)) =
      ds.map (freshRead store) := by
  refine map_issueAll fun d id hx => ?_
  have hmem : d.numbered id ∈ (issueAll cache ds).1 := by
    rw [issueAll_eq]
    exact List.mem_map_of_mem hx
  have hget := (coherent_issueAll cache ds).get_refreshAll store (issueAll cache ds).2 hmem
  simp only [numbered] at hget
  simp only [Record.read, numbered, hget, get_issueAll hx]
  rfl

end Draft

end Stocktake
