import Mathlib.Data.List.Nodup
import Stocktake.Proofs.Container.Places

/-!
# Nodes by their names

Where the nodes of a tree are called by what they hold, the address of a node is the list of the names on the
way from the root to it.  The root does not count, so that its own address is empty.  Main statements:
`map_snd_addressed`, every node is listed with an address, `cons_mem_addressed`, `nodup_addressed`, by which
different nodes have different ones, and `addressed_map`.
-/

namespace Stocktake.Tree

variable {α β : Type}

mutual

/-- What the nodes hold, depth first, with their addresses. -/
def addressed (name : α → String) : Tree α → List (List String × α)
  | .node c _ ts => ([], c) :: addressedBelow name ts

/-- What the nodes of several trees hold, with the addresses that they have below a common root. -/
def addressedBelow (name : α → String) : List (Tree α) → List (List String × α)
  | [] => []
  | t :: ts =>
    (addressed name t).map (fun x => (name t.content :: x.1, x.2)) ++ addressedBelow name ts

end

section Listing

variable (name : α → String)

theorem addressedBelow_eq (ts : List (Tree α)) :
    addressedBelow name ts = ts.flatMap fun t =>
      (addressed name t).map fun x => (name t.content :: x.1, x.2) := by
  induction ts with
  | nil => rfl
  | cons t ts ih => rw [addressedBelow, ih, List.flatMap_cons]

theorem addressed_eq (t : Tree α) :
    t.addressed name = ([], t.content) :: t.children.flatMap fun child =>
      (child.addressed name).map fun x => (name child.content :: x.1, x.2) := by
  cases t with
  | node c e ts =>
    rw [addressed, addressedBelow_eq]
    rfl

/-- Every node is listed, in the order of a walk. -/
theorem map_snd_addressed (t : Tree α) : (t.addressed name).map Prod.snd = t.contents := by
  induction t using childInduction with
  | node c e ts ih =>
    rw [addressed, addressedBelow_eq, contents_node, List.map_cons, List.map_flatMap]
    refine congrArg (c :: ·) (List.flatMap_congr fun child hchild => ?_)
    rw [List.map_map, ← ih child hchild]
    rfl

theorem nil_mem_addressed {t : Tree α} {a : α} : ([], a) ∈ t.addressed name ↔ a = t.content := by
  rw [addressed_eq, List.mem_cons, List.mem_flatMap]
  simp

/-- Below the root an address starts with the name of a child. -/
theorem cons_mem_addressed {t : Tree α} {x : String} {p : List String} {a : α} :
    (x :: p, a) ∈ t.addressed name ↔
      ∃ child ∈ t.children, name child.content = x ∧ (p, a) ∈ child.addressed name := by
  rw [addressed_eq, List.mem_cons, List.mem_flatMap]
  constructor
  · rintro (hroot | ⟨child, hchild, hmem⟩)
    · cases hroot
    · obtain ⟨⟨q, b⟩, hq, heq⟩ := List.mem_map.1 hmem
      simp only [Prod.mk.injEq, List.cons.injEq] at heq
      obtain ⟨⟨hx, rfl⟩, rfl⟩ := heq
      exact ⟨child, hchild, hx, hq⟩
  · rintro ⟨child, hchild, rfl, hmem⟩
    exact .inr ⟨child, hchild, List.mem_map.2 ⟨(p, a), hmem, rfl⟩⟩

/-- Where the children of the root have different names and addresses below each of them are different, all
    addresses are. -/
theorem nodup_addressed {t : Tree α} (hnames : (t.children.map fun child => name child.content).Nodup)
    (hbelow : ∀ child ∈ t.children, ((child.addressed name).map Prod.fst).Nodup) :
    ((t.addressed name).map Prod.fst).Nodup := by
  rw [addressed_eq, List.map_cons, List.map_flatMap, List.nodup_cons]
  constructor
  · intro hroot
    obtain ⟨child, -, hchild⟩ := List.mem_flatMap.1 hroot
    simp at hchild
  · refine List.nodup_flatMap.2 ⟨fun child hchild => ?_, ?_⟩
    · have hcons := (hbelow child hchild).map (List.cons_injective (a := name child.content))
      rw [List.map_map] at hcons ⊢
      exact hcons
    · refine (List.pairwise_map.1 hnames).imp fun {u v} hne => ?_
      intro p hu hv
      simp only [List.map_map, List.mem_map, Function.comp_apply] at hu hv
      obtain ⟨x, -, rfl⟩ := hu
      obtain ⟨y, -, hy⟩ := hv
      exact hne (List.cons.inj hy).1.symm

end Listing

theorem mapList_eq_map (f : α → β) (ts : List (Tree α)) : mapList f ts = ts.map (map f) := by
  induction ts with
  | nil => rfl
  | cons t ts ih => rw [mapList, ih, List.map_cons]

theorem content_map (f : α → β) (t : Tree α) : (t.map f).content = f t.content := by
  cases t
  rw [map]
  rfl

/-- What is made of the contents has the addresses that the contents have. -/
theorem addressed_map (name : β → String) (f : α → β) (t : Tree α) :
    (t.map f).addressed name = (t.addressed (name ∘ f)).map fun x => (x.1, f x.2) := by
  induction t using childInduction with
  | node c e ts ih =>
    rw [map, addressed, addressed, addressedBelow_eq, addressedBelow_eq, mapList_eq_map,
      List.flatMap_map, List.map_cons, List.map_flatMap]
    refine congrArg (([], f c) :: ·) (List.flatMap_congr fun child hchild => ?_)
    rw [ih child hchild, content_map, List.map_map, List.map_map]
    rfl

end Stocktake.Tree
