import Stocktake.World

/-!
# What a write does to the world

A write is asked of the store, which does it or refuses it; either way it is remembered that it was
asked.  Everything else in the world stays as it is.  Main statements: `write_of_ok`, `write_of_error`,
`beside_write`.
-/

namespace Stocktake.World

variable {w : World} {x : Write}

theorem write_of_ok {s : Store} (h : w.store.write x = .ok s) :
    w.write x = (.ok (), { w with store := s, writes := w.writes ++ [x] }) := by
  simp only [write, h]

theorem write_of_error {e : StoreError} (h : w.store.write x = .error e) :
    w.write x = (.error e, { w with writes := w.writes ++ [x] }) := by
  simp only [write, h]

/-- A refused write leaves the store as it was. -/
theorem store_write_of_error {e : StoreError} (h : (w.write x).1 = .error e) :
    (w.write x).2.store = w.store := by
  cases hwrite : w.store.write x with
  | ok s =>
    rw [write_of_ok hwrite] at h
    cases h
  | error e' => rw [write_of_error hwrite]

/-- The world without its store and without the record of what was asked of it and reported. -/
def beside (w : World) : World := { w with store := {}, writes := [], reports := [] }

theorem beside_write (w : World) (x : Write) : (w.write x).2.beside = w.beside := by
  cases hwrite : w.store.write x with
  | ok s =>
    rw [write_of_ok hwrite]
    rfl
  | error e =>
    rw [write_of_error hwrite]
    rfl

theorem cache_eq_of_beside {w' : World} (h : w'.beside = w.beside) : w'.cache = w.cache := by
  have hcache := congrArg World.cache h
  exact hcache

theorem notices_eq_of_beside {w' : World} (h : w'.beside = w.beside) : w'.notices = w.notices := by
  have hnotices := congrArg World.notices h
  exact hnotices

theorem source_eq_of_beside {w' : World} (h : w'.beside = w.beside) : w'.source = w.source := by
  have hsource := congrArg World.source h
  exact hsource

end Stocktake.World
