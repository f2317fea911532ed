import Stocktake.Output.Lines
import Stocktake.Proofs.Container.Walks
import Stocktake.Proofs.Text.Pieces

/-!
# Trees as indented lines

Where the output is quiet, the line of a node is its display, two blanks further to the right at every level.
The blanks at the start of a line tell how deep the node lies, unless the display starts with a blank itself,
so that the lines are a walk through the outline of the tree: its shape and its displays, without flags, tags
and all else.  Main statements: `treeLines_eq`, `indented_inj`, `walks_determine_trees`.
-/

namespace Stocktake

/-- What is left of a tree in quiet lines: its shape and the displays. -/
def Tree.outline (root : Tree Record) : Tree String := (root.map Record.display).allCollapsed

theorem Tree.walk_outline (root : Tree Record) :
    root.outline.walk = root.walk.map fun x => (x.1, x.2.1.display, false) := by
  rw [outline, walk, walkFrom_allCollapsed, walkFrom_map, List.map_map]
  rfl

section Indentation

/-- A text moved to the right by two blanks for every level. -/
def indented (depth : Nat) (text : String) : String :=
  String.ofList (List.replicate (2 * depth) ' ') ++ text

theorem toList_indented (depth : Nat) (text : String) :
    (indented depth text).toList = List.replicate (2 * depth) ' ' ++ text.toList := by
  rw [indented, String.toList_append, String.toList_ofList]

/-- The blanks before a text that does not start with one are counted. -/
theorem takeWhile_blank_append {s : List Char} (hs : s.head? ≠ some ' ') (n : Nat) :
    (List.replicate n ' ' ++ s).takeWhile (· == ' ') = List.replicate n ' ' := by
  induction n with
  | zero =>
    cases s with
    | nil => rfl
    | cons c s =>
      have hc : (c == ' ') = false := beq_false_of_ne fun heq => hs (by rw [heq]; rfl)
      rw [List.replicate_zero, List.nil_append, List.takeWhile_cons, hc]
      rfl
  | succ n ih =>
    rw [List.replicate_succ, List.cons_append, List.takeWhile_cons]
    exact congrArg (' ' :: ·) ih

theorem indented_inj {depth depth' : Nat} {text text' : String} (htext : text.toList.head? ≠ some ' ')
    (htext' : text'.toList.head? ≠ some ' ') :
    indented depth text = indented depth' text' ↔ depth = depth' ∧ text = text' := by
  constructor
  · intro h
    have hchars := congrArg String.toList h
    rw [toList_indented, toList_indented] at hchars
    have hblanks := congrArg (fun s => (s.takeWhile (· == ' ')).length) hchars
    simp only [takeWhile_blank_append htext, takeWhile_blank_append htext', List.length_replicate]
      at hblanks
    obtain rfl : depth = depth' := by omega
    exact ⟨rfl, String.toList_inj.1 (List.append_cancel_left hchars)⟩
  · rintro ⟨rfl, rfl⟩
    rfl

end Indentation

namespace Look

section Lines

variable {l l' : Look} {cache cache' : TagCache} {root root' : Tree Record}

/-- Quiet lines are the outline, node for node. -/
theorem treeLines_eq (hquiet : l.quiet = true) :
    l.treeLines cache root = root.outline.walk.map fun x => indented x.1 x.2.1 := by
  rw [Tree.walk_outline, List.map_map, treeLines]
  refine List.map_congr_left ?_
  rintro ⟨depth, r, expanded⟩ -
  have hline : l.recordLine (r.read cache) = r.display := by
    rw [recordLine, hquiet, Bool.true_or, if_pos rfl]
    rfl
  exact congrArg (_ ++ ·) hline

/-- A display that is met in a walk is that of a record of the tree. -/
theorem exists_record_of_mem_walk {x : Nat × String × Bool} (hx : x ∈ root.outline.walk) :
    x.2.2 = false ∧ ∃ r ∈ root.contents, r.display = x.2.1 := by
  rw [Tree.walk_outline] at hx
  obtain ⟨y, hy, rfl⟩ := List.mem_map.1 hx
  exact ⟨rfl, y.2.1, List.mem_map_of_mem hy, rfl⟩

/-- No character comes into a quiet line but blanks and those of displays. -/
theorem not_mem_treeLines (hquiet : l.quiet = true) (hfeed : ∀ r ∈ root.contents, '\n' ∉ r.display.toList) :
    ∀ line ∈ l.treeLines cache root, '\n' ∉ line.toList := by
  intro line hline
  rw [treeLines_eq hquiet] at hline
  obtain ⟨x, hx, rfl⟩ := List.mem_map.1 hline
  obtain ⟨-, r, hr, hdisplay⟩ := exists_record_of_mem_walk hx
  rw [toList_indented, List.mem_append, ← hdisplay]
  rintro (hblank | htext)
  · exact absurd (List.eq_of_mem_replicate hblank) (by decide)
  · exact hfeed r hr htext

variable (hquiet : l.quiet = true) (hquiet' : l'.quiet = true)
  (hstart : ∀ r ∈ root.contents, r.display.toList.head? ≠ some ' ')
  (hstart' : ∀ r ∈ root'.contents, r.display.toList.head? ≠ some ' ')
include hquiet hquiet' hstart hstart'

theorem treeLines_inj :
    l.treeLines cache root = l'.treeLines cache' root' ↔ root.outline = root'.outline := by
  rw [treeLines_eq hquiet, treeLines_eq hquiet']
  constructor
  · intro h
    refine Tree.walk_injective (List.ext_getElem ?_ fun i hi hi' => ?_)
    · have hlength := congrArg List.length h
      rwa [List.length_map, List.length_map] at hlength
    · -- The depth and the display are read off the line, and no node of an outline is expanded.
      have hline : indented root.outline.walk[i].1 root.outline.walk[i].2.1 =
          indented root'.outline.walk[i].1 root'.outline.walk[i].2.1 := by
        have hget := congrArg (fun ls => ls[i]?) h
        simpa [hi, hi'] using hget
      obtain ⟨hflag, r, hr, hdisplay⟩ := exists_record_of_mem_walk (List.getElem_mem hi)
      obtain ⟨hflag', r', hr', hdisplay'⟩ := exists_record_of_mem_walk (List.getElem_mem hi')
      obtain ⟨hdepth, htext⟩ :=
        (indented_inj (hdisplay ▸ hstart r hr) (hdisplay' ▸ hstart' r' hr')).1 hline
      exact Prod.ext hdepth (Prod.ext htext (hflag.trans hflag'.symm))
  · intro h
    rw [h]

/-- Displays without line feeds stay apart when the lines are printed one after the other. -/
theorem printed_treeLines_inj (hfeed : ∀ r ∈ root.contents, '\n' ∉ r.display.toList)
    (hfeed' : ∀ r ∈ root'.contents, '\n' ∉ r.display.toList) :
    String.join ((l.treeLines cache root).map (· ++ "\n")) =
      String.join ((l'.treeLines cache' root').map (· ++ "\n")) ↔ root.outline = root'.outline := by
  rw [← treeLines_inj hquiet hquiet' hstart hstart']
  exact Text.join_ended_inj (not_mem_treeLines hquiet hfeed) (not_mem_treeLines hquiet' hfeed')

end Lines

end Look

/-- Two trees with the same walk are the same, also where only what is seen of the contents is told, and a walk
    has an entry for every node.  So quiet lines tell the outline of a tree, if no display starts with a blank;
    and so does the text that they make when each is ended with a line feed, if no display has one in it. -/
theorem walks_determine_trees :
    (∀ (α : Type) (t t' : Tree α), t.walk = t'.walk → t = t') ∧
    (∀ (α β : Type) (see : α → β) (t t' : Tree α),
      (t.walk.map fun x => (x.1, see x.2.1, x.2.2)) = (t'.walk.map fun x => (x.1, see x.2.1, x.2.2)) →
        t.map see = t'.map see) ∧
    (∀ (α : Type) (t : Tree α), t.walk.length = t.size) ∧
    ∀ (l l' : Look) (cache cache' : TagCache) (root root' : Tree Record),
      l.quiet = true → l'.quiet = true →
      (∀ r ∈ root.contents, r.display.toList.head? ≠ some ' ') →
      (∀ r ∈ root'.contents, r.display.toList.head? ≠ some ' ') →
      (l.treeLines cache root = l'.treeLines cache' root' ↔ root.outline = root'.outline) ∧
      ((∀ r ∈ root.contents, '\n' ∉ r.display.toList) → (∀ r ∈ root'.contents, '\n' ∉ r.display.toList) →
        (String.join ((l.treeLines cache root).map (· ++ "\n")) =
          String.join ((l'.treeLines cache' root').map (· ++ "\n")) ↔ root.outline = root'.outline)) := by
  refine ⟨fun α t t' h => Tree.walk_injective h, ?_, fun α t => Tree.length_walkFrom t 0, ?_⟩
  · intro α β see t t' h
    apply Tree.walk_injective
    rw [Tree.walk, Tree.walkFrom_map, Tree.walk, Tree.walkFrom_map]
    exact h
  · intro l l' cache cache' root root' hquiet hquiet' hstart hstart'
    exact ⟨Look.treeLines_inj hquiet hquiet' hstart hstart',
      Look.printed_treeLines_inj hquiet hquiet' hstart hstart'⟩

/-- Two listings of a home directory.  The records, their tags and the flags differ, but the lines do not. -/
theorem walks_determine_trees_home :
    let home : Tree Record := .node { id := 0, display := "home" } true
      [.node { id := 1, display := "notes" } true [.leaf { id := 2, display := "" }],
        .leaf { id := 3, display := "new" }]
    let seen : Tree Record := .collapsed { id := 7, display := "home", reference := some { uri := "urn:home" } }
      [.collapsed { id := 5, display := "notes" } [.leaf { id := 6, display := "" }],
        .leaf { id := 4, display := "new" }]
    let tags : TagCache := { entries := Array.replicate 8 [{ name := "seen" }] }
    let printed := "home\n  notes\n    \n  new\n"
    home.updateAt (Tree.withExpanded true) [0] = home ∧
      (seen.updateAt (Tree.withExpanded true) []).map Record.display =
        (home.updateAt (Tree.withExpanded false) [0]).map Record.display ∧
      home.walk.length = home.size ∧
      String.join (((⟨true, true⟩ : Look).treeLines {} home).map (· ++ "\n")) = printed ∧
      String.join (((⟨false, true⟩ : Look).treeLines tags seen).map (· ++ "\n")) = printed ∧
      home.outline = seen.outline := by
  intro home seen tags printed
  obtain ⟨htrees, hseen, hlength, hlines⟩ := walks_determine_trees
  have hhome : String.join (((⟨true, true⟩ : Look).treeLines {} home).map (· ++ "\n")) = printed := by
    decide +kernel
  have hother : String.join (((⟨false, true⟩ : Look).treeLines tags seen).map (· ++ "\n")) = printed := by
    decide +kernel
  have hprinted := (hlines ⟨true, true⟩ ⟨false, true⟩ {} tags home seen rfl rfl (by decide +kernel)
    (by decide +kernel)).2 (by decide +kernel) (by decide +kernel)
  exact ⟨htrees Record _ _ rfl, hseen Record String Record.display _ _ rfl, hlength Record home, hhome, hother,
    hprinted.1 (hhome.trans hother.symm)⟩

end Stocktake
