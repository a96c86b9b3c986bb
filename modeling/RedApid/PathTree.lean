import Mathlib.Data.List.Infix
import Mathlib.Logic.Function.Basic
import Mathlib.Tactic.SplitIfs

namespace RedApid

inductive PathNode where
  | directory
  | other
deriving DecidableEq, Repr

-- A tree of directories and other nodes. Only directories have something below them.
structure PathTree (Name : Type*) where
  node : List Name → Option PathNode
  root : node [] = some .directory
  closed : ∀ path name, node (path ++ [name]) ≠ none → node path = some .directory

-- What a walk along a path runs into.
inductive Obstacle where
  | missing
  | notDirectory
deriving DecidableEq, Repr

namespace PathTree

variable {Name : Type*} (tree : PathTree Name)

section Walk

-- All nodes but the last one of a path have to be directories.
def walk : List Name → List Name → Option Obstacle
  | _, [] => none
  | _, [_] => none
  | walked, name :: next :: rest =>
      match tree.node (walked ++ [name]) with
      | none => some .missing
      | some .other => some .notDirectory
      | some .directory => walk (walked ++ [name]) (next :: rest)

-- A node in front of the end of the path is not a directory.
def Blocked (walked rest : List Name) : Prop :=
  ∃ front, front <+: rest ∧ front ≠ rest ∧ tree.node (walked ++ front) = some .other

variable {tree}

theorem node_of_append {path rest : List Name} (h : tree.node (path ++ rest) ≠ none)
    (hrest : rest ≠ []) : tree.node path = some .directory := by
  induction rest using List.reverseRecOn with
  | nil => exact absurd rfl hrest
  | append_singleton rest name ih =>
      rw [← List.append_assoc] at h
      have hparent := tree.closed (path ++ rest) name h
      by_cases hnil : rest = []
      · rwa [hnil, List.append_nil] at hparent
      · exact ih (by simp [hparent]) hnil

theorem Blocked.of_parent {walked rest : List Name}
    (h : tree.node (walked ++ rest.dropLast) = some .directory) : ¬tree.Blocked walked rest := by
  rintro ⟨front, ⟨back, rfl⟩, hne, hother⟩
  have hback : back ≠ [] := by
    rintro rfl
    exact hne (List.append_nil front).symm
  rw [List.dropLast_append_of_ne_nil hback, ← List.append_assoc] at h
  by_cases hlast : back.dropLast = []
  · rw [hlast, List.append_nil, hother] at h
    cases h
  · have hsome : tree.node (walked ++ front ++ back.dropLast) ≠ none := by
      rw [h]
      exact Option.some_ne_none _
    rw [node_of_append hsome hlast] at hother
    cases hother

theorem blocked_cons {walked rest : List Name} {name : Name}
    (hwalked : tree.node walked = some .directory) :
    tree.Blocked walked (name :: rest) ↔ tree.Blocked (walked ++ [name]) rest := by
  constructor
  · rintro ⟨front, hleads, hne, hother⟩
    cases front with
    | nil =>
        rw [List.append_nil, hwalked] at hother
        cases hother
    | cons first front =>
        obtain ⟨rfl, htail⟩ := List.cons_prefix_cons.mp hleads
        refine ⟨front, htail, fun hsame => hne (by rw [hsame]), ?_⟩
        rw [List.append_assoc]
        exact hother
  · rintro ⟨front, hleads, hne, hother⟩
    refine ⟨name :: front, List.cons_prefix_cons.mpr ⟨rfl, hleads⟩, fun hsame => hne ?_, ?_⟩
    · exact (List.cons.inj hsame).2
    · rw [List.append_assoc] at hother
      exact hother

-- Where the walk ends, and why.
theorem walk_cases (walked rest : List Name) (hwalked : tree.node walked = some .directory) :
    (tree.walk walked rest = none ∧ tree.node (walked ++ rest.dropLast) = some .directory) ∨
      (tree.walk walked rest = some .missing ∧ tree.node (walked ++ rest.dropLast) = none ∧
        ¬tree.Blocked walked rest) ∨
      (tree.walk walked rest = some .notDirectory ∧ tree.Blocked walked rest) := by
  induction rest generalizing walked with
  | nil => exact Or.inl ⟨rfl, by simpa using hwalked⟩
  | cons name rest ih =>
      cases rest with
      | nil => exact Or.inl ⟨rfl, by simpa using hwalked⟩
      | cons next rest =>
          have hdrop : walked ++ (name :: next :: rest).dropLast =
              walked ++ [name] ++ (next :: rest).dropLast := by
            rw [List.dropLast_cons_of_ne_nil (List.cons_ne_nil next rest), List.append_assoc]
            rfl
          rw [hdrop]
          unfold walk
          cases hname : tree.node (walked ++ [name]) with
          | none =>
              refine Or.inr (Or.inl ⟨rfl, ?_, ?_⟩)
              · by_contra hsome
                by_cases hlast : (next :: rest).dropLast = []
                · rw [hlast, List.append_nil] at hsome
                  exact hsome hname
                · rw [node_of_append hsome hlast] at hname
                  cases hname
              · rintro ⟨front, hleads, -, hother⟩
                cases front with
                | nil =>
                    rw [List.append_nil, hwalked] at hother
                    cases hother
                | cons first front =>
                    obtain ⟨rfl, -⟩ := List.cons_prefix_cons.mp hleads
                    by_cases hfront : front = []
                    · rw [hfront, hname] at hother
                      cases hother
                    · have hsome : tree.node (walked ++ [first] ++ front) ≠ none := by
                        rw [List.append_assoc]
                        intro hnone
                        rw [show [first] ++ front = first :: front from rfl, hother] at hnone
                        cases hnone
                      rw [node_of_append hsome hfront] at hname
                      cases hname
          | some kind =>
              cases kind with
              | other =>
                  refine Or.inr (Or.inr ⟨rfl, [name], ⟨next :: rest, rfl⟩, ?_, hname⟩)
                  exact fun hsame => by cases hsame
              | directory =>
                  rw [blocked_cons hwalked]
                  exact ih (walked ++ [name]) hname

end Walk

section Make

variable {tree}

-- All nodes along a path are directories, and nothing else is different.
def MadePath (path : List Name) (before after : PathTree Name) : Prop :=
  ∀ other, (other <+: path → after.node other = some .directory) ∧
    (¬other <+: path → after.node other = before.node other)

theorem MadePath.refl {path : List Name} (h : tree.node path = some .directory) :
    MadePath path tree tree := by
  refine fun other => ⟨?_, fun _ => rfl⟩
  rintro ⟨rest, rfl⟩
  by_cases hrest : rest = []
  · rwa [hrest, List.append_nil] at h
  · have hsome : tree.node (other ++ rest) ≠ none := by simp [h]
    exact node_of_append hsome hrest

variable [DecidableEq Name] (tree)

-- A new directory, if there is one to put it in.
def makeDirectory (path : List Name) : PathTree Name :=
  if h : tree.node path.dropLast = some .directory then
    { node := Function.update tree.node path (some .directory)
      root := by
        rw [Function.update_apply]
        split_ifs
        · rfl
        · exact tree.root
      closed := by
        intro parent name hsome
        rw [Function.update_apply] at hsome ⊢
        split_ifs with hparent
        · rfl
        · split_ifs at hsome with hpath
          · rwa [← hpath, List.dropLast_concat] at h
          · exact tree.closed parent name hsome }
  else tree

variable {tree}

theorem makeDirectory_node {path : List Name} (h : tree.node path.dropLast = some .directory)
    (other : List Name) : (tree.makeDirectory path).node other =
      if other = path then some .directory else tree.node other := by
  unfold makeDirectory
  rw [dif_pos h]
  exact Function.update_apply tree.node path (some .directory) other

theorem MadePath.concat {path : List Name} {name : Name} {before after : PathTree Name}
    (h : MadePath path before after) :
    MadePath (path ++ [name]) before (after.makeDirectory (path ++ [name])) := by
  have hparent : after.node (path ++ [name]).dropLast = some .directory := by
    rw [List.dropLast_concat]
    exact (h path).1 List.prefix_rfl
  intro other
  rw [makeDirectory_node hparent, List.prefix_concat_iff]
  split_ifs with hsame
  · exact ⟨fun _ => rfl, fun hnot => absurd (Or.inl hsame) hnot⟩
  · rw [or_iff_right hsame]
    exact h other

-- A new node that is not a directory.
def makeOther (path : List Name) : PathTree Name :=
  if h : tree.node path.dropLast = some .directory ∧ tree.node path = none then
    { node := Function.update tree.node path (some .other)
      root := by
        rw [Function.update_apply]
        split_ifs with hroot
        · rw [← hroot, tree.root] at h
          exact absurd h.2 (Option.some_ne_none _)
        · exact tree.root
      closed := by
        intro parent name hsome
        rw [Function.update_apply] at hsome ⊢
        split_ifs with hparent
        · split_ifs at hsome with hpath
          · exact absurd (hpath.trans hparent.symm) (by simp)
          · have hdirectory := tree.closed parent name hsome
            rw [hparent, h.2] at hdirectory
            cases hdirectory
        · split_ifs at hsome with hpath
          · rw [← hpath, List.dropLast_concat] at h
            exact h.1
          · exact tree.closed parent name hsome }
  else tree

theorem makeOther_node {path : List Name} (h : tree.node path.dropLast = some .directory)
    (hnone : tree.node path = none) (other : List Name) : (tree.makeOther path).node other =
      if other = path then some .other else tree.node other := by
  unfold makeOther
  rw [dif_pos ⟨h, hnone⟩]
  exact Function.update_apply tree.node path (some .other) other

-- Without a node that has nothing below it.
def removeNode (path : List Name) (hpath : path ≠ [])
    (hempty : ∀ name, tree.node (path ++ [name]) = none) : PathTree Name where
  node := Function.update tree.node path none
  root := by
    rw [Function.update_of_ne hpath.symm]
    exact tree.root
  closed := by
    intro parent name hsome
    rw [Function.update_apply] at hsome ⊢
    split_ifs at hsome
    · exact absurd rfl hsome
    · split_ifs with hparent
      · rw [hparent, hempty] at hsome
        exact absurd rfl hsome
      · exact tree.closed parent name hsome

end Make

end PathTree

end RedApid
