import Mathlib.Logic.Relation
import Mathlib.Order.WellFoundedSet

namespace RedApid.Graph

open Relation

variable {α : Type*} {r s : α → α → Prop}

def Acyclic (r : α → α → Prop) : Prop := ∀ a, ¬ TransGen r a a

-- Reachable from a root along the edges.
def Reachable (root : α → Prop) (r : α → α → Prop) (a : α) : Prop :=
  ∃ b, root b ∧ ReflTransGen r b a

namespace Acyclic

theorem mono (h : Acyclic s) (hsub : ∀ a b, r a b → s a b) : Acyclic r :=
  fun a hcycle => h a (TransGen.mono hsub _ _ hcycle)

-- A new edge closes no cycle if no edge leads to its source.
theorem insert (h : Acyclic r) {a b : α} (hne : a ≠ b) (hsource : ∀ c, ¬ r c a)
    (hsub : ∀ x y, s x y → r x y ∨ (x = a ∧ y = b)) : Acyclic s := by
  have hno : ∀ c, ¬ s c a := by
    intro c hc
    rcases hsub c a hc with hc | ⟨-, rfl⟩
    · exact hsource c hc
    · exact hne rfl
  -- a path that starts elsewhere never gets to the source of the new edge
  have hpath : ∀ x y, TransGen s x y → x ≠ a → TransGen r x y := by
    intro x y hxy
    induction hxy using TransGen.head_induction_on with
    | single hedge =>
        intro hx
        exact .single ((hsub _ _ hedge).resolve_right fun hnew => hx hnew.1)
    | head hedge _ ih =>
        intro hx
        refine .head ((hsub _ _ hedge).resolve_right fun hnew => hx hnew.1) (ih ?_)
        rintro rfl
        exact hno _ hedge
  intro c hcycle
  by_cases hc : c = a
  · subst hc
    obtain ⟨d, -, hedge⟩ := TransGen.tail'_iff.mp hcycle
    exact hno d hedge
  · exact h c (hpath c c hcycle hc)

theorem wellFounded (h : Acyclic r) {t : Set α} (ht : t.Finite)
    (hsub : ∀ a b, r a b → a ∈ t ∧ b ∈ t) : WellFounded r := by
  have horder : IsStrictOrder α (TransGen r) :=
    { irrefl := h, trans := fun _ _ _ => TransGen.trans }
  have hwf := Set.wellFoundedOn_iff.mp (ht.wellFoundedOn (r := TransGen r))
  exact Subrelation.wf (fun {a b} hab => ⟨.single hab, hsub a b hab⟩) hwf

end Acyclic

-- Where every node is a root or has an edge from another node, all are reachable.
theorem reachable_of_wellFounded (h : WellFounded r) {root live : α → Prop}
    (hsource : ∀ a, live a → root a ∨ ∃ b, live b ∧ r b a) {a : α} (ha : live a) :
    Reachable root r a := by
  induction a using h.induction with
  | _ a ih =>
      rcases hsource a ha with hroot | ⟨b, hb, hedge⟩
      · exact ⟨a, hroot, .refl⟩
      · obtain ⟨c, hroot, hpath⟩ := ih b hedge hb
        exact ⟨c, hroot, hpath.tail hedge⟩

theorem Reachable.of_closed {root live : α → Prop} (hroot : ∀ a, root a → live a)
    (hclosed : ∀ a b, live a → r a b → live b) {a : α} (h : Reachable root r a) : live a := by
  obtain ⟨b, hb, hpath⟩ := h
  induction hpath with
  | refl => exact hroot b hb
  | tail _ hedge ih => exact hclosed _ _ ih hedge

end RedApid.Graph
