import Mathlib.Data.List.Infix

namespace RedApid

-- One party puts elements into a queue and ends after the first one that stops it, another party
-- takes them out of the queue.
inductive Producer (α : Type*) where
  | waiting
  | holding (x : α)
  | ended
deriving DecidableEq

namespace Fifo

variable {α : Type*} (stop : α → Bool)

def throughFirst : List α → List α
  | [] => []
  | x :: xs => if stop x then [x] else x :: throughFirst xs

-- What has been taken and what is on the way, compared with all that there is to come.
def InFlight (all taken queue : List α) (rest : List α) : Producer α → Prop
  | .waiting => taken ++ queue ++ rest = all ∧ ∀ x ∈ taken ++ queue, stop x = false
  | .holding x => taken ++ queue ++ x :: rest = all ∧ ∀ x ∈ taken ++ queue, stop x = false
  | .ended => taken ++ queue <+: throughFirst stop all

variable {stop} {all taken queue rest : List α} {producer : Producer α} {x : α}

theorem throughFirst_append (rest : List α) {front : List α} (h : ∀ x ∈ front, stop x = false) :
    throughFirst stop (front ++ rest) = front ++ throughFirst stop rest := by
  induction front with
  | nil => rfl
  | cons x front ih =>
      have hfirst : stop x = false := h x List.mem_cons_self
      rw [List.cons_append, throughFirst, if_neg (by simp [hfirst]),
        ih fun y hy => h y (List.mem_cons_of_mem x hy), List.cons_append]

-- Nothing follows the element that stops.
theorem stop_last {front back : List α} (h : front ++ x :: back <+: throughFirst stop all)
    (hstop : stop x = true) : back = [] := by
  induction all generalizing front with
  | nil =>
      obtain ⟨tail, htail⟩ := h
      simp [throughFirst] at htail
  | cons y all ih =>
      unfold throughFirst at h
      by_cases hy : stop y = true
      · rw [if_pos hy] at h
        have hlength := h.length_le
        simp only [List.length_append, List.length_cons, List.length_nil] at hlength
        exact List.length_eq_zero_iff.mp (by omega)
      · rw [if_neg hy] at h
        cases front with
        | nil =>
            rw [List.nil_append, List.cons_prefix_cons] at h
            exact absurd (h.1 ▸ hstop) hy
        | cons first front =>
            rw [List.cons_append, List.cons_prefix_cons] at h
            exact ih h.2

theorem InFlight.leading (h : InFlight stop all taken queue rest producer) :
    taken ++ queue <+: throughFirst stop all := by
  cases producer with
  | waiting =>
      rw [← h.1, throughFirst_append rest h.2]
      exact List.prefix_append _ _
  | holding x =>
      rw [← h.1, throughFirst_append (x :: rest) h.2]
      exact List.prefix_append _ _
  | ended => exact h

theorem InFlight.take (h : InFlight stop all taken (x :: queue) rest producer) :
    InFlight stop all (taken ++ [x]) queue rest producer := by
  have hsame : taken ++ [x] ++ queue = taken ++ x :: queue := by
    rw [List.append_assoc]
    rfl
  cases producer with
  | waiting =>
      unfold InFlight at h ⊢
      rwa [hsame]
  | holding y =>
      unfold InFlight at h ⊢
      rwa [hsame]
  | ended =>
      unfold InFlight at h ⊢
      rwa [hsame]

theorem InFlight.hold (h : InFlight stop all taken queue (x :: rest) .waiting) :
    InFlight stop all taken queue rest (.holding x) := h

-- With the element that stops, everything up to it is there.
theorem InFlight.put_last (h : InFlight stop all taken queue rest (.holding x))
    (hstop : stop x = true) : taken ++ (queue ++ [x]) = throughFirst stop all := by
  obtain ⟨hall, hgoes⟩ := h
  rw [← hall, throughFirst_append (x :: rest) hgoes, throughFirst, if_pos hstop, List.append_assoc]

theorem InFlight.put (h : InFlight stop all taken queue rest (.holding x)) :
    InFlight stop all taken (queue ++ [x]) rest (if stop x then .ended else .waiting) := by
  by_cases hstop : stop x = true
  · rw [if_pos hstop]
    unfold InFlight
    rw [h.put_last hstop]
  · obtain ⟨hall, hgoes⟩ := h
    rw [if_neg hstop]
    refine ⟨?_, fun y hy => ?_⟩
    · rw [← hall]
      simp
    · rw [← List.append_assoc, List.mem_append, List.mem_singleton] at hy
      rcases hy with hy | rfl
      · exact hgoes y hy
      · exact Bool.eq_false_iff.mpr hstop

-- Before the element that stops, something is missing.
theorem InFlight.incomplete (h : InFlight stop all taken queue rest (.holding x)) :
    taken ++ queue ≠ throughFirst stop all := by
  obtain ⟨hall, hgoes⟩ := h
  rw [← hall, throughFirst_append (x :: rest) hgoes]
  intro hsame
  have hnil := List.append_right_eq_self.mp hsame.symm
  unfold throughFirst at hnil
  split_ifs at hnil

theorem InFlight.finish (h : InFlight stop all taken queue rest producer) :
    InFlight stop all taken queue [] .ended := h.leading

-- After the element that stops, nothing else is on the way.
theorem InFlight.stopped (h : InFlight stop all taken queue rest producer) (hx : x ∈ taken)
    (hstop : stop x = true) : queue = [] ∧ producer = .ended := by
  obtain ⟨front, back, rfl⟩ := List.append_of_mem hx
  have hlast := h.leading
  rw [List.append_assoc, List.cons_append] at hlast
  refine ⟨(List.append_eq_nil_iff.mp (stop_last hlast hstop)).2, ?_⟩
  cases producer with
  | waiting =>
      have hgoes := h.2 x (List.mem_append_left _ hx)
      rw [hstop] at hgoes
      cases hgoes
  | holding y =>
      have hgoes := h.2 x (List.mem_append_left _ hx)
      rw [hstop] at hgoes
      cases hgoes
  | ended => rfl

theorem countP_throughFirst (all : List α) : (throughFirst stop all).countP stop ≤ 1 := by
  induction all with
  | nil => exact Nat.zero_le 1
  | cons x all ih =>
      unfold throughFirst
      by_cases hstop : stop x = true
      · rw [if_pos hstop, List.countP_cons_of_pos hstop, List.countP_nil]
      · rwa [if_neg hstop, List.countP_cons_of_neg hstop]

theorem InFlight.countP_le_one (h : InFlight stop all taken queue rest producer) :
    taken.countP stop ≤ 1 := by
  have hleads : taken <+: throughFirst stop all := (List.prefix_append taken queue).trans h.leading
  calc taken.countP stop ≤ (throughFirst stop all).countP stop := hleads.sublist.countP_le
    _ ≤ 1 := countP_throughFirst all

end Fifo

end RedApid
