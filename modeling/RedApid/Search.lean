import Mathlib.Logic.Function.Iterate
import Mathlib.Tactic.SplitIfs

namespace RedApid

namespace Search

variable {σ α : Type} (candidate : σ → α × σ) (used : α → Bool)

-- Take candidates one after the other until one of them is free, `tries` times at most.
def search : Nat → σ → Option α × σ
  | 0, state => (none, state)
  | tries + 1, state =>
      let (a, state) := candidate state
      if used a then search tries state else (some a, state)

-- The candidate of try number `k`.
def nth (k : Nat) (state : σ) : α := (candidate ((fun s => (candidate s).2)^[k] state)).1

variable {candidate used}

theorem nth_succ (k : Nat) (state : σ) :
    nth candidate (k + 1) state = nth candidate k (candidate state).2 := by
  simp [nth, Function.iterate_succ_apply]

theorem search_eq_none_iff (tries : Nat) (state : σ) :
    (search candidate used tries state).1 = none ↔
      ∀ k < tries, used (nth candidate k state) = true := by
  induction tries generalizing state with
  | zero => simp [search]
  | succ tries ih =>
      simp only [search]
      split_ifs with hused
      · rw [ih]
        constructor
        · intro h k hk
          cases k with
          | zero => exact hused
          | succ k => rw [nth_succ]; exact h k (by omega)
        · intro h k hk
          rw [← nth_succ]
          exact h (k + 1) (by omega)
      · simp only [false_iff]
        intro h
        exact hused (h 0 (by omega))

theorem search_some {tries : Nat} {state : σ} {a : α}
    (h : (search candidate used tries state).1 = some a) :
    used a = false ∧ ∃ k < tries, a = nth candidate k state := by
  induction tries generalizing state with
  | zero => cases h
  | succ tries ih =>
      simp only [search] at h
      split_ifs at h with hused
      · obtain ⟨hfree, k, hk, ha⟩ := ih h
        exact ⟨hfree, k + 1, by omega, by rw [nth_succ]; exact ha⟩
      · cases h
        exact ⟨by simpa using hused, 0, by omega, rfl⟩

end Search

end RedApid
