import Mathlib.Data.List.Nodup
import Mathlib.Tactic.SplitIfs

namespace RedApid

-- A map that keeps its entries in the order of their insertion. Two keys are the same if they
-- have the same canonical form.
structure OrderedMap {κ κ' : Type*} (canon : κ → κ') (ν : Type*) where
  entries : List (κ × ν)
  distinct : (entries.map fun entry => canon entry.1).Nodup

namespace OrderedMap

variable {κ κ' ν : Type*} [DecidableEq κ'] {canon : κ → κ'}

section Entries

variable (canon)

def lookup (key : κ) : List (κ × ν) → Option ν
  | [] => none
  | entry :: entries => if canon entry.1 = canon key then some entry.2 else lookup key entries

-- A value that is there is replaced in its place, together with nothing else.
def update (key : κ) (value : ν) : List (κ × ν) → List (κ × ν)
  | [] => [(key, value)]
  | entry :: entries =>
      if canon entry.1 = canon key then (entry.1, value) :: entries
      else entry :: update key value entries

variable {canon}

theorem lookup_eq_none_iff (key : κ) (entries : List (κ × ν)) :
    lookup canon key entries = none ↔ canon key ∉ entries.map fun entry => canon entry.1 := by
  induction entries with
  | nil => simp [lookup]
  | cons entry entries ih =>
      unfold lookup
      by_cases hsame : canon entry.1 = canon key
      · simp [hsame]
      · rw [if_neg hsame, ih]
        simp [Ne.symm hsame]

theorem lookup_update (key other : κ) (value : ν) (entries : List (κ × ν)) :
    lookup canon other (update canon key value entries) =
      if canon other = canon key then some value else lookup canon other entries := by
  induction entries with
  | nil =>
      by_cases hother : canon other = canon key
      · simp [update, lookup, hother]
      · simp [update, lookup, hother, Ne.symm hother]
  | cons entry entries ih =>
      unfold update
      by_cases hsame : canon entry.1 = canon key
      · by_cases hother : canon other = canon key
        · simp [lookup, hsame, hother]
        · simp [lookup, hsame, hother, Ne.symm hother]
      · by_cases hother : canon entry.1 = canon other
        · have hne : canon other ≠ canon key := fun h => hsame (hother.trans h)
          simp [lookup, hother, hne]
        · simp [lookup, hsame, hother, ih]

theorem update_keys (key : κ) (value : ν) (entries : List (κ × ν)) :
    (update canon key value entries).map (fun entry => canon entry.1) =
      if canon key ∈ entries.map fun entry => canon entry.1 then
        entries.map fun entry => canon entry.1
      else (entries.map fun entry => canon entry.1) ++ [canon key] := by
  induction entries with
  | nil => rfl
  | cons entry entries ih =>
      unfold update
      by_cases hsame : canon entry.1 = canon key
      · simp [hsame]
      · rw [if_neg hsame, List.map_cons, ih]
        by_cases hmem : canon key ∈ entries.map fun entry => canon entry.1
        · rw [if_pos hmem, List.map_cons, if_pos (List.mem_cons_of_mem _ hmem)]
        · rw [if_neg hmem, List.map_cons, if_neg, List.cons_append]
          rw [List.mem_cons, not_or]
          exact ⟨Ne.symm hsame, hmem⟩

theorem update_of_not_mem {key : κ} (value : ν) {entries : List (κ × ν)}
    (h : canon key ∉ entries.map fun entry => canon entry.1) :
    update canon key value entries = entries ++ [(key, value)] := by
  induction entries with
  | nil => rfl
  | cons entry entries ih =>
      rw [List.map_cons, List.mem_cons, not_or] at h
      unfold update
      rw [if_neg (Ne.symm h.1), ih h.2]
      rfl

section Split

variable {key : κ} {front back : List (κ × ν)} {entry : κ × ν}

-- The first entry with this key decides.
theorem lookup_append (h : canon key ∉ front.map fun entry => canon entry.1)
    (hentry : canon entry.1 = canon key) :
    lookup canon key (front ++ entry :: back) = some entry.2 := by
  induction front with
  | nil => exact if_pos hentry
  | cons first front ih =>
      rw [List.map_cons, List.mem_cons, not_or] at h
      rw [List.cons_append, lookup, if_neg (Ne.symm h.1), ih h.2]

theorem update_append (h : canon key ∉ front.map fun entry => canon entry.1)
    (hentry : canon entry.1 = canon key) (value : ν) :
    update canon key value (front ++ entry :: back) = front ++ (entry.1, value) :: back := by
  induction front with
  | nil => exact if_pos hentry
  | cons first front ih =>
      rw [List.map_cons, List.mem_cons, not_or] at h
      rw [List.cons_append, update, if_neg (Ne.symm h.1), ih h.2, List.cons_append]

theorem filter_ne_append (hentry : canon entry.1 = canon key)
    (h : ((front ++ entry :: back).map fun entry => canon entry.1).Nodup) :
    (front ++ entry :: back).filter (fun entry => canon entry.1 ≠ canon key) = front ++ back := by
  have hother : ∀ other ∈ front ++ back, canon other.1 ≠ canon key := by
    intro other hmem heq
    have hperm : ((front ++ entry :: back).map fun entry => canon entry.1).Perm
        (canon entry.1 :: (front ++ back).map fun entry => canon entry.1) :=
      List.perm_middle.map _
    have hnot := (List.nodup_cons.mp (hperm.nodup_iff.mp h)).1
    rw [hentry, ← heq] at hnot
    exact hnot (List.mem_map_of_mem hmem)
  have hfilter : ∀ entries : List (κ × ν), (∀ other ∈ entries, canon other.1 ≠ canon key) →
      entries.filter (fun entry => canon entry.1 ≠ canon key) = entries :=
    fun entries hall => List.filter_eq_self.mpr fun other hmem => decide_eq_true (hall other hmem)
  rw [List.filter_append, List.filter_cons_of_neg (by simpa using hentry),
    hfilter front fun other hmem => hother other (List.mem_append_left _ hmem),
    hfilter back fun other hmem => hother other (List.mem_append_right _ hmem)]

end Split

-- All other entries keep their places.
theorem update_getElem? {key : κ} (value : ν) {entries : List (κ × ν)} {i : Nat} {entry : κ × ν}
    (h : entries[i]? = some entry) (hne : canon entry.1 ≠ canon key) :
    (update canon key value entries)[i]? = some entry := by
  induction entries generalizing i with
  | nil => cases h
  | cons first entries ih =>
      unfold update
      cases i with
      | zero =>
          cases h
          rw [if_neg hne]
          rfl
      | succ i =>
          split_ifs
          · exact h
          · exact ih h

-- Entries that a property of the keys sets apart from the changed one stay.
theorem update_filter {key : κ} (value : ν) (entries : List (κ × ν)) {p : κ → Bool}
    (hp : ∀ other, canon other = canon key → p other = false) :
    (update canon key value entries).filter (fun entry => p entry.1) =
      entries.filter fun entry => p entry.1 := by
  induction entries with
  | nil => simp [update, hp key rfl]
  | cons entry entries ih =>
      unfold update
      by_cases hsame : canon entry.1 = canon key
      · simp [hsame, hp entry.1 hsame]
      · simp only [if_neg hsame, List.filter_cons, ih]

theorem lookup_filter {key : κ} (entries : List (κ × ν)) {p : κ → Bool}
    (hp : ∀ other, canon other = canon key → p other = p key) :
    lookup canon key (entries.filter fun entry => p entry.1) =
      if p key then lookup canon key entries else none := by
  induction entries with
  | nil => simp [lookup]
  | cons entry entries ih =>
      rw [List.filter_cons]
      by_cases hsame : canon entry.1 = canon key
      · have hkey := hp entry.1 hsame
        cases hcase : p key with
        | true => simp [hkey, hcase, lookup, hsame]
        | false => simpa [hkey, hcase] using ih
      · cases p entry.1 with
        | true => simp [lookup, hsame, ih]
        | false => simpa [lookup, hsame] using ih

end Entries

section Maps

variable (map : OrderedMap canon ν)

def empty : OrderedMap canon ν := ⟨[], List.nodup_nil⟩

def get (key : κ) : Option ν := lookup canon key map.entries

def set (key : κ) (value : ν) : OrderedMap canon ν where
  entries := update canon key value map.entries
  distinct := by
    rw [update_keys]
    split_ifs with hmem
    · exact map.distinct
    · exact map.distinct.append (List.nodup_singleton _) (List.disjoint_singleton.mpr hmem)

-- Drop all entries with a key of the given kind.
def removeAll (p : κ → Bool) : OrderedMap canon ν where
  entries := map.entries.filter fun entry => !p entry.1
  distinct := map.distinct.sublist (List.filter_sublist.map _)

@[simp] theorem get_set_self (key : κ) (value : ν) : (map.set key value).get key = some value := by
  simp [get, set, lookup_update]

theorem get_set_of_ne {key other : κ} (value : ν) (h : canon other ≠ canon key) :
    (map.set key value).get other = map.get other := by
  simp [get, set, lookup_update, h]

theorem get_removeAll (key : κ) {p : κ → Bool}
    (hp : ∀ other, canon other = canon key → p other = p key) :
    (map.removeAll p).get key = if p key then none else map.get key := by
  have h := lookup_filter map.entries (p := fun key => !p key) fun other hother =>
    congrArg (!·) (hp other hother)
  unfold get removeAll
  rw [h]
  cases p key <;> rfl

theorem set_filter {key : κ} (value : ν) {p : κ → Bool}
    (hp : ∀ other, canon other = canon key → p other = false) :
    (map.set key value).entries.filter (fun entry => p entry.1) =
      map.entries.filter fun entry => p entry.1 :=
  update_filter value map.entries hp

omit [DecidableEq κ'] in
theorem removeAll_filter {p q : κ → Bool} (hpq : ∀ key, q key = true → p key = false) :
    (map.removeAll p).entries.filter (fun entry => q entry.1) =
      map.entries.filter fun entry => q entry.1 := by
  unfold removeAll
  rw [List.filter_filter]
  refine List.filter_congr fun entry _ => ?_
  cases hq : q entry.1 with
  | true => simp [hpq entry.1 hq]
  | false => simp

-- New keys line up at the end in the order in which they are set.
theorem set_all_entries (entries : List (κ × ν))
    (hnew : ((map.entries ++ entries).map fun entry => canon entry.1).Nodup) :
    (entries.foldl (fun map entry => map.set entry.1 entry.2) map).entries =
      map.entries ++ entries := by
  induction entries generalizing map with
  | nil => simp
  | cons entry entries ih =>
      have hsplit : map.entries ++ entry :: entries = (map.entries ++ [entry]) ++ entries := by simp
      have hfirst : (map.set entry.1 entry.2).entries = map.entries ++ [entry] := by
        refine update_of_not_mem entry.2 fun hmem => ?_
        rw [List.map_append, List.map_cons] at hnew
        exact List.disjoint_of_nodup_append hnew hmem List.mem_cons_self
      rw [List.foldl_cons, ih, hfirst, hsplit]
      rwa [hfirst, ← hsplit]

end Maps

end OrderedMap

end RedApid
