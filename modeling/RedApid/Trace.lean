import Mathlib.Tactic.TypeStar

namespace RedApid.Trace

variable {State Event : Type*} (next : State → Event → Option State)

-- The state that a list of events leads to, if each of them can come up.
def run : State → List Event → Option State
  | s, [] => some s
  | s, event :: events =>
      match next s event with
      | none => none
      | some s' => run s' events

-- In every state that is reached.
def Always (P : State → Prop) : State → List Event → Prop
  | s, [] => P s
  | s, event :: events =>
      P s ∧
        match next s event with
        | none => True
        | some s' => Always P s' events

-- At every step that is made.
def Along (P : State → Event → State → Prop) : State → List Event → Prop
  | _, [] => True
  | s, event :: events =>
      match next s event with
      | none => True
      | some s' => P s event s' ∧ Along P s' events

variable {next} {I P : State → Prop} {C : State → Event → State → Prop}

theorem run_cons {s s' : State} {event : Event} (hnext : next s event = some s')
    (events : List Event) : run next s (event :: events) = run next s' events := by
  rw [run, hnext]

theorem run_append {s s' : State} {events : List Event} (h : run next s events = some s')
    (more : List Event) : run next s (events ++ more) = run next s' more := by
  induction events generalizing s with
  | nil =>
      cases h
      rfl
  | cons event events ih =>
      cases hnext : next s event with
      | none =>
          rw [run, hnext] at h
          cases h
      | some s₁ =>
          rw [run_cons hnext] at h
          rw [List.cons_append, run_cons hnext]
          exact ih h

theorem Always.first {s : State} {events : List Event} (h : Always next P s events) : P s := by
  cases events with
  | nil => exact h
  | cons event events => exact h.1

theorem Always.of_run {s s' : State} {events : List Event} (h : Always next P s events)
    (hrun : run next s events = some s') : P s' := by
  induction events generalizing s with
  | nil =>
      cases hrun
      exact h
  | cons event events ih =>
      unfold run at hrun
      have hrest := h.2
      cases hnext : next s event with
      | none =>
          rw [hnext] at hrun
          cases hrun
      | some s₁ =>
          rw [hnext] at hrun hrest
          exact ih hrest hrun

-- An invariant that all steps keep which meet the condition.
theorem always_of_along (hstep : ∀ s event s', I s → next s event = some s' → C s event s' → I s')
    {s : State} (hs : I s) {events : List Event} (h : Along next C s events) :
    Always next I s events := by
  induction events generalizing s with
  | nil => exact hs
  | cons event events ih =>
      unfold Along at h
      refine ⟨hs, ?_⟩
      cases hnext : next s event with
      | none => trivial
      | some s' =>
          rw [hnext] at h
          exact ih (hstep s event s' hs hnext h.1) h.2

theorem Always.mono (himp : ∀ s, I s → P s) {s : State} {events : List Event}
    (h : Always next I s events) : Always next P s events := by
  induction events generalizing s with
  | nil => exact himp s h
  | cons event events ih =>
      refine ⟨himp s h.1, ?_⟩
      cases hnext : next s event with
      | none => trivial
      | some s' =>
          have hrest := h.2
          rw [hnext] at hrest
          exact ih hrest

theorem along_of_mem {Q : Event → Prop} {events : List Event} (h : ∀ event ∈ events, Q event)
    (s : State) : Along next (fun _ event _ => Q event) s events := by
  induction events generalizing s with
  | nil => trivial
  | cons event events ih =>
      unfold Along
      cases next s event with
      | none => trivial
      | some s' =>
          exact ⟨h event List.mem_cons_self,
            ih (fun other hother => h other (List.mem_cons_of_mem _ hother)) s'⟩

theorem along_of_forall_mem {events : List Event} (h : ∀ event ∈ events, ∀ s s', C s event s')
    (s : State) : Along next C s events := by
  induction events generalizing s with
  | nil => trivial
  | cons event events ih =>
      unfold Along
      cases next s event with
      | none => trivial
      | some s' =>
          exact ⟨h event List.mem_cons_self s s',
            ih (fun other hother => h other (List.mem_cons_of_mem _ hother)) s'⟩

theorem along_congr {D : State → Event → State → Prop}
    (h : ∀ s event s', next s event = some s' → (C s event s' ↔ D s event s')) (s : State)
    (events : List Event) : Along next C s events ↔ Along next D s events := by
  induction events generalizing s with
  | nil => exact Iff.rfl
  | cons event events ih =>
      unfold Along
      cases hnext : next s event with
      | none => exact Iff.rfl
      | some s' => exact and_congr (h s event s' hnext) (ih s')

theorem along_of_step (hstep : ∀ s event s', I s → next s event = some s' → I s')
    (himp : ∀ s event s', I s → next s event = some s' → C s event s') {s : State} (hs : I s)
    (events : List Event) : Along next C s events := by
  induction events generalizing s with
  | nil => trivial
  | cons event events ih =>
      unfold Along
      cases hnext : next s event with
      | none => trivial
      | some s' => exact ⟨himp s event s' hs hnext, ih (hstep s event s' hs hnext)⟩

theorem always_of_step (hstep : ∀ s event s', I s → next s event = some s' → I s')
    (himp : ∀ s, I s → P s) {s : State} (hs : I s) (events : List Event) :
    Always next P s events := by
  refine Always.mono himp (always_of_along (C := fun _ _ _ => True) ?_ hs ?_)
  · exact fun s event s' hs hnext _ => hstep s event s' hs hnext
  · exact along_of_mem (fun _ _ => trivial) s

theorem of_run (hstep : ∀ s event s', I s → next s event = some s' → I s') {s s' : State}
    (hs : I s) {events : List Event} (h : run next s events = some s') : I s' := by
  induction events generalizing s with
  | nil =>
      cases h
      exact hs
  | cons event events ih =>
      unfold run at h
      cases hnext : next s event with
      | none =>
          rw [hnext] at h
          cases h
      | some s₁ =>
          rw [hnext] at h
          exact ih (hstep s event s₁ hs hnext) h

-- Under an invariant, a property that exactly the steps keep which meet the condition.
theorem always_iff_along (hstep : ∀ s event s', I s → next s event = some s' → I s')
    (hiff : ∀ s event s', I s → P s → next s event = some s' → (P s' ↔ C s event s'))
    {s : State} (hs : I s) (hP : P s) (events : List Event) :
    Always next P s events ↔ Along next C s events := by
  induction events generalizing s with
  | nil => exact iff_of_true hP trivial
  | cons event events ih =>
      unfold Always Along
      cases hnext : next s event with
      | none => exact iff_of_true ⟨hP, trivial⟩ trivial
      | some s' =>
          have hsame := hiff s event s' hs hP hnext
          have hs' := hstep s event s' hs hnext
          constructor
          · intro h
            exact ⟨hsame.mp h.2.first, (ih hs' h.2.first).mp h.2⟩
          · intro h
            have hP' := hsame.mpr h.1
            exact ⟨hP, (ih hs' hP').mpr h.2⟩

end RedApid.Trace
