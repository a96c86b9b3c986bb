import RedApid.Store.Frame

namespace RedApid

-- The calls that a running destruction has still to make. They turn the recursion through
-- the destroy functions into steps on a stack.
inductive Task where
  -- an unlock, if the reference is locked, and object_remove_internal_reference
  | drop (hold : Hold)
  -- inventory_remove_object
  | removeObject (object : ObjectRef)
  -- object_destroy
  | destroy (object : ObjectRef)
  -- the final `free` of a destroyed object
  | free (object : ObjectRef)
  -- what array_remove does after the destroy callback
  | shift (type : ObjectType) (i : Nat) (object : ObjectRef)

section Run

variable (array : ArrayRemove)

def objectDropTasks (object : ObjectRef) (store : Store) : List Task × Store :=
  match store.objects.get object with
  | none => ([], store.faulted)
  | some o =>
      if o.internalReferenceCount = 0 then ([], store)
      else if o.internalReferenceCount - 1 = 0 ∧ o.externalReferenceCount = 0 then
        ([.removeObject object], objectDropInternalReference object store)
      else ([], objectDropInternalReference object store)

-- The tasks that take the place of a task, and the state after it.
def Task.run : Task → Store → List Task × Store
  | .drop hold, store => objectDropTasks hold.object (hold.unlock store)
  | .removeObject object, store =>
      match store.objects.get object with
      | none => ([], store.faulted)
      | some o =>
          match (store.objectArray o.type).idxOf? object with
          | none => ([], store)
          | some i => ([.destroy object, .shift o.type i object], store)
  | .destroy object, store =>
      match store.objects.get object with
      | none => ([], store.faulted)
      | some o =>
          (o.payload.holds.map .drop ++ [.free object],
            o.externalReferences.foldl (objectDropReference object) store)
  | .free object, store => ([], store.freeObject object)
  | .shift type i object, store =>
      ([], store.setObjectArray type (array.remove i object (store.objectArray type)))

-- `Runs tasks store store'`: the tasks end in the state `store'`.
inductive Runs : List Task → Store → Store → Prop where
  | done (store : Store) : Runs [] store store
  | step {task : Task} {tasks : List Task} {store last : Store} :
      Runs ((task.run array store).1 ++ tasks) (task.run array store).2 last →
      Runs (task :: tasks) store last

end Run

variable {array : ArrayRemove}

theorem Runs.append {first second : List Task} {store middle last : Store}
    (h : Runs array first store middle) (h' : Runs array second middle last) :
    Runs array (first ++ second) store last := by
  induction h with
  | done store => exact h'
  | step _ ih =>
      rw [List.cons_append]
      exact .step (by rw [← List.append_assoc]; exact ih h')

-- A property of stack and state that every step keeps holds at the end.
theorem Runs.invariant {P : List Task → Store → Prop}
    (hstep : ∀ task tasks store, P (task :: tasks) store →
      P ((task.run array store).1 ++ tasks) (task.run array store).2)
    {tasks : List Task} {store last : Store} (h : Runs array tasks store last)
    (hstart : P tasks store) : P [] last := by
  induction h with
  | done store => exact hstart
  | step _ ih => exact ih (hstep _ _ _ hstart)

section Depth

open Memory

theorem Store.modifyObject_depth {store : Store} {object : ObjectRef} {o : Object}
    (h : store.objects.get object = some o) (f : Object → Object) :
    (store.modifyObject object f).depth + o.internalReferenceCount =
      store.depth + (f o).internalReferenceCount := by
  rw [Store.modifyObject_of_get h]
  exact Heap.total_modify (fun _ (o : Object) => o.internalReferenceCount) h f

theorem Store.modifyObject_depth_eq (store : Store) (object : ObjectRef) (f : Object → Object)
    (h : ∀ o, (f o).internalReferenceCount = o.internalReferenceCount) :
    (store.modifyObject object f).depth = store.depth := by
  cases hget : store.objects.get object with
  | none => rw [Store.modifyObject_of_none hget]; rfl
  | some o =>
      have := Store.modifyObject_depth hget f
      have := h o
      omega

theorem objectDropInternalReference_depth {store : Store} {object : ObjectRef} {o : Object}
    (h : store.objects.get object = some o) (hpos : o.internalReferenceCount ≠ 0) :
    (objectDropInternalReference object store).depth + 1 = store.depth := by
  have := Store.modifyObject_depth h fun o =>
    { o with internalReferenceCount := o.internalReferenceCount - 1 }
  unfold objectDropInternalReference
  simp only at this
  omega

theorem objectUnlock_depth (object : ObjectRef) (store : Store) :
    (objectUnlock object store).depth = store.depth := by
  apply Store.modifyObject_depth_eq
  intro o
  split <;> rfl

theorem Store.freeObject_depth_le (store : Store) (object : ObjectRef) :
    (store.freeObject object).depth ≤ store.depth := by
  cases hget : store.objects.get object with
  | none =>
      have hcongr : ∀ other, (store.objects.free object).get other = store.objects.get other := by
        intro other
        rw [Heap.get_free]
        split_ifs with heq
        · rw [heq, hget]
        · rfl
      refine Nat.le_of_eq ?_
      unfold Store.depth Heap.total Store.freeObject
      simp only [Heap.next_free, hcongr]
  | some o =>
      have := Heap.total_free (fun _ (o : Object) => o.internalReferenceCount) hget
      exact Nat.le_of_add_right_le (Nat.le_of_eq this)

theorem Hold.unlock_depth (hold : Hold) (store : Store) : (hold.unlock store).depth = store.depth := by
  unfold Hold.unlock
  split
  · exact objectUnlock_depth _ _
  · rfl

variable {array : ArrayRemove}

theorem Task.run_depth_le (task : Task) (store : Store) :
    (task.run array store).2.depth ≤ store.depth := by
  cases task with
  | drop hold =>
      rw [← hold.unlock_depth store]
      simp only [Task.run, objectDropTasks]
      split
      · exact Nat.le_refl _
      · rename_i o hget
        split_ifs with hzero
        · exact Nat.le_refl _
        all_goals
          have := objectDropInternalReference_depth hget hzero
          simp only
          omega
  | removeObject object =>
      simp only [Task.run]
      split
      · exact Nat.le_refl _
      · split <;> exact Nat.le_refl _
  | destroy object =>
      simp only [Task.run]
      split
      · exact Nat.le_refl _
      · exact Nat.le_of_eq (Store.SameInternals.foldl_objectDropReference _ _ _).depth
  | free object => exact store.freeObject_depth_le object
  | shift type i object => exact Nat.le_refl _

theorem Runs.depth_le {tasks : List Task} {store last : Store} (h : Runs array tasks store last) :
    last.depth ≤ store.depth := by
  refine h.invariant (P := fun _ s => s.depth ≤ store.depth) ?_ (Nat.le_refl _)
  exact fun task _ s hs => Nat.le_trans (task.run_depth_le s) hs

end Depth

section Overrun

variable {array : ArrayRemove} {store last : Store}

theorem Hold.unlock_overrun (hold : Hold) (store : Store) :
    (hold.unlock store).overrun = store.overrun := by
  unfold Hold.unlock objectUnlock
  split <;> simp

theorem foldl_objectDropReference_overrun (object : ObjectRef) (references : List ReferenceRef)
    (store : Store) :
    (references.foldl (objectDropReference object) store).overrun = store.overrun := by
  induction references generalizing store with
  | nil => rfl
  | cons reference references ih =>
      rw [List.foldl_cons, ih]
      unfold objectDropReference
      split
      · rfl
      · simp [Store.dropReference, Store.countExternal, Store.countSession, Store.countObject,
          Store.unlinkReference, Store.freeReference, Store.unlinkSession, Store.unlinkObject]

theorem Task.run_overrun (task : Task) (store : Store) :
    (task.run array store).2.overrun = store.overrun := by
  cases task with
  | drop hold =>
      rw [← hold.unlock_overrun store]
      simp only [Task.run, objectDropTasks]
      split
      · rfl
      · split_ifs <;> simp [objectDropInternalReference]
  | removeObject object =>
      simp only [Task.run]
      split
      · rfl
      · split <;> rfl
  | destroy object =>
      simp only [Task.run]
      split
      · rfl
      · exact foldl_objectDropReference_overrun _ _ _
  | free object => rfl
  | shift type i object => rfl

-- No bound of a recursion is hit while the tasks run.
theorem Runs.overrun_eq {tasks : List Task} (h : Runs array tasks store last) :
    last.overrun = store.overrun :=
  h.invariant (P := fun _ s => s.overrun = store.overrun)
    (fun task _ s hs => (task.run_overrun s).trans hs) rfl

end Overrun

section Recursion

variable {array : ArrayRemove}

theorem Runs.single {task : Task} {store : Store} (h : (task.run array store).1 = []) :
    Runs array [task] store (task.run array store).2 :=
  .step (by rw [h]; exact .done _)

-- Runs of a recursion that is bounded by `depth`.
def Bounded (array : ArrayRemove) (depth : Nat) : Prop :=
  ∀ object store, store.depth ≤ depth →
    Runs array [.drop ⟨object, false⟩] store (objectRemoveInternalReference array depth object store)

theorem Runs.drop_unlocked {depth : Nat} (hbounded : Bounded array depth) (hold : Hold)
    {store : Store} (hdepth : store.depth ≤ depth) :
    Runs array [.drop hold] store (objectRemoveInternalReference array depth hold.object
      (hold.unlock store)) := by
  have h := hbounded hold.object (hold.unlock store) (by rwa [hold.unlock_depth])
  cases h with
  | step h => exact .step h

theorem Runs.holds {depth : Nat} (hbounded : Bounded array depth) (holds : List Hold)
    {store : Store} (hdepth : store.depth ≤ depth) :
    Runs array (holds.map .drop) store (holds.foldl (fun store hold =>
      objectRemoveInternalReference array depth hold.object (hold.unlock store)) store) := by
  induction holds generalizing store with
  | nil => exact .done store
  | cons hold holds ih =>
      have hfirst := Runs.drop_unlocked hbounded hold hdepth
      exact hfirst.append (ih (Nat.le_trans hfirst.depth_le hdepth))

theorem Runs.destroy {depth : Nat} (hbounded : Bounded array depth) (object : ObjectRef)
    {store : Store} (hdepth : store.depth ≤ depth) :
    Runs array [.destroy object] store
      (objectDestroy (objectRemoveInternalReference array depth) object store) := by
  cases hget : store.objects.get object with
  | none =>
      have hrun : Task.run array (.destroy object) store = ([], store.faulted) := by
        simp only [Task.run, hget]
      have hsame : objectDestroy (objectRemoveInternalReference array depth) object store =
          (Task.run array (.destroy object) store).2 := by
        simp only [objectDestroy, hget, hrun]
      rw [hsame]
      exact .single (by rw [hrun])
  | some o =>
      refine .step ?_
      simp only [Task.run, objectDestroy, hget, List.append_nil]
      have hcleared := Store.SameInternals.foldl_objectDropReference object o.externalReferences store
      refine (Runs.holds hbounded o.payload.holds (by rw [hcleared.depth]; exact hdepth)).append ?_
      exact .single rfl

theorem Runs.removeObject {depth : Nat} (hbounded : Bounded array depth) (object : ObjectRef)
    {store : Store} (hdepth : store.depth ≤ depth) :
    Runs array [.removeObject object] store (inventoryRemoveObject array
      (objectDestroy (objectRemoveInternalReference array depth)) object store) := by
  refine .step ?_
  cases hget : store.objects.get object with
  | none =>
      simp only [Task.run, inventoryRemoveObject, hget]
      exact .done _
  | some o =>
      cases hindex : (store.objectArray o.type).idxOf? object with
      | none =>
          simp only [Task.run, inventoryRemoveObject, hget, hindex]
          exact .done _
      | some i =>
          simp only [Task.run, inventoryRemoveObject, hget, hindex]
          exact (Runs.destroy hbounded object hdepth).append (.single rfl)

theorem bounded (array : ArrayRemove) (depth : Nat) : Bounded array depth := by
  induction depth with
  | zero =>
      intro object store hdepth
      refine .step ?_
      change Runs array ((objectDropTasks object store).1 ++ []) (objectDropTasks object store).2 _
      cases hget : store.objects.get object with
      | none =>
          simp only [objectDropTasks, objectRemoveInternalReference, hget]
          exact .done _
      | some o =>
          -- the sum over the counts is zero
          have hcount := Memory.Heap.le_total (fun _ (o : Object) => o.internalReferenceCount) hget
          have hzero : o.internalReferenceCount = 0 := Nat.le_zero.mp (Nat.le_trans hcount hdepth)
          simp only [objectDropTasks, objectRemoveInternalReference, hget, hzero, if_true]
          exact .done _
  | succ depth ih =>
      intro object store hdepth
      refine .step ?_
      change Runs array ((objectDropTasks object store).1 ++ []) (objectDropTasks object store).2 _
      cases hget : store.objects.get object with
      | none =>
          simp only [objectDropTasks, objectRemoveInternalReference, hget]
          exact .done _
      | some o =>
          by_cases hzero : o.internalReferenceCount = 0
          · simp only [objectDropTasks, objectRemoveInternalReference, hget, hzero, if_true]
            exact .done _
          · have hless := objectDropInternalReference_depth hget hzero
            by_cases hlast : o.internalReferenceCount - 1 = 0 ∧ o.externalReferenceCount = 0
            · simp only [objectDropTasks, objectRemoveInternalReference, hget, if_neg hzero,
                if_pos hlast]
              exact Runs.removeObject ih object (by omega)
            · simp only [objectDropTasks, objectRemoveInternalReference, hget, if_neg hzero,
                if_neg hlast]
              exact .done _

-- The recursions end within their bound.
theorem Store.release_runs (object : ObjectRef) (store : Store) :
    Runs array [.drop ⟨object, false⟩] store (store.release array object) :=
  bounded array _ object store (Nat.le_refl _)

theorem Store.remove_runs (object : ObjectRef) (store : Store) :
    Runs array [.removeObject object] store (store.remove array object) :=
  Runs.removeObject (bounded array _) object (Nat.le_refl _)

end Recursion

end RedApid
