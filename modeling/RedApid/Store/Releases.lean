import RedApid.Store.SessionTimers
import RedApid.Store.Transfers

namespace RedApid

open Memory

section Cascades

variable {array : ArrayRemove} {tasks : List Task} {store other last : Store} {object : ObjectRef}

-- The sessions and what they hold stay as they are.
structure Store.SameClients (store other : Store) : Prop where
  sessions : other.sessions = store.sessions
  references : other.references = store.references
  objects : ∀ p o', other.objects.get p = some o' → ∃ o, store.objects.get p = some o ∧
    o'.externalReferences = o.externalReferences ∧
    o'.externalReferenceCount = o.externalReferenceCount

namespace Store.SameClients

theorem congr (hobjects : other.objects = store.objects) (hsessions : other.sessions = store.sessions)
    (hreferences : other.references = store.references) : store.SameClients other :=
  ⟨hsessions, hreferences, fun _ o' ho' => ⟨o', hobjects ▸ ho', rfl, rfl⟩⟩

theorem refl (store : Store) : store.SameClients store := congr rfl rfl rfl

theorem trans (h : store.SameClients other) (h' : other.SameClients last) : store.SameClients last := by
  refine ⟨h'.sessions.trans h.sessions, h'.references.trans h.references, fun p o'' ho'' => ?_⟩
  obtain ⟨o', ho', hlist', hcount'⟩ := h'.objects p o'' ho''
  obtain ⟨o, ho, hlist, hcount⟩ := h.objects p o' ho'
  exact ⟨o, ho, hlist'.trans hlist, hcount'.trans hcount⟩

theorem modifyObject (store : Store) (object : ObjectRef) {f : Object → Object}
    (hlist : ∀ o, (f o).externalReferences = o.externalReferences)
    (hcount : ∀ o, (f o).externalReferenceCount = o.externalReferenceCount) :
    store.SameClients (store.modifyObject object f) := by
  refine ⟨by simp, by simp, fun p o' ho' => ?_⟩
  obtain ⟨o, ho, rfl⟩ := Store.modifyObject_get ho'
  refine ⟨o, ho, ?_⟩
  split
  · exact ⟨hlist o, hcount o⟩
  · exact ⟨rfl, rfl⟩

theorem unlock (hold : Hold) (store : Store) : store.SameClients (hold.unlock store) := by
  unfold Hold.unlock objectUnlock
  split
  · refine modifyObject store hold.object (fun o => ?_) fun o => ?_ <;> split <;> rfl
  · exact refl store

theorem freeObject (store : Store) (object : ObjectRef) :
    store.SameClients (store.freeObject object) := by
  refine ⟨rfl, rfl, fun p o' ho' => ⟨o', ?_, rfl, rfl⟩⟩
  rw [Store.freeObject, Heap.get_free] at ho'
  split_ifs at ho'
  exact ho'

-- No session holds what the tasks destroy.
def Unheld (tasks : List Task) (store : Store) : Prop :=
  ∀ p ∈ dying tasks, ∀ o, store.objects.get p = some o → o.externalReferences = []

theorem Unheld.mono (h : Unheld tasks store) (hsame : store.SameClients other) :
    Unheld tasks other := by
  intro p hp o' ho'
  obtain ⟨o, ho, hlist, -⟩ := hsame.objects p o' ho'
  rw [hlist]
  exact h p hp o ho

theorem Unheld.cleared (h : Unheld tasks store) : Counted.Cleared tasks store := by
  intro object hmem
  exact h object (List.mem_filterMap.mpr ⟨_, hmem, rfl⟩)

theorem run {task : Task} (hcounted : store.Counted) (h : Unheld (task :: tasks) store) :
    store.SameClients (task.run array store).2 ∧
      Unheld ((task.run array store).1 ++ tasks) (task.run array store).2 := by
  have htail : ∀ other, store.SameClients other → Unheld tasks other := by
    intro other hsame
    have hrest : Unheld tasks store := by
      intro p hp
      rw [show task :: tasks = [task] ++ tasks from rfl] at h
      exact h p (by rw [dying_append]; exact List.mem_append_right _ hp)
    exact hrest.mono hsame
  cases task with
  | drop hold =>
      have hunlocked := unlock hold store
      simp only [Task.run, objectDropTasks]
      cases hget : (hold.unlock store).objects.get hold.object with
      | none =>
          have hsame := hunlocked.trans (@congr _ (hold.unlock store).faulted rfl rfl rfl)
          exact ⟨hsame, htail _ hsame⟩
      | some o =>
          have hsame := hunlocked.trans (.modifyObject _ hold.object
            (f := fun o => { o with internalReferenceCount := o.internalReferenceCount - 1 })
            (fun _ => rfl) fun _ => rfl)
          simp only
          by_cases hzero : o.internalReferenceCount = 0
          · rw [if_pos hzero]
            exact ⟨hunlocked, htail _ hunlocked⟩
          rw [if_neg hzero]
          by_cases hlast : o.internalReferenceCount - 1 = 0 ∧ o.externalReferenceCount = 0
          · rw [if_pos hlast]
            refine ⟨hsame, fun p hp => ?_⟩
            rcases List.mem_cons.mp hp with rfl | hp
            · intro o' ho'
              obtain ⟨o'', ho'', hlist, -⟩ := (SameClients.modifyObject _ hold.object
                (f := fun o => { o with internalReferenceCount := o.internalReferenceCount - 1 })
                (fun _ => rfl) fun _ => rfl).objects hold.object o' ho'
              rw [hget] at ho''
              cases ho''
              rw [hlist]
              exact (hcounted.unlock hold).externalReferences_eq_nil hget hlast.2
            · exact htail _ hsame p hp
          · rw [if_neg hlast]
            exact ⟨hsame, htail _ hsame⟩
  | removeObject object =>
      simp only [Task.run]
      split
      · have hsame : store.SameClients store.faulted := .congr rfl rfl rfl
        exact ⟨hsame, htail _ hsame⟩
      · split
        · exact ⟨refl store, htail _ (refl store)⟩
        · exact ⟨refl store, h⟩
  | destroy object =>
      simp only [Task.run]
      cases hget : store.objects.get object with
      | none =>
          have hsame : store.SameClients store.faulted := .congr rfl rfl rfl
          exact ⟨hsame, htail _ hsame⟩
      | some o =>
          simp only [h object List.mem_cons_self o hget, List.foldl_nil]
          refine ⟨refl store, fun p hp => ?_⟩
          rw [dying_append, dying_append, dying_map_drop, List.nil_append] at hp
          exact h p hp
  | free object =>
      have hsame := freeObject store object
      exact ⟨hsame, htail _ hsame⟩
  | shift type i object =>
      have hsame : store.SameClients (store.setObjectArray type
        (array.remove i object (store.objectArray type))) := .congr rfl rfl rfl
      exact ⟨hsame, htail _ hsame⟩

theorem of_runs (hcounted : store.Counted) (h : Unheld tasks store)
    (hruns : Runs array tasks store last) : store.SameClients last :=
  (hruns.invariant (P := fun tasks s => s.Counted ∧ Unheld tasks s ∧ store.SameClients s)
    (fun _ _ _ hs =>
      have hstep := @run array _ _ _ hs.1 hs.2.1
      ⟨(hs.1.run hs.2.1.cleared).1, hstep.2, hs.2.2.trans hstep.1⟩)
    ⟨hcounted, h, refl store⟩).2.2

end Store.SameClients

-- What is to be destroyed is freed at the end.
theorem Runs.destroyed (hruns : Runs array tasks store last)
    (h : Task.destroy object ∈ tasks ∨ Task.free object ∈ tasks ∨ store.objects.get object = none) :
    last.objects.get object = none := by
  refine (or_iff_right List.not_mem_nil).mp ((or_iff_right List.not_mem_nil).mp
    (hruns.invariant (P := fun tasks s => Task.destroy object ∈ tasks ∨ Task.free object ∈ tasks ∨
      s.objects.get object = none) ?_ h))
  intro task tasks s hs
  have hdead : s.objects.get object = none → (task.run array s).2.objects.get object = none := by
    intro hnone
    by_contra hlive
    obtain ⟨o', ho'⟩ := Option.ne_none_iff_exists'.mp hlive
    obtain ⟨o, ho, -⟩ := (Store.Kept.run array task s).objects object o' ho'
    rw [hnone] at ho
    cases ho
  rcases hs with hdestroy | hfree | hnone
  · rcases List.mem_cons.mp hdestroy with rfl | hmem
    · cases hget : s.objects.get object with
      | none => exact Or.inr (Or.inr (hdead hget))
      | some o =>
          right
          left
          simp [Task.run, hget]
    · exact Or.inl (List.mem_append_right _ hmem)
  · rcases List.mem_cons.mp hfree with rfl | hmem
    · exact Or.inr (Or.inr (Heap.get_free_self _ _))
    · exact Or.inr (Or.inl (List.mem_append_right _ hmem))
  · exact Or.inr (Or.inr (hdead hnone))

theorem Store.remove_destroyed {o : Object} (ho : store.objects.get object = some o)
    (hlisted : object ∈ store.objectArray o.type) :
    (store.remove array object).objects.get object = none := by
  have hruns := @Store.remove_runs array object store
  cases hruns with
  | step hruns =>
      cases hindex : (store.objectArray o.type).idxOf? object with
      | none => exact absurd (List.idxOf?_eq_none_iff.mp hindex) (not_not.mpr hlisted)
      | some i =>
          simp only [Task.run, ho, hindex] at hruns
          exact hruns.destroyed (Or.inl List.mem_cons_self)

end Cascades

section Release

variable {array : ArrayRemove} {pool : List Hold} {store : Store} {object : ObjectRef}
  {session : SessionRef} {reference : ReferenceRef} {e : ExternalReference} {o : Object}

-- What a release by a session has to do to an object.
structure Released (pool : List Hold) (object : ObjectRef) (session : SessionRef) (store : Store)
    (result : APIE × Store) : Prop where
  success_iff : result.1 = .success ↔ 1 ≤ store.externalCount object session
  -- a session that holds the object gives back one reference
  count : 1 ≤ store.externalCount object session →
    result.2.externalCount object session = store.externalCount object session - 1
  object_count : 1 ≤ store.externalCount object session →
    ∀ o o', store.objects.get object = some o → result.2.objects.get object = some o' →
      o'.externalReferenceCount = o.externalReferenceCount - 1
  session_count : 1 ≤ store.externalCount object session →
    ∃ s s', store.sessions.get session = some s ∧ result.2.sessions.get session = some s' ∧
      s'.externalReferenceCount = s.externalReferenceCount - 1
  -- and any other session changes nothing
  unchanged : store.externalCount object session = 0 → result.2 = store
  other_count : ∀ p s, ¬ (p = object ∧ s = session) →
    result.2.externalCount p s = store.externalCount p s
  other_object : ∀ p, p ≠ object → ∀ o', result.2.objects.get p = some o' →
    ∃ o, store.objects.get p = some o ∧ o'.externalReferenceCount = o.externalReferenceCount
  other_session : ∀ s, s ≠ session → result.2.sessions.get s = store.sessions.get s
  -- internal references and locks are those of the holders that are left
  internals : result.2.objects.get object ≠ none → store.SameInternals result.2
  accounted : result.2.Accounted ownHolds pool
  kept : store.Kept result.2
  destroyed_iff : result.2.objects.get object = none ↔ store.externalCount object session = 1 ∧
    ∃ o, store.objects.get object = some o ∧ o.internalReferenceCount = 0 ∧
      o.externalReferenceCount = 1

-- Nothing is released.
theorem Released.refused (haccounted : store.Accounted ownHolds pool)
    (ho : store.objects.get object = some o) (hnone : store.externalCount object session = 0)
    {code : APIE} (hcode : code ≠ .success) : Released pool object session store (code, store) where
  success_iff := ⟨fun hsuccess => absurd hsuccess hcode, fun hheld => by omega⟩
  count hheld := by omega
  object_count hheld := by omega
  session_count hheld := by omega
  unchanged _ := rfl
  other_count _ _ _ := rfl
  other_object p _ o' ho' := ⟨o', ho', rfl⟩
  other_session _ _ := rfl
  internals _ := .refl store
  accounted := haccounted
  kept := .refl store
  destroyed_iff := by
    constructor
    · intro hfreed
      rw [ho] at hfreed
      cases hfreed
    · rintro ⟨hone, -⟩
      omega

-- The state after the entry was changed, and the object destroyed if this was the last reference.
theorem objectRelease_of_found (ho : store.objects.get object = some o)
    (hcount : o.externalReferenceCount ≠ 0)
    (hfind : store.findReference object session = some reference) :
    objectRelease array object session store =
      (.success, if o.internalReferenceCount = 0 ∧ o.externalReferenceCount - 1 = 0 then
        (store.releaseReference reference object session).remove array object
        else store.releaseReference reference object session) := by
  simp only [objectRelease, objectRemoveExternalReference, ho, if_neg hcount, hfind]

theorem Sound.released_of_held (h : Sound pool store) (ho : store.objects.get object = some o)
    (hlisted : object ∈ store.objectArray o.type) (hsession : store.sessions.get session ≠ none)
    (hheld : 1 ≤ store.externalCount object session) :
    Released pool object session store (objectRelease array object session store) := by
  have hcount : store.externalCount object session ≠ 0 := by omega
  obtain ⟨reference, e, hfind, he, hobject, hsession', -⟩ :=
    h.counted.entry_of_externalCount hcount
  obtain ⟨s, hs⟩ := Option.ne_none_iff_exists'.mp hsession
  have hle := h.counted.externalCount_le ho session
  rw [objectRelease_of_found ho (by omega) hfind]
  have htransfers := Store.Transfers.releaseReference h.counted he hobject hsession'
  have hsame := htransfers.internals
  have hcounted := htransfers.counted
  obtain ⟨hothers, hreleased⟩ := Store.Collecting.releaseReference_get reference object session store
  obtain ⟨o₁, ho₁, hinternal, hexternal⟩ := hreleased o ho
  obtain ⟨hsessions, hdropped, -⟩ := releaseReference_clients he session object
  obtain ⟨s₁, hs₁, hsessionCount⟩ := hdropped s hs
  -- the last reference takes the object with it
  have hlast : ∃ other, other = (if o.internalReferenceCount = 0 ∧ o.externalReferenceCount - 1 = 0
      then (store.releaseReference reference object session).remove array object
      else store.releaseReference reference object session) ∧ other.Counted ∧
      (store.releaseReference reference object session).SameClients other ∧
      store.Kept other ∧ other.Accounted ownHolds pool ∧
      (other.objects.get object = none ↔ o.internalReferenceCount = 0 ∧
        o.externalReferenceCount - 1 = 0) ∧
      (other.objects.get object ≠ none → store.SameInternals other) := by
    have haccounted := h.holding.accounted.sameInternals hsame
    by_cases hzero : o.internalReferenceCount = 0 ∧ o.externalReferenceCount - 1 = 0
    · rw [if_pos hzero]
      have hruns := @Store.remove_runs array object
        (store.releaseReference reference object session)
      have hempty := hcounted.externalReferences_eq_nil ho₁ (by omega)
      have hunheld : Store.SameClients.Unheld [.removeObject object]
          (store.releaseReference reference object session) := by
        intro p hp o' ho'
        rw [List.mem_singleton.mp hp, ho₁] at ho'
        cases ho'
        exact hempty
      have htype : o₁.type = o.type := by
        obtain ⟨o', ho', htype, -⟩ := (Store.Kept.of_sameInternals hsame).get ho₁
        rw [ho] at ho'
        cases ho'
        exact htype
      have hfreed := @Store.remove_destroyed array _ _ _ ho₁
        (by rw [htype, hsame.objectArray]; exact hlisted)
      refine ⟨_, rfl, hcounted.remove object, .of_runs hcounted hunheld hruns,
        (Store.Kept.of_sameInternals hsame).trans (.of_runs hruns), ?_, ?_, ?_⟩
      · exact haccounted.remove ho₁ (hinternal.trans hzero.1)
      · exact ⟨fun _ => hzero, fun _ => hfreed⟩
      · exact fun hlive => absurd hfreed hlive
    · rw [if_neg hzero]
      refine ⟨_, rfl, hcounted, .refl _, .of_sameInternals hsame, haccounted, ?_, fun _ => hsame⟩
      rw [ho₁]
      exact ⟨nofun, fun h => absurd h hzero⟩
  obtain ⟨other, hother, hcounted', hclients, hkept, haccounted, hfreed, hinternals⟩ := hlast
  rw [← hother]
  have hcountOther : ∀ p s, other.externalCount p s =
      (store.releaseReference reference object session).externalCount p s := by
    intro p s
    refine hcounted.externalCount_congr hcounted' fun r e _ => ?_
    rw [hclients.references]
  refine ⟨⟨fun _ => hheld, fun _ => rfl⟩, fun _ => ?_, fun _ o' o'' ho' ho'' => ?_, fun _ => ?_, ?_,
    ?_, ?_, ?_, hinternals, haccounted, hkept, ?_⟩
  · rw [hcountOther, htransfers.count, if_pos rfl, Pi.single_eq_same]
    rfl
  · rw [ho] at ho'
    cases ho'
    obtain ⟨o₂, ho₂, -, hcount⟩ := hclients.objects object o'' ho''
    rw [ho₁] at ho₂
    cases ho₂
    omega
  · refine ⟨s, s₁, hs, ?_, hsessionCount⟩
    rw [hclients.sessions]
    exact hs₁
  · intro hzero
    omega
  · intro p s' hne
    rw [hcountOther, htransfers.count]
    split_ifs with hs'
    · rw [Pi.single_eq_of_ne fun hp => hne ⟨hp, hs'⟩, Int.add_zero]
    · rw [Int.add_zero]
  · intro p hp o' ho'
    obtain ⟨o'', ho'', -, hcount⟩ := hclients.objects p o' ho'
    rw [hothers p hp] at ho''
    exact ⟨o'', ho'', hcount⟩
  · intro s' hne
    rw [hclients.sessions]
    exact hsessions s' hne
  · rw [hfreed, ho]
    constructor
    · rintro ⟨hzero, hlast⟩
      exact ⟨by omega, o, rfl, hzero, by omega⟩
    · rintro ⟨hone, o', ho', hzero, hlast⟩
      cases ho'
      exact ⟨hzero, by omega⟩

-- A release reports success if and only if some session holds the object, so it does what it
-- has to do if and only if the session itself holds it or no session does.
theorem Sound.released_iff (h : Sound pool store) (ho : store.objects.get object = some o)
    (hlisted : object ∈ store.objectArray o.type) (hsession : store.sessions.get session ≠ none) :
    Released pool object session store (objectRelease array object session store) ↔
      1 ≤ store.externalCount object session ∨ ∀ s, store.externalCount object s = 0 := by
  rw [← h.counted.external_eq_zero_iff ho]
  constructor
  · intro hreleased
    by_cases hzero : o.externalReferenceCount = 0
    · exact Or.inr hzero
    · left
      rw [← hreleased.success_iff]
      simp only [objectRelease, ho, if_neg hzero]
  · rintro (hheld | hzero)
    · exact h.released_of_held ho hlisted hsession hheld
    · have hnone := h.counted.external_eq_zero_iff ho |>.mp hzero session
      simp only [objectRelease, ho, if_pos hzero]
      exact .refused h.holding.accounted ho hnone (by decide)

end Release

section Calls

variable {array : ArrayRemove} {pool : List Hold} {store : Store}

-- The call of a client.
def releaseObject (array : ArrayRemove) (objectId : ObjectID) (sessionId : SessionID)
    (store : Store) : APIE × Store :=
  match inventoryGetObject ObjectType.all objectId store with
  | .error code => (code, store)
  | .ok object =>
      match inventoryGetSession sessionId store with
      | .error code => (code, store)
      | .ok session => objectRelease array object session store

def releaseObjects (array : ArrayRemove) (calls : List (ObjectID × SessionID)) (store : Store) :
    Store :=
  calls.foldl (fun store call => (releaseObject array call.1 call.2 store).2) store

theorem releaseObject_holding (h : Holding pool store) (objectId : ObjectID)
    (sessionId : SessionID) : Holding pool (releaseObject array objectId sessionId store).2 := by
  unfold releaseObject
  cases inventoryGetObject ObjectType.all objectId store with
  | error code => exact h
  | ok object =>
      cases inventoryGetSession sessionId store with
      | error code => exact h
      | ok session => exact (HolderStep.objectRelease pool store object session).holding h

theorem releaseObjects_holding (h : Holding pool store) (calls : List (ObjectID × SessionID)) :
    Holding pool (releaseObjects array calls store) := by
  induction calls generalizing store with
  | nil => exact h
  | cons call calls ih => exact ih (releaseObject_holding h call.1 call.2)

theorem Sound.found (h : Sound pool store) {types : List ObjectType} {id : ObjectID}
    {object : ObjectRef} (hfound : inventoryGetObject types id store = .ok object) :
    ∃ o, store.objects.get object = some o ∧ object ∈ store.objectArray o.type ∧ o.type ∈ types ∧
      o.id = id ∧ o.Referenced := by
  obtain ⟨⟨type, htype, hlisted⟩, hid⟩ := inventoryGetObject_ok hfound
  obtain ⟨o, ho, hid⟩ := Option.map_eq_some_iff.mp hid
  obtain ⟨rfl, hreferenced⟩ := h.listing.referenced_of_get hlisted ho
  exact ⟨o, ho, hlisted, htype, hid, hreferenced⟩

theorem inventoryGetSession_live {id : SessionID} {session : SessionRef}
    (h : inventoryGetSession id store = .ok session) : store.sessions.get session ≠ none := by
  unfold inventoryGetSession at h
  split at h
  · cases h
  · rename_i found hfound
    cases h
    have hid := List.find?_some hfound
    intro hnone
    simp [Store.sessionId, hnone] at hid

-- A release concerns only the own references of the session, except that it reports success to
-- a session without any as long as others hold the object. Whatever clients release, nothing
-- is destroyed that somebody still holds internally.
theorem release_own_references_iff (array : ArrayRemove)
    (h : Relation.ReflTransGen (CleanStep array) ([], Store.init) (pool, store)) :
    (∀ objectId sessionId object session,
      inventoryGetObject ObjectType.all objectId store = .ok object →
      inventoryGetSession sessionId store = .ok session →
      (Released pool object session store (releaseObject array objectId sessionId store) ↔
        1 ≤ store.externalCount object session ∨ ∀ s, store.externalCount object s = 0)) ∧
    ∀ calls hold, hold ∈ pool ∨ (∃ p o, (releaseObjects array calls store).objects.get p = some o ∧
        hold ∈ o.payload.holds) →
      (releaseObjects array calls store).objects.get hold.object ≠ none := by
  have hsound := sound_of_steps h
  refine ⟨fun objectId sessionId object session hobject hsession => ?_, fun calls hold hheld => ?_⟩
  · obtain ⟨o, ho, hlisted, -⟩ := hsound.found hobject
    have hcall : releaseObject array objectId sessionId store =
        objectRelease array object session store := by
      simp only [releaseObject, hobject, hsession]
    rw [hcall]
    exact hsound.released_iff ho hlisted (inventoryGetSession_live hsession)
  · have haccounted := (@releaseObjects_holding array _ _ hsound.holding calls).accounted
    rcases hheld with hpool | ⟨p, o, ho, hmem⟩
    · exact haccounted.live_of_mem hpool
    · exact haccounted.live hold (Store.claims_pos pool ho hmem)

theorem Store.entriesLive_of_cells (h : store.references.cells.all fun cell =>
    cell.all fun e => (store.objects.get e.object).isSome) : store.EntriesLive := by
  intro r e he
  unfold Heap.get at he
  have hcell : some e ∈ store.references.cells :=
    List.mem_of_getElem? (Option.join_eq_some_iff.mp he)
  have hlive := List.all_eq_true.mp h _ hcell
  exact Option.isSome_iff_ne_none.mp hlive

-- Two sessions, and the list of the first one.
def twoSessionStore : Store := (sessionCreate ⟨true, none, none, none⟩ 10 oneListStore).2

theorem twoSessionStore_steps :
    Relation.ReflTransGen (CleanStep .byIndex) ([], Store.init) ([], twoSessionStore) :=
  ((Relation.ReflTransGen.refl.tail
    ⟨.sessionCreate [] _ ⟨true, none, none, none⟩ 10, Store.entriesLive_of_cells rfl⟩).tail
    ⟨.created [] _ ⟨true, none⟩ (.list []) (some 0) OBJECT_CREATE_FLAG_EXTERNAL 0 rfl nofun rfl,
      Store.entriesLive_of_cells rfl⟩).tail
    ⟨.sessionCreate [] _ ⟨true, none, none, none⟩ 10, Store.entriesLive_of_cells rfl⟩

theorem twoSessionStore_release :
    Released [] 0 0 twoSessionStore (releaseObject .byIndex 1 1 twoSessionStore) :=
  ((release_own_references_iff .byIndex twoSessionStore_steps).1 1 1 0 0 rfl rfl).mpr
    (Or.inl (by decide))

-- The second session releases the list of the first one.
theorem foreign_release_succeeds :
    Relation.ReflTransGen (CleanStep .byIndex) ([], Store.init) ([], twoSessionStore) ∧
      inventoryGetObject ObjectType.all 1 twoSessionStore = .ok 0 ∧
      inventoryGetSession 2 twoSessionStore = .ok 1 ∧
      twoSessionStore.externalCount 0 1 = 0 ∧
      (releaseObject .byIndex 1 2 twoSessionStore).1 = .success ∧
      ¬ Released [] 0 1 twoSessionStore (releaseObject .byIndex 1 2 twoSessionStore) := by
  refine ⟨twoSessionStore_steps, rfl, rfl, rfl, rfl, fun hreleased => ?_⟩
  have hheld := hreleased.success_iff.mp rfl
  have hnone : twoSessionStore.externalCount 0 1 = 0 := rfl
  omega

end Calls

end RedApid
