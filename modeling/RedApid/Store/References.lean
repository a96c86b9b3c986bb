import Mathlib.Logic.Relation
import RedApid.Memory.Ledger
import RedApid.Store.Cascade
import RedApid.Store.List

namespace RedApid

open Memory

def objectLedger : Ledger Object ExternalReference where
  list := Object.externalReferences
  count := Object.externalReferenceCount
  owner := ExternalReference.object
  weight := ExternalReference.count

def sessionLedger : Ledger Session ExternalReference where
  list := Session.externalReferences
  count := Session.externalReferenceCount
  owner := ExternalReference.session
  weight := ExternalReference.count

-- The entries are in the lists of their objects and of their sessions. The two counts at
-- an object and a session are off by the given amounts.
structure Store.Linked (object session : Nat → Int) (store : Store) : Prop where
  objects : objectLedger.Balanced object store.objects store.references
  sessions : sessionLedger.Balanced session store.sessions store.references
  unique : ∀ r r' e e', store.references.get r = some e → store.references.get r' = some e' →
    e.object = e'.object → e.session = e'.session → r = r'

-- The state between two operations.
structure Store.Counted (store : Store) : Prop where
  linked : store.Linked 0 0
  count_pos : ∀ r e, store.references.get r = some e → 1 ≤ e.count

section Balanced

variable {α ε : Type} {ledger : Ledger α ε} {off : Nat → Int} {owners : Heap α} {entries : Heap ε}

theorem balanced_modify_same (h : ledger.Balanced off owners entries) {p : Nat} {f : α → α}
    (hlist : ∀ a, ledger.list (f a) = ledger.list a)
    (hcount : ∀ a, ledger.count (f a) = ledger.count a) :
    ledger.Balanced off (owners.modify p f) entries := by
  have := h.modify_owner (p := p) hlist 0 (fun a => by rw [hcount a, Int.add_zero])
  rwa [Int.add_zero, Function.update_eq_self] at this

theorem update_zero (p : Nat) : Function.update (0 : Nat → Int) p 0 = 0 :=
  Function.update_eq_self p _

end Balanced

namespace Store.Linked

variable {objectOff sessionOff : Nat → Int} {store : Store} {object : ObjectRef}
  {session : SessionRef} {reference : ReferenceRef} {e : ExternalReference}

theorem init : Store.init.Linked objectOff sessionOff :=
  ⟨.empty, .empty, by simp [Store.init]⟩

theorem modifyObject (h : store.Linked objectOff sessionOff) {f : Object → Object}
    (hlist : ∀ o, (f o).externalReferences = o.externalReferences)
    (hcount : ∀ o, (f o).externalReferenceCount = o.externalReferenceCount) :
    (store.modifyObject object f).Linked objectOff sessionOff := by
  refine ⟨?_, ?_, ?_⟩
  · rw [modifyObject_objects, modifyObject_references]
    exact balanced_modify_same h.objects hlist hcount
  · rw [modifyObject_sessions, modifyObject_references]
    exact h.sessions
  · rw [modifyObject_references]
    exact h.unique

theorem modifySession (h : store.Linked objectOff sessionOff) {f : Session → Session}
    (hlist : ∀ s, (f s).externalReferences = s.externalReferences)
    (hcount : ∀ s, (f s).externalReferenceCount = s.externalReferenceCount) :
    (store.modifySession session f).Linked objectOff sessionOff := by
  refine ⟨?_, ?_, ?_⟩
  · rw [modifySession_objects, modifySession_references]
    exact h.objects
  · rw [modifySession_sessions, modifySession_references]
    exact balanced_modify_same h.sessions hlist hcount
  · rw [modifySession_references]
    exact h.unique

theorem countExternal (h : store.Linked objectOff sessionOff) (object : ObjectRef)
    (session : SessionRef) (amount : Int) :
    (store.countExternal object session amount).Linked
      (Function.update objectOff object (objectOff object + amount))
      (Function.update sessionOff session (sessionOff session + amount)) := by
  unfold Store.countExternal Store.countObject Store.countSession
  refine ⟨?_, ?_, ?_⟩
  · rw [modifySession_objects, modifyObject_objects, modifySession_references,
      modifyObject_references]
    exact h.objects.modify_owner (by intro _; rfl) amount (by intro _; rfl)
  · rw [modifySession_sessions, modifyObject_sessions, modifySession_references,
      modifyObject_references]
    exact h.sessions.modify_owner (by intro _; rfl) amount (by intro _; rfl)
  · rw [modifySession_references, modifyObject_references]
    exact h.unique

theorem countReference (h : store.Linked objectOff sessionOff) (amount : Int)
    (he : store.references.get reference = some e) :
    (store.countReference reference amount).Linked
      (Function.update objectOff e.object (objectOff e.object - amount))
      (Function.update sessionOff e.session (sessionOff e.session - amount)) := by
  refine ⟨h.objects.weigh he amount (fun _ => rfl) rfl,
    h.sessions.weigh he amount (fun _ => rfl) rfl, ?_⟩
  have hget : ∀ r e', (store.countReference reference amount).references.get r = some e' →
      ∃ e'', store.references.get r = some e'' ∧ e'.object = e''.object ∧
        e'.session = e''.session := by
    intro r e' he'
    simp only [Store.countReference, Heap.get_modify] at he'
    split_ifs at he'
    · obtain ⟨e'', he'', rfl⟩ := Option.map_eq_some_iff.mp he'
      exact ⟨e'', he'', rfl, rfl⟩
    · exact ⟨e', he', rfl, rfl⟩
  intro r r' e₁ e₂ h₁ h₂ hobject hsession
  obtain ⟨_, h₁, ho₁, hs₁⟩ := hget r e₁ h₁
  obtain ⟨_, h₂, ho₂, hs₂⟩ := hget r' e₂ h₂
  exact h.unique r r' _ _ h₁ h₂ (by rw [← ho₁, ← ho₂, hobject]) (by rw [← hs₁, ← hs₂, hsession])

theorem unlinkReference (h : store.Linked objectOff sessionOff)
    (he : store.references.get reference = some e) :
    (store.unlinkReference reference e.object e.session).Linked
      (Function.update objectOff e.object (objectOff e.object + e.count))
      (Function.update sessionOff e.session (sessionOff e.session + e.count)) := by
  unfold Store.unlinkReference Store.freeReference Store.unlinkSession Store.unlinkObject
  refine ⟨?_, ?_, ?_⟩
  · rw [modifySession_objects, modifyObject_objects, modifySession_references,
      modifyObject_references]
    exact h.objects.remove he rfl (fun _ => rfl) (fun _ => rfl)
  · rw [modifySession_sessions, modifyObject_sessions, modifySession_references,
      modifyObject_references]
    exact h.sessions.remove he rfl (fun _ => rfl) (fun _ => rfl)
  · rw [modifySession_references, modifyObject_references]
    intro r r' e₁ e₂ h₁ h₂
    rw [Heap.get_free] at h₁ h₂
    split_ifs at h₁ h₂
    exact h.unique r r' e₁ e₂ h₁ h₂

theorem dropReference (h : store.Linked objectOff sessionOff)
    (he : store.references.get reference = some e) :
    (store.dropReference reference e.object e.session e.count).Linked objectOff sessionOff := by
  have := (h.unlinkReference he).countExternal e.object e.session (-e.count)
  simpa [Store.dropReference] using this

theorem createReference (h : store.Linked objectOff sessionOff)
    (hobject : store.objects.get object ≠ none) (hsession : store.sessions.get session ≠ none)
    (hnew : ∀ r e, store.references.get r = some e → ¬ (e.object = object ∧ e.session = session)) :
    (store.createReference object session).Linked objectOff sessionOff := by
  obtain ⟨o, ho⟩ := Option.ne_none_iff_exists'.mp hobject
  obtain ⟨s, hs⟩ := Option.ne_none_iff_exists'.mp hsession
  have hlinked : (((store.callocReference object session).linkObject store.references.next
      object).linkSession store.references.next session).Linked
      (Function.update objectOff object (objectOff object - 1))
      (Function.update sessionOff session (sessionOff session - 1)) := by
    unfold Store.linkSession Store.linkObject Store.callocReference
    refine ⟨?_, ?_, ?_⟩
    · rw [modifySession_objects, modifyObject_objects, modifySession_references,
        modifyObject_references]
      exact h.objects.insert (e := ⟨object, session, 1⟩) rfl ho (fun _ => rfl) (fun _ => rfl)
    · rw [modifySession_sessions, modifyObject_sessions, modifySession_references,
        modifyObject_references]
      exact h.sessions.insert (e := ⟨object, session, 1⟩) rfl hs (fun _ => rfl) (fun _ => rfl)
    · rw [modifySession_references, modifyObject_references]
      intro r r' e₁ e₂ h₁ h₂ hobject hsession
      rw [Heap.get_alloc] at h₁ h₂
      split_ifs at h₁ h₂ with hr hr' hr'
      · rw [hr, hr']
      · cases h₁
        exact absurd ⟨hobject.symm, hsession.symm⟩ (hnew r' e₂ h₂)
      · cases h₂
        exact absurd ⟨hobject, hsession⟩ (hnew r e₁ h₁)
      · exact h.unique r r' e₁ e₂ h₁ h₂ hobject hsession
  have := hlinked.countExternal object session 1
  simpa [Store.createReference] using this

-- The walk through the list of an object finds its entry for a session.
theorem findReference_some (h : store.Linked objectOff sessionOff)
    (hfind : store.findReference object session = some reference) :
    ∃ e, store.references.get reference = some e ∧ e.object = object ∧ e.session = session := by
  obtain ⟨o, ho, hfind⟩ := Option.bind_eq_some_iff.mp hfind
  have hmem := List.mem_of_find?_eq_some hfind
  obtain ⟨e, he, howner⟩ := (h.objects.mem_iff object o ho reference).mp hmem
  refine ⟨e, he, howner, ?_⟩
  have := List.find?_some hfind
  simpa [he] using this

theorem findReference_none (h : store.Linked objectOff sessionOff)
    (hlive : store.objects.get object ≠ none)
    (hfind : store.findReference object session = none) :
    ∀ r e, store.references.get r = some e → ¬ (e.object = object ∧ e.session = session) := by
  rintro r e he ⟨hobject, hsession⟩
  obtain ⟨o, ho⟩ := Option.ne_none_iff_exists'.mp hlive
  have hmem := (h.objects.mem_iff object o ho r).mpr ⟨e, he, hobject⟩
  simp only [Store.findReference, ho, Option.bind_some, List.find?_eq_none] at hfind
  exact hfind r hmem (by simp [he, hsession])

end Store.Linked

@[simp] theorem Store.countExternal_references (store : Store) (object : ObjectRef)
    (session : SessionRef) (amount : Int) :
    (store.countExternal object session amount).references = store.references := by
  simp [Store.countExternal, Store.countObject, Store.countSession]

@[simp] theorem Store.unlinkReference_references (store : Store) (reference : ReferenceRef)
    (object : ObjectRef) (session : SessionRef) :
    (store.unlinkReference reference object session).references =
      store.references.free reference := by
  simp [Store.unlinkReference, Store.freeReference, Store.unlinkSession, Store.unlinkObject]

@[simp] theorem Store.dropReference_references (store : Store) (reference : ReferenceRef)
    (object : ObjectRef) (session : SessionRef) (count : Int) :
    (store.dropReference reference object session count).references =
      store.references.free reference := by
  simp [Store.dropReference]

@[simp] theorem Store.createReference_references (store : Store) (object : ObjectRef)
    (session : SessionRef) :
    (store.createReference object session).references =
      store.references.alloc ⟨object, session, 1⟩ := by
  simp [Store.createReference, Store.linkSession, Store.linkObject, Store.callocReference]

namespace Store.Counted

variable {store : Store} {object : ObjectRef} {session : SessionRef} {reference : ReferenceRef}
  {e : ExternalReference}

theorem init : Store.init.Counted := ⟨.init, by simp [Store.init]⟩

theorem congr {other : Store} (h : store.Counted) (hobjects : other.objects = store.objects)
    (hsessions : other.sessions = store.sessions)
    (hreferences : other.references = store.references) : other.Counted := by
  refine ⟨⟨?_, ?_, ?_⟩, ?_⟩
  · rw [hobjects, hreferences]
    exact h.linked.objects
  · rw [hsessions, hreferences]
    exact h.linked.sessions
  · rw [hreferences]
    exact h.linked.unique
  · rw [hreferences]
    exact h.count_pos

theorem modifyObject (h : store.Counted) {f : Object → Object}
    (hlist : ∀ o, (f o).externalReferences = o.externalReferences)
    (hcount : ∀ o, (f o).externalReferenceCount = o.externalReferenceCount) :
    (store.modifyObject object f).Counted := by
  refine ⟨h.linked.modifyObject hlist hcount, ?_⟩
  rw [modifyObject_references]
  exact h.count_pos

theorem modifySession (h : store.Counted) {f : Session → Session}
    (hlist : ∀ s, (f s).externalReferences = s.externalReferences)
    (hcount : ∀ s, (f s).externalReferenceCount = s.externalReferenceCount) :
    (store.modifySession session f).Counted := by
  refine ⟨h.linked.modifySession hlist hcount, ?_⟩
  rw [modifySession_references]
  exact h.count_pos

theorem dropReference (h : store.Counted) (he : store.references.get reference = some e) :
    (store.dropReference reference e.object e.session e.count).Counted := by
  refine ⟨h.linked.dropReference he, ?_⟩
  intro r e' he'
  rw [dropReference_references, Heap.get_free] at he'
  split_ifs at he'
  exact h.count_pos r e' he'

theorem addExternalReference (h : store.Counted) (calloc : Bool) (object : ObjectRef)
    (session : SessionRef) : (objectAddExternalReference calloc object session store).2.Counted := by
  unfold objectAddExternalReference
  split
  · exact h.congr rfl rfl rfl
  · rename_i hfreed
    rw [not_or] at hfreed
    cases hfind : store.findReference object session with
    | some reference =>
        obtain ⟨e, he, hobject, hsession⟩ := h.linked.findReference_some hfind
        refine ⟨?_, ?_⟩
        · have := (h.linked.countReference 1 he).countExternal object session 1
          simpa [hobject, hsession, update_zero] using this
        · simp only [countExternal_references]
          intro r e' he'
          simp only [Store.countReference, Heap.get_modify] at he'
          split_ifs at he'
          · obtain ⟨e'', he'', rfl⟩ := Option.map_eq_some_iff.mp he'
            have := h.count_pos r e'' he''
            simp only
            omega
          · exact h.count_pos r e' he'
    | none =>
        cases calloc with
        | false => exact h
        | true =>
            refine ⟨h.linked.createReference hfreed.1 hfreed.2
              (h.linked.findReference_none hfreed.1 hfind), ?_⟩
            intro r e he
            change (store.createReference object session).references.get r = some e at he
            rw [createReference_references, Heap.get_alloc] at he
            split_ifs at he
            · cases he
              exact Int.le_refl 1
            · exact h.count_pos r e he

theorem releaseReference (h : store.Counted) (he : store.references.get reference = some e) :
    (store.releaseReference reference e.object e.session).Counted := by
  have hlinked : ((store.countReference reference (-1)).countExternal e.object e.session (-1)).Linked
      0 0 := by
    have := (h.linked.countReference (-1) he).countExternal e.object e.session (-1)
    simpa [update_zero] using this
  have hget : ((store.countReference reference (-1)).countExternal e.object e.session
      (-1)).references.get reference = some { e with count := e.count + -1 } := by
    simp [Store.countReference, he]
  have hother : ∀ r e', r ≠ reference →
      ((store.countReference reference (-1)).countExternal e.object e.session
        (-1)).references.get r = some e' → 1 ≤ e'.count := by
    intro r e' hr he'
    rw [countExternal_references] at he'
    simp only [Store.countReference, Heap.get_modify, if_neg hr] at he'
    exact h.count_pos r e' he'
  unfold Store.releaseReference
  simp only [hget, Option.map_some, Option.some.injEq]
  split_ifs with hzero
  · refine ⟨?_, ?_⟩
    · have := hlinked.unlinkReference hget
      simpa [hzero, update_zero] using this
    · intro r e' he'
      rw [unlinkReference_references, Heap.get_free] at he'
      split_ifs at he' with hr
      exact hother r e' hr he'
  · refine ⟨hlinked, ?_⟩
    intro r e' he'
    by_cases hr : r = reference
    · rw [hr, hget] at he'
      cases he'
      have := h.count_pos reference e he
      simp only
      omega
    · exact hother r e' hr he'

end Store.Counted

end RedApid
