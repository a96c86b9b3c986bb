import RedApid.Store.Soundness

namespace RedApid

open Memory

-- How many external references a session has to an object.
def Store.externalCount (store : Store) (object : ObjectRef) (session : SessionRef) : Int :=
  ((store.findReference object session).bind store.references.get).elim 0 (·.count)

section Counts

variable {store other : Store} {object p : ObjectRef} {session s : SessionRef}
  {reference : ReferenceRef} {e : ExternalReference}

namespace Store.Counted

theorem entry_of_externalCount (h : store.Counted) (hcount : store.externalCount object session ≠ 0) :
    ∃ r e, store.findReference object session = some r ∧ store.references.get r = some e ∧
      e.object = object ∧ e.session = session ∧ e.count = store.externalCount object session := by
  unfold externalCount at hcount ⊢
  cases hfind : store.findReference object session with
  | none =>
      rw [hfind] at hcount
      exact absurd rfl hcount
  | some r =>
      obtain ⟨e, he, hobject, hsession⟩ := h.linked.findReference_some hfind
      refine ⟨r, e, rfl, he, hobject, hsession, ?_⟩
      rw [Option.bind_some, he]
      rfl

theorem externalCount_of_entry (h : store.Counted) (he : store.references.get reference = some e) :
    store.findReference e.object e.session = some reference ∧
      store.externalCount e.object e.session = e.count := by
  unfold externalCount
  cases hfind : store.findReference e.object e.session with
  | none =>
      exact absurd ⟨rfl, rfl⟩
        (h.linked.findReference_none (h.linked.objects.owner_live reference e he) hfind reference e he)
  | some r =>
      obtain ⟨e', he', hobject, hsession⟩ := h.linked.findReference_some hfind
      have hsame := h.linked.unique r reference e' e he' he hobject hsession
      subst hsame
      refine ⟨rfl, ?_⟩
      rw [Option.bind_some, he]
      rfl

theorem externalCount_eq_zero (h : store.Counted)
    (hnone : ∀ r e, store.references.get r = some e → ¬ (e.object = object ∧ e.session = session)) :
    store.externalCount object session = 0 := by
  by_contra hcount
  obtain ⟨r, e, -, he, hobject, hsession, -⟩ := h.entry_of_externalCount hcount
  exact hnone r e he ⟨hobject, hsession⟩

theorem externalCount_nonneg (h : store.Counted) (object : ObjectRef) (session : SessionRef) :
    0 ≤ store.externalCount object session := by
  by_cases hcount : store.externalCount object session = 0
  · omega
  · obtain ⟨r, e, -, he, -, -, hsame⟩ := h.entry_of_externalCount hcount
    have := h.count_pos r e he
    omega

-- The same entries count for the same.
theorem externalCount_congr (h : store.Counted) (h' : other.Counted)
    (hentries : ∀ r e, e.object = object ∧ e.session = session →
      (other.references.get r = some e ↔ store.references.get r = some e)) :
    other.externalCount object session = store.externalCount object session := by
  by_cases hcount : store.externalCount object session = 0
  · rw [hcount]
    refine h'.externalCount_eq_zero fun r e he hsame => ?_
    have he' := (hentries r e hsame).mp he
    have hpos := h.count_pos r e he'
    have heq := (h.externalCount_of_entry he').2
    rw [hsame.1, hsame.2, hcount] at heq
    omega
  · obtain ⟨r, e, -, he, hobject, hsession, heq⟩ := h.entry_of_externalCount hcount
    have he' := (hentries r e ⟨hobject, hsession⟩).mpr he
    have := (h'.externalCount_of_entry he').2
    rw [hobject, hsession] at this
    rw [this, heq]

theorem weight_pos (h : store.Counted) {o : Object} (ho : store.objects.get p = some o) :
    ∀ count ∈ o.externalReferences.map (objectLedger.weightAt store.references), 1 ≤ count := by
  intro count hcount
  obtain ⟨r, hr, rfl⟩ := List.mem_map.mp hcount
  obtain ⟨e, he, -⟩ := (h.linked.objects.mem_iff p o ho r).mp hr
  unfold Ledger.weightAt
  rw [he]
  exact h.count_pos r e he

theorem count_eq (h : store.Counted) {o : Object} (ho : store.objects.get p = some o) :
    o.externalReferenceCount =
      (o.externalReferences.map (objectLedger.weightAt store.references)).sum :=
  (h.linked.objects.count_eq p o ho).trans (Int.add_zero _)

-- No single session has more references than all together.
theorem externalCount_le (h : store.Counted) {o : Object} (ho : store.objects.get object = some o)
    (session : SessionRef) : store.externalCount object session ≤ o.externalReferenceCount := by
  rw [h.count_eq ho]
  have hnonneg : ∀ count ∈ o.externalReferences.map (objectLedger.weightAt store.references),
      0 ≤ count := by
    intro count hcount
    have := h.weight_pos ho count hcount
    omega
  by_cases hcount : store.externalCount object session = 0
  · rw [hcount]
    exact List.sum_nonneg hnonneg
  · obtain ⟨r, e, -, he, hobject, -, heq⟩ := h.entry_of_externalCount hcount
    have hr := (h.linked.objects.mem_iff object o ho r).mpr ⟨e, he, hobject⟩
    have hle := List.single_le_sum hnonneg _ (List.mem_map_of_mem hr)
    unfold Ledger.weightAt at hle ⊢
    rw [he] at hle
    rw [← heq]
    exact hle

-- An object without external references has no entries.
theorem externalReferences_eq_nil (h : store.Counted) {o : Object}
    (ho : store.objects.get object = some o) (hzero : o.externalReferenceCount = 0) :
    o.externalReferences = [] := by
  have hsum := h.count_eq ho
  have hpos := h.weight_pos ho
  cases hlist : o.externalReferences with
  | nil => rfl
  | cons r rest =>
      rw [hlist, List.map_cons] at hpos hsum
      rw [List.sum_cons] at hsum
      have hhead := hpos _ List.mem_cons_self
      have htail : 0 ≤ (rest.map (objectLedger.weightAt store.references)).sum := by
        refine List.sum_nonneg fun count hcount => ?_
        have := hpos count (List.mem_cons_of_mem _ hcount)
        omega
      omega

end Store.Counted

end Counts

section Transfers

variable {store other last : Store} {object : ObjectRef} {session : SessionRef}
  {reference : ReferenceRef} {e : ExternalReference} {o : Object}
  {delta delta' : ObjectRef → Int} {total total' : Int}

theorem releaseReference_clients (he : store.references.get reference = some e)
    (session : SessionRef) (object : ObjectRef) :
    (∀ s, s ≠ session → (store.releaseReference reference object session).sessions.get s =
      store.sessions.get s) ∧
    (∀ s, store.sessions.get session = some s →
      ∃ s', (store.releaseReference reference object session).sessions.get session = some s' ∧
        s'.externalReferenceCount = s.externalReferenceCount - 1) ∧
    (∀ r, r ≠ reference → (store.releaseReference reference object session).references.get r =
      store.references.get r) ∧
    (store.releaseReference reference object session).references.get reference =
      if e.count = 1 then none else some { e with count := e.count - 1 } := by
  have hreference : ((store.countReference reference (-1)).countExternal object session
      (-1)).references.get reference = some { e with count := e.count + -1 } := by
    simp [Store.countReference, he]
  have hothers : ∀ r, r ≠ reference → ((store.countReference reference (-1)).countExternal object
      session (-1)).references.get r = store.references.get r := by
    intro r hr
    simp [Store.countReference, Heap.get_modify_ne hr]
  have hsessions : ∀ s, ((store.countReference reference (-1)).countExternal object session
      (-1)).sessions.get s = if s = session then (store.sessions.get s).map fun s =>
        { s with externalReferenceCount := s.externalReferenceCount + -1 } else
        store.sessions.get s := by
    intro s
    simp only [Store.countExternal, Store.countSession, Store.countObject, Store.countReference,
      Store.modifySession_sessions, Store.modifyObject_sessions, Heap.get_modify]
  unfold Store.releaseReference
  simp only [hreference, Option.map_some, Option.some.injEq]
  by_cases hlast : e.count = 1
  · rw [if_pos (by omega), if_pos hlast]
    have hunlinked : ∀ s, (((store.countReference reference (-1)).countExternal object session
        (-1)).unlinkReference reference object session).sessions.get s = if s = session then
          (store.sessions.get s).map fun s => { s with
            externalReferences := s.externalReferences.erase reference
            externalReferenceCount := s.externalReferenceCount + -1 } else
          store.sessions.get s := by
      intro s
      simp only [Store.unlinkReference, Store.freeReference, Store.unlinkSession,
        Store.unlinkObject, Store.modifySession_sessions, Store.modifyObject_sessions,
        Heap.get_modify, hsessions]
      split_ifs
      · rw [Option.map_map]
        rfl
      · rfl
    refine ⟨fun s hs => by rw [hunlinked, if_neg hs], fun s hs => ?_, fun r hr => ?_, ?_⟩
    · rw [hunlinked, if_pos rfl, hs]
      exact ⟨_, rfl, rfl⟩
    · rw [Store.unlinkReference_references, Heap.get_free_ne hr, hothers r hr]
    · rw [Store.unlinkReference_references, Heap.get_free_self]
  · rw [if_neg (by omega), if_neg hlast, hreference]
    refine ⟨fun s hs => by rw [hsessions, if_neg hs], fun s hs => ?_, hothers, rfl⟩
    rw [hsessions, if_pos rfl, hs]
    exact ⟨_, rfl, rfl⟩

-- Some session holds an object that has external references.
theorem Store.Counted.external_eq_zero_iff (h : store.Counted)
    (ho : store.objects.get object = some o) :
    o.externalReferenceCount = 0 ↔ ∀ s, store.externalCount object s = 0 := by
  constructor
  · intro hzero s
    have hle := h.externalCount_le ho s
    have hnonneg := h.externalCount_nonneg object s
    omega
  · intro hnone
    rw [h.count_eq ho]
    cases hlist : o.externalReferences with
    | nil => rfl
    | cons r rest =>
        have hmem : r ∈ o.externalReferences := by
          rw [hlist]
          exact List.mem_cons_self
        obtain ⟨e, he, rfl⟩ := (h.linked.objects.mem_iff object o ho r).mp hmem
        have hcount := (h.externalCount_of_entry he).2
        have hpos := h.count_pos r e he
        have hzero := hnone e.session
        change store.externalCount e.object e.session = 0 at hzero
        omega

-- The session gains so many references to each object, `total` in all. Nothing else changes.
structure Store.Transfers (session : SessionRef) (delta : ObjectRef → Int) (total : Int)
    (store other : Store) : Prop where
  internals : store.SameInternals other
  counted : other.Counted
  count : ∀ p s, other.externalCount p s =
    store.externalCount p s + if s = session then delta p else 0
  object_count : ∀ p o', other.objects.get p = some o' → ∃ o, store.objects.get p = some o ∧
    o'.externalReferenceCount = o.externalReferenceCount + delta p
  session_count : ∀ p s', other.sessions.get p = some s' → ∃ s, store.sessions.get p = some s ∧
    s'.externalReferenceCount = s.externalReferenceCount + if p = session then total else 0

namespace Store.Transfers

theorem congr (session : SessionRef) (hcounted : store.Counted) (hsame : store.SameInternals other)
    (hobjects : other.objects = store.objects) (hsessions : other.sessions = store.sessions)
    (hreferences : other.references = store.references) : store.Transfers session 0 0 other := by
  have hcounted' := hcounted.congr hobjects hsessions hreferences
  refine ⟨hsame, hcounted', fun p s => ?_, fun p o ho => ?_, fun p s hs => ?_⟩
  · rw [hcounted.externalCount_congr hcounted' fun r e _ => by rw [hreferences]]
    simp
  · exact ⟨o, hobjects ▸ ho, by simp⟩
  · exact ⟨s, hsessions ▸ hs, by simp⟩

theorem refl (session : SessionRef) (h : store.Counted) : store.Transfers session 0 0 store :=
  congr session h (.refl store) rfl rfl rfl

theorem trans (h : store.Transfers session delta total other)
    (h' : other.Transfers session delta' total' last) :
    store.Transfers session (delta + delta') (total + total') last := by
  refine ⟨h.internals.trans h'.internals, h'.counted, fun p s => ?_, fun p o'' ho'' => ?_,
    fun p s'' hs'' => ?_⟩
  · rw [h'.count, h.count, Pi.add_apply]
    split_ifs <;> omega
  · obtain ⟨o', ho', hcount'⟩ := h'.object_count p o'' ho''
    obtain ⟨o, ho, hcount⟩ := h.object_count p o' ho'
    refine ⟨o, ho, ?_⟩
    rw [hcount', hcount, Pi.add_apply]
    omega
  · obtain ⟨s', hs', hcount'⟩ := h'.session_count p s'' hs''
    obtain ⟨s, hs, hcount⟩ := h.session_count p s' hs'
    refine ⟨s, hs, ?_⟩
    rw [hcount', hcount]
    split_ifs <;> omega

-- One entry changes, or is made, by so much.
theorem of_entry {amount : Int} (hsame : store.SameInternals other) (hcounted : store.Counted)
    (hcounted' : other.Counted)
    (hcount : other.externalCount object session = store.externalCount object session + amount)
    (hentries : ∀ r e, ¬ (e.object = object ∧ e.session = session) →
      (other.references.get r = some e ↔ store.references.get r = some e))
    (hothers : ∀ p, p ≠ object → other.objects.get p = store.objects.get p)
    (hobject : ∀ o', other.objects.get object = some o' → ∃ o, store.objects.get object = some o ∧
      o'.externalReferenceCount = o.externalReferenceCount + amount)
    (hsessions : ∀ s, s ≠ session → other.sessions.get s = store.sessions.get s)
    (hsession : ∀ s', other.sessions.get session = some s' →
      ∃ s, store.sessions.get session = some s ∧
        s'.externalReferenceCount = s.externalReferenceCount + amount) :
    store.Transfers session (Pi.single object amount) amount other := by
  refine ⟨hsame, hcounted', fun p s => ?_, fun p o' ho' => ?_, fun p s' hs' => ?_⟩
  · by_cases hown : p = object ∧ s = session
    · obtain ⟨rfl, rfl⟩ := hown
      rw [hcount, if_pos rfl, Pi.single_eq_same]
    · have hkept : other.externalCount p s = store.externalCount p s := by
        refine hcounted.externalCount_congr hcounted' fun r e hentry => hentries r e ?_
        rwa [hentry.1, hentry.2]
      rw [hkept]
      split_ifs with hs
      · have hp : p ≠ object := fun hp => hown ⟨hp, hs⟩
        rw [Pi.single_eq_of_ne hp, Int.add_zero]
      · rw [Int.add_zero]
  · by_cases hp : p = object
    · subst hp
      rw [Pi.single_eq_same]
      exact hobject o' ho'
    · rw [hothers p hp] at ho'
      exact ⟨o', ho', by rw [Pi.single_eq_of_ne hp, Int.add_zero]⟩
  · by_cases hp : p = session
    · subst hp
      rw [if_pos rfl]
      exact hsession s' hs'
    · rw [hsessions p hp] at hs'
      exact ⟨s', hs', by rw [if_neg hp, Int.add_zero]⟩

-- The session gives back a reference that it has.
theorem releaseReference (h : store.Counted) (he : store.references.get reference = some e)
    (hobject : e.object = object) (hsession : e.session = session) :
    store.Transfers session (Pi.single object (-1)) (-1)
      (store.releaseReference reference object session) := by
  have hcounted : (store.releaseReference reference object session).Counted := by
    rw [← hobject, ← hsession]
    exact h.releaseReference he
  obtain ⟨hothers, hreleased⟩ := Collecting.releaseReference_get reference object session store
  obtain ⟨hsessions, hdropped, hreferences, hentry⟩ := releaseReference_clients he session object
  refine of_entry (.releaseReference store reference object session) h hcounted ?_
    (fun r e' hother => ?_) hothers (fun o' ho' => ?_) hsessions fun s' hs' => ?_
  · have heq := (h.externalCount_of_entry he).2
    rw [hobject, hsession] at heq
    by_cases hone : e.count = 1
    · rw [if_pos hone] at hentry
      rw [hcounted.externalCount_eq_zero]
      · omega
      · rintro r e' he' ⟨hobject', hsession'⟩
        by_cases hr : r = reference
        · rw [hr, hentry] at he'
          cases he'
        · rw [hreferences r hr] at he'
          exact hr (h.linked.unique r reference e' e he' he (hobject'.trans hobject.symm)
            (hsession'.trans hsession.symm))
    · rw [if_neg hone] at hentry
      have hkeeps := (hcounted.externalCount_of_entry hentry).2
      simp only [hobject, hsession] at hkeeps
      rw [hkeeps, heq]
      rfl
  · by_cases hr : r = reference
    · -- the entry that was changed belongs to the session that releases
      have hown : ∀ e'' : ExternalReference, e''.object = object → e''.session = session →
          e'' ≠ e' := by
        rintro e'' hobject' hsession' rfl
        exact hother ⟨hobject', hsession'⟩
      rw [hr, he, hentry]
      refine ⟨fun hnew => ?_, fun hold => ?_⟩
      · split at hnew
        · cases hnew
        · exact absurd (Option.some.inj hnew) (hown _ hobject hsession)
      · exact absurd (Option.some.inj hold) (hown e hobject hsession)
    · rw [hreferences r hr]
  · have howner := h.linked.objects.owner_live reference e he
    change store.objects.get e.object ≠ none at howner
    rw [hobject] at howner
    obtain ⟨o, ho⟩ := Option.ne_none_iff_exists'.mp howner
    obtain ⟨o'', ho'', -, hcount⟩ := hreleased o ho
    rw [ho'] at ho''
    cases ho''
    exact ⟨o, ho, hcount⟩
  · have howner := h.linked.sessions.owner_live reference e he
    change store.sessions.get e.session ≠ none at howner
    rw [hsession] at howner
    obtain ⟨s, hs⟩ := Option.ne_none_iff_exists'.mp howner
    obtain ⟨s'', hs'', hcount⟩ := hdropped s hs
    rw [hs'] at hs''
    cases hs''
    exact ⟨s, hs, hcount⟩

theorem countReference (h : store.Counted) (he : store.references.get reference = some e)
    (hobject : e.object = object) (hsession : e.session = session)
    (hcounted : ((store.countReference reference 1).countExternal object session 1).Counted)
    (hsame : store.SameInternals ((store.countReference reference 1).countExternal object session 1)) :
    store.Transfers session (Pi.single object 1) 1
      ((store.countReference reference 1).countExternal object session 1) := by
  have hreferences : ∀ r, ((store.countReference reference 1).countExternal object session
      1).references.get r = if r = reference then some { e with count := e.count + 1 } else
        store.references.get r := by
    intro r
    rw [countExternal_references, Store.countReference, Heap.get_modify]
    split_ifs with hr
    · rw [hr, he]
      rfl
    · rfl
  have hobjects : ∀ p, ((store.countReference reference 1).countExternal object session
      1).objects.get p = if p = object then (store.objects.get p).map fun o =>
        { o with externalReferenceCount := o.externalReferenceCount + 1 } else
        store.objects.get p := by
    intro p
    simp only [Store.countExternal, Store.countSession, Store.countObject, Store.countReference,
      Store.modifySession_objects, Store.modifyObject_objects, Heap.get_modify]
  have hsessions : ∀ s, ((store.countReference reference 1).countExternal object session
      1).sessions.get s = if s = session then (store.sessions.get s).map fun s =>
        { s with externalReferenceCount := s.externalReferenceCount + 1 } else
        store.sessions.get s := by
    intro s
    simp only [Store.countExternal, Store.countSession, Store.countObject, Store.countReference,
      Store.modifySession_sessions, Store.modifyObject_sessions, Heap.get_modify]
  refine of_entry hsame h hcounted ?_ (fun r e' hother => ?_) (fun p hp => by rw [hobjects, if_neg hp])
    (fun o' ho' => ?_) (fun s hs => by rw [hsessions, if_neg hs]) fun s' hs' => ?_
  · have hentry := hreferences reference
    rw [if_pos rfl] at hentry
    have hnew := (hcounted.externalCount_of_entry hentry).2
    have hold := (h.externalCount_of_entry he).2
    simp only [hobject, hsession] at hnew hold
    rw [hnew, hold]
  · rw [hreferences]
    split_ifs with hr
    · have hown : ∀ e'' : ExternalReference, e''.object = object → e''.session = session →
          e'' ≠ e' := by
        rintro e'' hobject' hsession' rfl
        exact hother ⟨hobject', hsession'⟩
      rw [hr, he]
      exact ⟨fun hnew => absurd (Option.some.inj hnew) (hown _ hobject hsession),
        fun hold => absurd (Option.some.inj hold) (hown e hobject hsession)⟩
    · rfl
  · rw [hobjects, if_pos rfl] at ho'
    obtain ⟨o, ho, rfl⟩ := Option.map_eq_some_iff.mp ho'
    exact ⟨o, ho, rfl⟩
  · rw [hsessions, if_pos rfl] at hs'
    obtain ⟨s, hs, rfl⟩ := Option.map_eq_some_iff.mp hs'
    exact ⟨s, hs, rfl⟩

theorem createReference (h : store.Counted) (hnone : store.findReference object session = none)
    (hcounted : (store.createReference object session).Counted)
    (hsame : store.SameInternals (store.createReference object session)) :
    store.Transfers session (Pi.single object 1) 1 (store.createReference object session) := by
  have hreferences : ∀ r, (store.createReference object session).references.get r =
      if r = store.references.next then some ⟨object, session, 1⟩ else store.references.get r := by
    intro r
    rw [createReference_references, Heap.get_alloc]
  have hobjects : ∀ p, (store.createReference object session).objects.get p =
      if p = object then (store.objects.get p).map fun o => { o with
        externalReferences := o.externalReferences ++ [store.references.next]
        externalReferenceCount := o.externalReferenceCount + 1 } else store.objects.get p := by
    intro p
    simp only [Store.createReference, Store.countExternal, Store.countSession, Store.countObject,
      Store.linkSession, Store.linkObject, Store.callocReference, Store.modifySession_objects,
      Store.modifyObject_objects, Heap.get_modify]
    split_ifs
    · rw [Option.map_map]
      rfl
    · rfl
  have hsessions : ∀ s, (store.createReference object session).sessions.get s =
      if s = session then (store.sessions.get s).map fun s => { s with
        externalReferences := s.externalReferences ++ [store.references.next]
        externalReferenceCount := s.externalReferenceCount + 1 } else store.sessions.get s := by
    intro s
    simp only [Store.createReference, Store.countExternal, Store.countSession, Store.countObject,
      Store.linkSession, Store.linkObject, Store.callocReference, Store.modifySession_sessions,
      Store.modifyObject_sessions, Heap.get_modify]
    split_ifs
    · rw [Option.map_map]
      rfl
    · rfl
  refine of_entry hsame h hcounted ?_ (fun r e' hother => ?_) (fun p hp => by rw [hobjects, if_neg hp])
    (fun o' ho' => ?_) (fun s hs => by rw [hsessions, if_neg hs]) fun s' hs' => ?_
  · have hentry := hreferences store.references.next
    rw [if_pos rfl] at hentry
    rw [(hcounted.externalCount_of_entry hentry).2, externalCount, hnone]
    rfl
  · rw [hreferences]
    split_ifs with hr
    · rw [hr, Heap.get_eq_none_of_next_le _ (Nat.le_refl _)]
      refine ⟨fun hnew => ?_, fun hold => by cases hold⟩
      cases hnew
      exact absurd ⟨rfl, rfl⟩ hother
    · rfl
  · rw [hobjects, if_pos rfl] at ho'
    obtain ⟨o, ho, rfl⟩ := Option.map_eq_some_iff.mp ho'
    exact ⟨o, ho, rfl⟩
  · rw [hsessions, if_pos rfl] at hs'
    obtain ⟨s, hs, rfl⟩ := Option.map_eq_some_iff.mp hs'
    exact ⟨s, hs, rfl⟩

-- The session gains a reference, or the call fails and nothing changes.
theorem addExternalReference (calloc : Bool) (object : ObjectRef) (session : SessionRef)
    (h : store.Counted) :
    let result := objectAddExternalReference calloc object session store
    (result.1 = .success → store.Transfers session (Pi.single object 1) 1 result.2) ∧
      (result.1 ≠ .success → store.Transfers session 0 0 result.2) := by
  have hcounted := h.addExternalReference calloc object session
  have hsame := SameInternals.objectAddExternalReference calloc object session store
  simp only
  unfold objectAddExternalReference at hcounted hsame ⊢
  by_cases hfreed : store.objects.get object = none ∨ store.sessions.get session = none
  · simp only [if_pos hfreed] at hsame ⊢
    exact ⟨fun hcode => (by cases hcode), fun _ => congr session h hsame rfl rfl rfl⟩
  simp only [if_neg hfreed] at hcounted hsame ⊢
  cases hfind : store.findReference object session with
  | some reference =>
      obtain ⟨e, he, hobject, hsession⟩ := h.linked.findReference_some hfind
      simp only [hfind] at hcounted hsame ⊢
      exact ⟨fun _ => countReference h he hobject hsession hcounted hsame, fun hne => absurd rfl hne⟩
  | none =>
      simp only [hfind] at hcounted hsame ⊢
      cases calloc with
      | false => exact ⟨fun hcode => (by cases hcode), fun _ => refl session h⟩
      | true =>
          exact ⟨fun _ => createReference h hfind hcounted hsame, fun hne => absurd rfl hne⟩

-- An object that is also held internally survives the loss of an external reference.
theorem removeExternalReference {array : ArrayRemove} (h : store.Counted)
    (ho : store.objects.get object = some o) (hinternal : o.internalReferenceCount ≠ 0)
    (hheld : 1 ≤ store.externalCount object session) :
    store.Transfers session (Pi.single object (-1)) (-1)
      (objectRemoveExternalReference array object session store) := by
  have hcount : store.externalCount object session ≠ 0 := by omega
  obtain ⟨reference, e, hfind, he, hobject, hsession, -⟩ := h.entry_of_externalCount hcount
  have hle := h.externalCount_le ho session
  have hexternal : ¬ o.externalReferenceCount = 0 := by omega
  have hlast : ¬ (o.internalReferenceCount = 0 ∧ o.externalReferenceCount - 1 = 0) := by omega
  have hremove : objectRemoveExternalReference array object session store =
      store.releaseReference reference object session := by
    simp only [objectRemoveExternalReference, ho, if_neg hexternal, hfind, if_neg hlast]
  rw [hremove]
  exact releaseReference h he hobject hsession

end Store.Transfers

end Transfers

end RedApid
