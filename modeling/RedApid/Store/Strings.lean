import RedApid.Config.Text
import RedApid.Memory.Text
import RedApid.Store.Cleanup
import RedApid.String.Bounds

namespace RedApid

open Memory

-- The outcomes of the calls in string_asprintf and string_wrap that can fail: the memory of the
-- buffer, of the String, and object_create.
structure StringOutcome where
  memory : Allocation
  calloc : Bool
  objectCreate : ObjectCreation

section Functions

variable (grow : GrowAllocation) (outcome : StringOutcome)

-- What string_asprintf and string_wrap have in common.
def Store.createString (created : Except APIE StringObject) (session : Option SessionRef)
    (flags : UInt32) (store : Store) : Except APIE ObjectRef × Store :=
  match created with
  | .error code => (.error code, store)
  | .ok string => store.createObject outcome.objectCreate (.string string) session flags

-- `formatted` is what vasprintf makes of the format, unless it gets no memory.
def stringAsprintfObject (formatted : CString) (session : Option SessionRef) (flags : UInt32)
    (store : Store) : Except APIE ObjectRef × Store :=
  store.createString outcome
    (stringAsprintf grow ⟨outcome.memory, outcome.calloc, .success⟩
      (outcome.memory.map fun _ => formatted)) session flags

-- The contents are put into the buffer before the object is created instead of afterwards.
def stringWrapObject (buffer : CString) (session : Option SessionRef) (flags : UInt32)
    (store : Store) : Except APIE ObjectRef × Store :=
  store.createString outcome
    (stringWrap grow ⟨outcome.memory, outcome.calloc, .success⟩ buffer) session flags

-- The flags of a string that its creator keeps.
def ownedFlags : UInt32 := OBJECT_CREATE_FLAG_INTERNAL ||| OBJECT_CREATE_FLAG_LOCKED

-- `string->buffer` as a function that takes a `const char *` sees it.
def Store.text (store : Store) (string : ObjectRef) : CString :=
  match store.payload string with
  | some (.string s) => cString (s.buffer.text s.buffer.size)
  | _ => []

end Functions

section Touches

-- Only these objects may be different afterwards, or leave the arrays.
structure Store.Touches (touched : ObjectRef → Prop) (store other : Store) : Prop where
  get : ∀ p, ¬touched p → other.objects.get p = store.objects.get p
  listed : ∀ type p, ¬touched p → (p ∈ other.objectArray type ↔ p ∈ store.objectArray type)
  fault : other.fault = store.fault
  counted : store.Counted → other.Counted

namespace Store.Touches

variable {touched more : ObjectRef → Prop} {store other last : Store} {object : ObjectRef}

theorem refl (touched : ObjectRef → Prop) (store : Store) : store.Touches touched store :=
  ⟨fun _ _ => rfl, fun _ _ _ => Iff.rfl, rfl, id⟩

theorem trans (h : store.Touches touched other) (h' : other.Touches touched last) :
    store.Touches touched last where
  get p hp := (h'.get p hp).trans (h.get p hp)
  listed type p hp := (h'.listed type p hp).trans (h.listed type p hp)
  fault := h'.fault.trans h.fault
  counted hcounted := h'.counted (h.counted hcounted)

theorem mono (h : store.Touches touched other) (hmore : ∀ p, touched p → more p) :
    store.Touches more other where
  get p hp := h.get p fun htouched => hp (hmore p htouched)
  listed type p hp := h.listed type p fun htouched => hp (hmore p htouched)
  fault := h.fault
  counted := h.counted

theorem payload (h : store.Touches touched other) (hp : ¬touched object) :
    other.payload object = store.payload object :=
  congrArg (Option.map Object.payload) (h.get object hp)

theorem text (h : store.Touches touched other) (hp : ¬touched object) :
    other.text object = store.text object := by
  unfold Store.text
  rw [h.payload hp]

theorem modifyObject {f : Object → Object} (hlive : store.objects.get object ≠ none)
    (hlist : ∀ o, (f o).externalReferences = o.externalReferences)
    (hcount : ∀ o, (f o).externalReferenceCount = o.externalReferenceCount) :
    store.Touches (· = object) (store.modifyObject object f) where
  get p hp := by
    rw [Store.modifyObject_objects, Heap.get_modify_ne hp]
  listed type p _ := by
    rw [Store.modifyObject_objectArray]
  fault := by
    obtain ⟨o, ho⟩ := Option.ne_none_iff_exists'.mp hlive
    rw [Store.modifyObject_of_get ho]
  counted hcounted := hcounted.modifyObject hlist hcount

end Store.Touches

end Touches

section Create

variable {outcome : ObjectCreation} {payload : Payload} {store : Store}

-- The object as object_create makes it for a creator that keeps it.
def Payload.owned (payload : Payload) (id : ObjectID) : Object :=
  ⟨id, payload.type, 1, [], 0, 1, payload⟩

theorem createObject_owned_eq (outcome : ObjectCreation) (payload : Payload) (store : Store) :
    store.createObject outcome payload none ownedFlags =
      let result := inventoryAddObject outcome.append payload.type store.objects.next
        { store with objects := store.objects.alloc (payload.owned 0) }
      if result.1 = .success then (.ok store.objects.next, result.2)
      else (.error result.1, result.2.freeMemory store.objects.next) := by
  have hvalid : ValidFlags none ownedFlags := by
    refine ⟨?_, ?_, ?_⟩ <;> decide
  have hget : (store.callocObject payload).2.objects.get store.objects.next =
      some ⟨0, payload.type, 0, [], 0, 0, payload⟩ := store.objects.get_alloc_next _
  have hlocked : objectLock store.objects.next
      (objectAddInternalReference store.objects.next (store.callocObject payload).2) =
        { store with objects := store.objects.alloc (payload.owned 0) } := by
    unfold objectLock objectAddInternalReference
    rw [Store.modifyObject_modifyObject, Store.modifyObject_of_get hget]
    simp only [Store.callocObject, Heap.modify_alloc_next]
    rfl
  have hcreated : objectCreateReferences outcome store.objects.next payload.type none ownedFlags
      (store.callocObject payload).2 = inventoryAddObject outcome.append payload.type
        store.objects.next { store with objects := store.objects.alloc (payload.owned 0) } := by
    rw [← hlocked]
    rfl
  rw [createObject_of_valid outcome payload store hvalid, hcreated]

theorem inventoryAddObject_live {object : ObjectRef} {o : Object} (append : Option APIError)
    (type : ObjectType) (ho : store.objects.get object = some o) :
    (inventoryAddObject append type object store).2.fault = store.fault ∧
      ((inventoryAddObject append type object store).1 = .success → ∃ id,
        (inventoryAddObject append type object store).2.objects.get object =
          some { o with id }) := by
  unfold inventoryAddObject inventoryGetNextObjectId
  cases nextFreeId store.objectIdInUse store.nextObjectId with
  | mk found next =>
      cases found with
      | none => exact ⟨rfl, fun h => (nomatch h)⟩
      | some id =>
          have hlive : (Store.objects { store with nextObjectId := next }).get object = some o := ho
          simp only [Store.modifyObject_of_get hlive]
          cases append with
          | some code => exact ⟨rfl, fun h => absurd h code.property⟩
          | none =>
              refine ⟨rfl, fun _ => ⟨id, ?_⟩⟩
              change (store.objects.modify object _).get object = _
              rw [Heap.get_modify_self, ho]
              rfl

-- An object that is created for its creator alone touches no other.
theorem createObject_owned (outcome : ObjectCreation) (payload : Payload) (store : Store) :
    let result := store.createObject outcome payload none ownedFlags
    (∃ code, code ≠ .success ∧ result.1 = .error code ∧
        store.Touches (fun _ => False) result.2) ∨
      (result.1 = .ok store.objects.next ∧ store.Touches (· = store.objects.next) result.2 ∧
        (∃ id, result.2.objects.get store.objects.next = some (payload.owned id)) ∧
        store.objects.next ∈ result.2.objectArray payload.type) := by
  have hnone := Heap.get_eq_none_of_next_le store.objects (Nat.le_refl _)
  have hget : (store.objects.alloc (payload.owned 0)).get store.objects.next =
      some (payload.owned 0) := store.objects.get_alloc_next _
  obtain ⟨hfault, hnamed⟩ := @inventoryAddObject_live
    { store with objects := store.objects.alloc (payload.owned 0) } _ _ outcome.append payload.type hget
  obtain ⟨-, -, hreferences, -, -, hadded, hfailed⟩ := inventoryAddObject_frame outcome.append payload.type
    store.objects.next { store with objects := store.objects.alloc (payload.owned 0) }
  have hothers : ∀ p, p ≠ store.objects.next →
      (store.createObject outcome payload none ownedFlags).2.objects.get p = store.objects.get p :=
    fun p hp => createObject_get_ne outcome payload none ownedFlags hp
  have hcounted := fun h : store.Counted => h.createObject outcome payload none ownedFlags
  have hlive : ∀ p, store.objects.get p ≠ none → p ≠ store.objects.next := by
    rintro p hp rfl
    exact hp hnone
  rw [createObject_owned_eq] at hothers hcounted ⊢
  generalize inventoryAddObject outcome.append payload.type store.objects.next
    { store with objects := store.objects.alloc (payload.owned 0) } = result at *
  have hentries : ∀ other : Store, (∀ p, p ≠ store.objects.next →
      other.objects.get p = store.objects.get p) → other.references = result.2.references →
      store.Counted → other.EntriesLive := by
    intro other hget hsame h r e he
    have howner : store.objects.get e.object ≠ none :=
      h.linked.objects.owner_live r e (by rw [hsame, hreferences] at he; exact he)
    rw [hget _ (hlive _ howner)]
    exact howner
  by_cases hsuccess : result.1 = .success
  · simp only [if_pos hsuccess] at hothers hcounted ⊢
    obtain ⟨id, hnew⟩ := hnamed hsuccess
    refine Or.inr ⟨trivial, ⟨hothers, fun type p hp => ?_, hfault, fun h => ?_⟩, ⟨id, hnew⟩, ?_⟩
    · rw [hadded hsuccess]
      split_ifs with htype
      · subst htype
        rw [List.mem_append, List.mem_singleton]
        exact or_iff_left hp
      · exact Iff.rfl
    · exact hcounted h (hentries _ hothers rfl h)
    · rw [hadded hsuccess, if_pos rfl]
      exact List.mem_append_right _ (List.mem_singleton_self _)
  · simp only [if_neg hsuccess] at hothers hcounted ⊢
    refine Or.inl ⟨result.1, hsuccess, rfl, fun p _ => ?_, fun type p _ => ?_, hfault,
      fun h => hcounted h (hentries _ hothers rfl h)⟩
    · by_cases hp : p = store.objects.next
      · rw [hp, hnone]
        exact Heap.get_free_self _ _
      · exact hothers p hp
    · change p ∈ result.2.objectArray type ↔ _
      rw [hfailed hsuccess]

end Create

section Release

variable {array : ArrayRemove} {store last : Store} {hold : Hold} {o : Object} {string : StringObject}

-- An item is taken out of an array that has not changed since its index was found.
def ArrayRemove.Direct (array : ArrayRemove) : Prop :=
  ∀ i object items, items.idxOf? object = some i → array.remove i object items = items.erase object

theorem ArrayRemove.byIndex_direct : ArrayRemove.byIndex.Direct := by
  intro i object items hindex
  have hi : i < items.length := by
    obtain ⟨hlt, -⟩ := List.findIdx?_eq_some_iff_getElem.mp hindex
    exact hlt
  rw [List.erase_eq_eraseIdx, hindex]
  exact if_pos hi

theorem Runs.nil_inv (h : Runs array [] store last) : last = store := by
  cases h
  rfl

theorem Runs.cons_inv {task : Task} {tasks : List Task} (h : Runs array (task :: tasks) store last) :
    Runs array ((task.run array store).1 ++ tasks) (task.run array store).2 last := by
  cases h with
  | step h => exact h

theorem Runs.unique {tasks : List Task} {other : Store} (h : Runs array tasks store last)
    (h' : Runs array tasks store other) : other = last := by
  induction h with
  | done => exact h'.nil_inv
  | step _ ih => exact ih h'.cons_inv

-- The end of an object that holds nothing and that nobody holds.
def Store.dispose (store : Store) (type : ObjectType) (object : ObjectRef) : Store :=
  if object ∈ store.objectArray type then
    (store.freeObject object).setObjectArray type ((store.objectArray type).erase object)
  else store

-- A string holds nothing, so its last reference takes only the string with it.
theorem Hold.release_string (hdirect : array.Direct) (hcounted : store.Counted)
    (ho : store.objects.get hold.object = some o) (hstring : o.payload = .string string)
    (hcount : o.internalReferenceCount ≠ 0) :
    hold.release array store =
      if o.internalReferenceCount - 1 = 0 ∧ o.externalReferenceCount = 0 then
        (hold.drop store).dispose o.type hold.object
      else hold.drop store := by
  have hruns := (@Hold.release_runs array hold store).cons_inv
  rw [Task.run_drop ho (Nat.pos_of_ne_zero hcount)] at hruns
  by_cases hlast : o.internalReferenceCount - 1 = 0 ∧ o.externalReferenceCount = 0
  · rw [if_pos hlast] at hruns ⊢
    have hget : (hold.drop store).objects.get hold.object = some (hold.forgo o) := by
      rw [hold.drop_eq, Store.modifyObject_objects, Heap.get_modify_self, ho]
      rfl
    have hnone : o.externalReferences = [] := hcounted.externalReferences_eq_nil ho hlast.2
    have hruns := hruns.cons_inv
    simp only [Task.run, hget, Hold.forgo] at hruns
    unfold Store.dispose
    cases hindex : ((hold.drop store).objectArray o.type).idxOf? hold.object with
    | none =>
        rw [if_neg (List.idxOf?_eq_none_iff.mp hindex)]
        simp only [hindex] at hruns
        exact hruns.nil_inv
    | some i =>
        have hmem : hold.object ∈ (hold.drop store).objectArray o.type := by
          by_contra hmem
          rw [List.idxOf?_eq_none_iff.mpr hmem] at hindex
          cases hindex
        rw [if_pos hmem, ← hdirect i _ _ hindex]
        simp only [hindex] at hruns
        have hruns := hruns.cons_inv
        simp only [Task.run, hget, Hold.forgo, hnone, hstring, Payload.holds] at hruns
        exact hruns.cons_inv.cons_inv.nil_inv
  · rw [if_neg hlast] at hruns ⊢
    exact hruns.nil_inv

theorem Hold.drop_fault (ho : store.objects.get hold.object = some o) :
    (hold.drop store).fault = store.fault := by
  rw [hold.drop_eq, Store.modifyObject_of_get ho]

-- Only the string itself, and it is gone if this was its last reference.
theorem Hold.release_string_touches (hdirect : array.Direct) (hcounted : store.Counted)
    (ho : store.objects.get hold.object = some o) (hstring : o.payload = .string string)
    (hcount : o.internalReferenceCount ≠ 0) :
    store.Touches (· = hold.object) (hold.release array store) ∧
      ((o.internalReferenceCount - 1 = 0 ∧ o.externalReferenceCount = 0) ∧
          hold.object ∈ store.objectArray o.type ∧
          (hold.release array store).objects.get hold.object = none ∨
        ¬((o.internalReferenceCount - 1 = 0 ∧ o.externalReferenceCount = 0) ∧
          hold.object ∈ store.objectArray o.type) ∧
          (hold.release array store).objects.get hold.object = some (hold.forgo o) ∧
          (hold.release array store).objectArray = store.objectArray) := by
  have hget : (hold.drop store).objects.get hold.object = some (hold.forgo o) := by
    rw [hold.drop_eq, Store.modifyObject_objects, Heap.get_modify_self, ho]
    rfl
  have hother : ∀ p, p ≠ hold.object →
      (hold.drop store).objects.get p = store.objects.get p := by
    intro p hp
    rw [hold.drop_eq, Store.modifyObject_objects, Heap.get_modify_ne hp]
  have harray : (hold.drop store).objectArray = store.objectArray := by
    rw [hold.drop_eq, Store.modifyObject_objectArray]
  have hkept : (hold.release array store).Counted := (hcounted.unlock hold).release hold.object
  rw [Hold.release_string hdirect hcounted ho hstring hcount] at hkept ⊢
  -- what is left as it was if nothing is destroyed
  have hdropped : (hold.drop store).Counted → store.Touches (· = hold.object) (hold.drop store) := by
    refine fun hkept => ⟨hother, fun type p _ => ?_, Hold.drop_fault ho, fun _ => hkept⟩
    rw [harray]
  by_cases hlast : o.internalReferenceCount - 1 = 0 ∧ o.externalReferenceCount = 0
  · rw [if_pos hlast] at hkept ⊢
    unfold Store.dispose at hkept ⊢
    rw [harray] at hkept ⊢
    by_cases hlisted : hold.object ∈ store.objectArray o.type
    · rw [if_pos hlisted] at hkept ⊢
      refine ⟨⟨fun p hp => ?_, fun type p hp => ?_, Hold.drop_fault ho, fun _ => hkept⟩,
        Or.inl ⟨hlast, hlisted, Heap.get_free_self _ _⟩⟩
      · change ((hold.drop store).objects.free hold.object).get p = _
        rw [Heap.get_free_ne hp, hother p hp]
      · rw [Store.setObjectArray_objectArray]
        split_ifs with htype
        · subst htype
          exact List.mem_erase_of_ne hp
        · change p ∈ (hold.drop store).objectArray type ↔ _
          rw [harray]
    · rw [if_neg hlisted] at hkept ⊢
      exact ⟨hdropped hkept, Or.inr ⟨fun h => hlisted h.2, hget, harray⟩⟩
  · rw [if_neg hlast] at hkept ⊢
    exact ⟨hdropped hkept, Or.inr ⟨fun h => hlast h.1, hget, harray⟩⟩

end Release

section Owned

variable {array : ArrayRemove} {touched : ObjectRef → Prop} {store other : Store}
  {strings : List ObjectRef} {text : CString} {string : ObjectRef}

-- A string that nobody but its creator refers to.
structure Store.OwnedString (store : Store) (string : ObjectRef) : Prop where
  object : ∃ id s, store.objects.get string = some (Payload.owned (.string s) id)
  listed : string ∈ store.objectArray .string

namespace Store.OwnedString

theorem touches (h : store.OwnedString string) (htouches : store.Touches touched other)
    (hstring : ¬touched string) : other.OwnedString string := by
  obtain ⟨id, s, hget⟩ := h.object
  exact ⟨⟨id, s, (htouches.get string hstring).trans hget⟩, (htouches.listed _ _ hstring).mpr h.listed⟩

theorem release (h : store.OwnedString string) (hdirect : array.Direct) (hcounted : store.Counted) :
    store.Touches (· = string) ((lockedHold string).release array store) ∧
      ((lockedHold string).release array store).objects.get string = none := by
  obtain ⟨id, s, hget⟩ := h.object
  obtain ⟨htouches, hgone⟩ := @Hold.release_string_touches array store (lockedHold string) _ s
    hdirect hcounted hget rfl Nat.one_ne_zero
  refine ⟨htouches, ?_⟩
  rcases hgone with ⟨-, -, hgone⟩ | ⟨hlast, -, -⟩
  · exact hgone
  · exact absurd ⟨⟨rfl, rfl⟩, h.listed⟩ hlast

-- All strings of a list go, and nothing else.
theorem releaseAll (hdirect : array.Direct) (hcounted : store.Counted) (hnodup : strings.Nodup)
    (howned : ∀ string ∈ strings, store.OwnedString string) :
    store.Touches (· ∈ strings) (releaseAll array (strings.map lockedHold) store) ∧
      ∀ string ∈ strings,
        (releaseAll array (strings.map lockedHold) store).objects.get string = none := by
  induction strings generalizing store with
  | nil => exact ⟨.refl _ store, fun string hmem => absurd hmem List.not_mem_nil⟩
  | cons string strings ih =>
      obtain ⟨htouches, hgone⟩ := (howned string List.mem_cons_self).release hdirect hcounted
      have hnot : string ∉ strings := (List.nodup_cons.mp hnodup).1
      have hrest : ∀ other ∈ strings,
          ((lockedHold string).release array store).OwnedString other := by
        intro other hmem
        refine (howned other (List.mem_cons_of_mem _ hmem)).touches htouches ?_
        rintro rfl
        exact hnot hmem
      obtain ⟨htouches', hgone'⟩ :=
        ih (htouches.counted hcounted) (List.nodup_cons.mp hnodup).2 hrest
      refine ⟨(htouches.mono fun p hp => hp ▸ List.mem_cons_self).trans
        (htouches'.mono fun p hp => List.mem_cons_of_mem _ hp), fun other hmem => ?_⟩
      rcases List.mem_cons.mp hmem with rfl | hmem
      · exact (htouches'.get _ hnot).trans hgone
      · exact hgone' other hmem

end Store.OwnedString

end Owned

section Texts

variable {grow : GrowAllocation} {store : Store}

theorem stringCreateBuffer_error {memory : Allocation} {reserve : Nat}
    {buffer : Option (List UInt8)} {code : APIE}
    (h : stringCreateBuffer grow memory reserve buffer = .error code) : code ≠ .success := by
  unfold stringCreateBuffer at h
  cases buffer with
  | none =>
      simp only at h
      split at h
      · cases h
        decide
      · cases memory with
        | none =>
            cases h
            decide
        | some fresh => cases h
  | some bytes =>
      simp only at h
      split at h
      · cases h
        decide
      · cases h

theorem stringCreate_error {outcome : StringCreation} {reserve : Nat} {buffer : Option (List UInt8)}
    {code : APIE} (hcreate : outcome.objectCreate = .success)
    (h : stringCreate grow outcome reserve buffer = .error code) : code ≠ .success := by
  unfold stringCreate at h
  split at h
  · rename_i hbuffer
    cases h
    exact stringCreateBuffer_error hbuffer
  · rw [hcreate, if_neg (not_not.mpr rfl)] at h
    split at h
    · cases h
      decide
    · cases h

theorem stringAsprintf_error {outcome : StringCreation} {formatted : Option CString} {code : APIE}
    (hcreate : outcome.objectCreate = .success)
    (h : stringAsprintf grow outcome formatted = .error code) : code ≠ .success := by
  unfold stringAsprintf at h
  split at h
  · cases h
    decide
  · exact stringCreate_error hcreate h

theorem stringWrap_error {outcome : StringCreation} {buffer : CString} {code : APIE}
    (hcreate : outcome.objectCreate = .success)
    (h : stringWrap grow outcome buffer = .error code) : code ≠ .success := by
  unfold stringWrap at h
  simp only at h
  split at h
  · cases h
    decide
  · split at h
    · rename_i hcreated
      cases h
      exact stringCreate_error hcreate hcreated
    · cases h

theorem cString_text (bytes : List UInt8) :
    cString ((Block.malloc (fun i => bytes.getD i 0) (strlen bytes + 1)).text (strlen bytes + 1)) =
      cString bytes := by
  have htext : (Block.malloc (fun i => bytes.getD i 0) (strlen bytes + 1)).text (strlen bytes + 1) =
      cString bytes ++ [0] := by
    unfold cString
    rw [← take_strlen]
    have hle := strlen_le_length bytes
    apply List.ext_getElem?
    intro i
    rw [Block.text_getElem?]
    change (if i < strlen bytes + 1 then some (bytes.getD i 0) else none) = _
    rcases Nat.lt_trichotomy i (strlen bytes) with hlt | rfl | hgt
    · rw [if_pos (by omega), List.getElem?_append_left (by simp; omega),
        List.getElem?_take_of_lt hlt, List.getD_eq_getElem?_getD,
        List.getElem?_eq_getElem (by omega)]
      rfl
    · have hlength : (bytes.take (strlen bytes)).length = strlen bytes := by simp; omega
      rw [if_pos (by omega), getD_strlen, List.getElem?_append_right (by omega), hlength,
        Nat.sub_self]
      rfl
    · rw [if_neg (by omega), List.getElem?_eq_none (by simp; omega)]
  rw [htext]
  unfold cString
  have hnonzero : ∀ byte ∈ bytes.takeWhile (· ≠ 0), decide (byte ≠ 0) = true := by
    intro byte hmem
    rw [← take_strlen] at hmem
    exact decide_eq_true (take_strlen_ne_zero hmem)
  rw [List.takeWhile_append_of_pos hnonzero]
  simp

-- The buffer holds what was formatted.
theorem stringAsprintf_text {outcome : StringCreation} {formatted : Option CString}
    {string : StringObject} (h : stringAsprintf grow outcome formatted = .ok string) :
    ∃ bytes, formatted = some bytes ∧
      cString (string.buffer.text string.buffer.size) = cString bytes := by
  unfold stringAsprintf at h
  split at h
  · cases h
  · rename_i bytes hbytes
    refine ⟨bytes, (Option.filter_eq_some_iff.mp hbytes).1, ?_⟩
    have hcreated := StringObject.create_eq h
    unfold stringCreateBuffer at hcreated
    simp only at hcreated
    split at hcreated
    · cases hcreated
    · cases hcreated
      exact cString_text bytes

-- A string that was made for its creator alone, or none.
theorem Store.createString_owned (outcome : StringOutcome) {created : Except APIE StringObject}
    (hcreated : ∀ code, created = .error code → code ≠ .success) (store : Store) :
    let result := store.createString outcome created none ownedFlags
    (∃ code, code ≠ .success ∧ result.1 = .error code ∧
        store.Touches (fun _ => False) result.2) ∨
      ∃ string s, created = .ok s ∧ result.1 = .ok string ∧ store.objects.get string = none ∧
        store.Touches (· = string) result.2 ∧ result.2.OwnedString string ∧
        result.2.text string = cString (s.buffer.text s.buffer.size) := by
  cases created with
  | error code => exact Or.inl ⟨code, hcreated code rfl, rfl, .refl _ store⟩
  | ok s =>
      rcases createObject_owned outcome.objectCreate (.string s) store with herror | hok
      · exact Or.inl herror
      · obtain ⟨hobject, htouches, ⟨id, hget⟩, hlisted⟩ := hok
        refine Or.inr ⟨_, s, rfl, hobject, Heap.get_eq_none_of_next_le _ (Nat.le_refl _), htouches,
          ⟨⟨id, s, hget⟩, hlisted⟩, ?_⟩
        unfold Store.text Store.payload
        simp only [Store.createString, hget]
        rfl

end Texts

end RedApid
