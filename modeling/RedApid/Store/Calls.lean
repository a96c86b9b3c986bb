import RedApid.Store.Reachability
import RedApid.Store.Safety

namespace RedApid

open Memory

section Contents

variable {array : ArrayRemove} {store other : Store}

-- The strings and lists that the API makes, every access to a string was inside of its buffer.
def Payload.Sound : Payload → Prop
  | .string s => s.Sound
  | .list _ => True
  | _ => False

def Store.Contents (store : Store) : Prop :=
  ∀ p o, store.objects.get p = some o → o.payload.Sound

namespace Store.Contents

theorem init : Store.init.Contents := by
  intro p o ho
  simp [Store.init] at ho

theorem kept (h : store.Contents) (hkept : store.Kept other) : other.Contents := by
  intro p o ho
  obtain ⟨o', ho', -, hpayload⟩ := hkept.get ho
  rw [hpayload]
  exact h p o' ho'

theorem modifyObject (h : store.Contents) (object : ObjectRef) {f : Object → Object}
    (hf : ∀ o, store.objects.get object = some o → (f o).payload.Sound) :
    (store.modifyObject object f).Contents := by
  intro p o ho
  rw [Store.modifyObject_objects, Heap.get_modify] at ho
  split_ifs at ho with hp
  · subst hp
    obtain ⟨o', ho', rfl⟩ := Option.map_eq_some_iff.mp ho
    exact hf o' ho'
  · exact h p o ho

theorem mapItems (h : store.Contents) (list : ObjectRef) (change : List ObjectRef → List ObjectRef) :
    (store.modifyObject list fun l => { l with payload := l.payload.mapItems change }).Contents := by
  refine h.modifyObject list fun l hl => ?_
  have hsound := h list l hl
  change (l.payload.mapItems change).Sound
  cases hpayload : l.payload with
  | string s =>
      rw [hpayload] at hsound
      exact hsound
  | list items => trivial
  | file _ | directory _ | process _ | program _ =>
      rw [hpayload] at hsound
      cases hsound

theorem createObject (h : store.Contents) (outcome : ObjectCreation) {payload : Payload}
    (hpayload : payload.Sound) (session : Option SessionRef) (flags : UInt32) :
    (store.createObject outcome payload session flags).2.Contents := by
  intro p o ho
  rcases createObject_objects outcome payload session flags store ho with
    ⟨-, hcore, -⟩ | ⟨o', ho', hcore⟩
  · have hsame : o.payload = payload := congrArg Prod.snd hcore
    rw [hsame]
    exact hpayload
  · have hsame : o.payload = o'.payload := congrArg Prod.snd hcore
    rw [hsame]
    exact h p o' ho'

theorem listAppendTo (h : store.Contents) {list : ObjectRef} {l : Object}
    (append : Option APIError) (itemId : ObjectID) (hl : store.objects.get list = some l) :
    (listAppendTo append list itemId store).2.Contents := by
  rcases listAppendTo_cases append itemId hl with ⟨-, hsame⟩ | ⟨item, -, -, -, happend⟩
  · rw [hsame]
    exact h
  · rw [happend, Hold.acquire_eq]
    have hacquired := h.modifyObject (lockedHold item).object
      (f := (lockedHold item).retain) fun o ho => h _ o ho
    exact hacquired.mapItems list (· ++ [item])

theorem listRemoveFrom (h : store.Contents) {list : ObjectRef} {l : Object} (index : UInt16)
    (hl : store.objects.get list = some l) : (listRemoveFrom array list index store).2.Contents := by
  rcases @listRemoveFrom_cases array store list l index hl with ⟨-, hsame⟩ | ⟨item, -, -, hremove⟩
  · rw [hsame]
    exact h
  · rw [hremove]
    have hreleased := h.kept (.of_runs (@Hold.release_runs array (lockedHold item) store))
    exact hreleased.mapItems list (·.eraseIdx index.toNat)

end Store.Contents

end Contents

section Steps

variable {pool next : List Hold} {store other : Store}

theorem exact_of_step (hstep : CleanStep .exact (pool, store) (next, other))
    (h : store.Typed ∧ store.Exact) : other.Typed ∧ other.Exact :=
  ⟨hstep.1.typed h.1, hstep.exact h.2⟩

theorem exact_of_steps_from
    (hsteps : Relation.ReflTransGen (CleanStep .exact) (pool, store) (next, other))
    (h : store.Typed ∧ store.Exact) : other.Typed ∧ other.Exact := by
  generalize hlast : (next, other) = last at hsteps
  induction hsteps generalizing next other with
  | refl =>
      cases hlast
      exact h
  | @tail before _ _ hstep ih =>
      subst hlast
      exact exact_of_step hstep (@ih before.1 before.2 rfl)

end Steps

section Safe

variable {store other : Store} {call : ObjectCall}

-- What holds between two calls of the API.
structure Store.Safe (store : Store) : Prop where
  sound : Sound [] store
  typed : store.Typed
  exact : store.Exact
  intact : store.Intact []
  contents : store.Contents

-- As if an object whose creation failed had been destroyed instead of freed.
def Store.allDestroyed (store : Store) : Store :=
  { store with
    destroyed := (List.range store.objects.next).filter fun p => (store.objects.get p).isNone }

-- The session that a call is made for.
def ObjectCall.session : ObjectCall → Option SessionRef
  | .stringAllocate _ _ _ _ _ _ session | .listAllocate _ session | .objectRelease _ session
  | .sessionExpire session => some session
  | _ => none

def ObjectCall.onSessions : ObjectCall → Bool
  | .sessionCreate _ _ | .sessionExpire _ => true
  | _ => false

theorem ObjectCall.run_careful (h : store.Safe) (hcall : call.onSessions = false)
    (hlive : ∀ session ∈ call.session, session ∈ store.sessionArray) :
    store.Careful (call.run .exact store) := by
  have hsession : ∀ session ∈ call.session, store.sessions.get session ≠ none :=
    fun session hmem => h.intact.live (hlive session hmem)
  cases call with
  | sessionCreate outcome lifetime => cases hcall
  | sessionExpire session => cases hcall
  | stringAllocate grow memory calloc outcome reserve buffer session =>
      simp only [run, stringAllocateObject]
      split
      · exact .refl store
      · exact .createObject outcome _ (fun s hs => hsession s (Option.mem_def.mpr hs))
          OBJECT_CREATE_FLAG_EXTERNAL
  | listAllocate outcome session =>
      simp only [run]
      rcases listAllocate_createObject outcome (some session) OBJECT_CREATE_FLAG_EXTERNAL store with
        ⟨code, -, hallocate, -⟩ | ⟨-, -, hallocate⟩
      · rw [hallocate]
        exact .refl store
      · rw [hallocate]
        exact .createObject outcome.objectCreate _ (fun s hs => hsession s (Option.mem_def.mpr hs))
          OBJECT_CREATE_FLAG_EXTERNAL
  | listAppendTo append listId itemId =>
      simp only [run]
      cases hlist : inventoryGetObject [.list] listId store with
      | error code => exact .refl store
      | ok list =>
          obtain ⟨l, hl, -⟩ := h.sound.list_payload h.typed hlist
          exact .listAppendTo append itemId hl
  | listRemoveFrom listId index =>
      simp only [run]
      cases hlist : inventoryGetObject [.list] listId store with
      | error code => exact .refl store
      | ok list =>
          obtain ⟨l, hl, htype⟩ := h.sound.list_payload h.typed hlist
          exact .listRemoveFrom h.sound index hl htype
  | objectRelease objectId session =>
      simp only [run]
      cases hobject : inventoryGetObject ObjectType.all objectId store with
      | error code => exact .refl store
      | ok object =>
          obtain ⟨o, ho, -⟩ := h.sound.found hobject
          exact .objectRelease h.sound.holding.accounted h.sound.counted (by simp [ho]) session

theorem ObjectCall.run_intact (h : store.Safe)
    (hlive : ∀ session ∈ call.session, session ∈ store.sessionArray) :
    (call.run .exact store).Intact [] := by
  cases hcall : call.onSessions with
  | false => exact h.intact.careful (call.run_careful h hcall hlive)
  | true =>
      cases call with
      | sessionCreate outcome lifetime => exact h.intact.sessionCreate outcome lifetime
      | sessionExpire session =>
          exact h.intact.sessionExpireHelper h.sound.counted h.sound.holding.accounted
            (hlive session (Option.mem_some_self session))
      | stringAllocate | listAllocate | listAppendTo | listRemoveFrom | objectRelease => cases hcall

theorem ObjectCall.run_contents (h : store.Safe) : (call.run .exact store).Contents := by
  have hcontents := h.contents
  cases call with
  | sessionCreate outcome lifetime =>
      obtain ⟨hobjects, -⟩ := sessionCreate_frame outcome lifetime store
      exact fun p o ho => hcontents p o (hobjects ▸ ho)
  | stringAllocate grow memory calloc outcome reserve buffer session =>
      simp only [run, stringAllocateObject]
      split
      · exact hcontents
      · rename_i string hstring
        have hsound : (Payload.string string).Sound := StringObject.allocate_sound hstring
        exact hcontents.createObject outcome hsound _ _
  | listAllocate outcome session =>
      simp only [run]
      rcases listAllocate_createObject outcome (some session) OBJECT_CREATE_FLAG_EXTERNAL store with
        ⟨code, -, hallocate, -⟩ | ⟨-, -, hallocate⟩
      · rw [hallocate]
        exact hcontents
      · rw [hallocate]
        have hsound : (Payload.list []).Sound := trivial
        exact hcontents.createObject outcome.objectCreate hsound _ _
  | listAppendTo append listId itemId =>
      simp only [run]
      cases hlist : inventoryGetObject [.list] listId store with
      | error code => exact hcontents
      | ok list =>
          obtain ⟨l, hl, -⟩ := h.sound.list_payload h.typed hlist
          exact hcontents.listAppendTo append itemId hl
  | listRemoveFrom listId index =>
      simp only [run]
      cases hlist : inventoryGetObject [.list] listId store with
      | error code => exact hcontents
      | ok list =>
          obtain ⟨l, hl, -⟩ := h.sound.list_payload h.typed hlist
          exact hcontents.listRemoveFrom index hl
  | objectRelease objectId session =>
      simp only [run]
      cases hobject : inventoryGetObject ObjectType.all objectId store with
      | error code => exact hcontents
      | ok object => exact hcontents.kept (Store.KeepsHolds.objectRelease object session store).kept
  | sessionExpire session =>
      exact hcontents.kept (Store.KeepsHolds.sessionExpireHelper session store).kept

namespace Store.Safe

theorem init : Store.init.Safe where
  sound := .init
  typed := fun p o ho => by simp [Store.init] at ho
  exact := exact_of_cleanSteps .refl
  intact := .init
  contents := .init

-- A call that the arrays survive.
theorem run (h : store.Safe) (hmeets : call.Meets store)
    (hlive : ∀ session ∈ call.session, session ∈ store.sessionArray) :
    (call.run .byIndex store).Safe := by
  rw [call.run_byIndex h.sound.counted hmeets]
  have hsteps := @ObjectCall.steps .exact [] store call h.sound h.typed hmeets
  obtain ⟨htyped, hexact⟩ := exact_of_steps_from hsteps ⟨h.typed, h.exact⟩
  exact ⟨h.sound.steps hsteps, htyped, hexact, call.run_intact h hlive, call.run_contents h⟩

theorem run_sessionArray (h : store.Safe) (hcall : call.onSessions = false)
    (hmeets : call.Meets store) (hlive : ∀ session ∈ call.session, session ∈ store.sessionArray) :
    (call.run .byIndex store).sessionArray = store.sessionArray := by
  rw [call.run_byIndex h.sound.counted hmeets]
  exact (call.run_careful h hcall hlive).sessionArray

-- A step that does not touch the arrays.
theorem step (h : store.Safe) (hstep : CleanStep .exact ([], store) ([], other))
    (hcareful : store.Careful other) (hcontents : other.Contents) : other.Safe := by
  obtain ⟨htyped, hexact⟩ := exact_of_step hstep ⟨h.typed, h.exact⟩
  exact ⟨hstep.sound h.sound, htyped, hexact, h.intact.careful hcareful, hcontents⟩

theorem listGetItem (h : store.Safe) {id : ObjectID} {list : ObjectRef} {session : SessionRef}
    (hlist : inventoryGetObject [.list] id store = .ok list) (hlive : session ∈ store.sessionArray)
    (calloc : Bool) (index : UInt16) : (listGetItem calloc list index session store).2.Safe := by
  obtain ⟨l, hl, -⟩ := h.sound.list_payload h.typed hlist
  have haccounted := h.sound.holding.accounted
  have hcareful := Store.Careful.listGetItem calloc index haccounted hl (h.intact.live hlive)
  rcases listGetItem_cases calloc index session haccounted hl with hsame | ⟨item, -, hadded⟩
  · rw [hsame]
    exact h
  · rw [hadded] at hcareful ⊢
    have hruns : (objectAddExternalReference calloc item session store).2 =
        Operation.runAll .exact [.addExternalReference calloc item session] store := rfl
    refine h.step (h.sound.cleanStep (.addExternalReference [] store calloc item session) hruns)
      hcareful (h.contents.kept ?_)
    exact .of_sameInternals (.objectAddExternalReference calloc item session store)

theorem setString (h : store.Safe) {string : ObjectRef} {o : Object} {s : StringObject}
    (ho : store.objects.get string = some o) (htype : o.payload.type = .string) (hs : s.Sound) :
    (store.modifyObject string fun o => { o with payload := .string s }).Safe := by
  have hholds : o.payload.holds = [] := by
    cases hpayload : o.payload with
    | string _ => rfl
    | list _ | file _ | directory _ | process _ | program _ =>
        rw [hpayload] at htype
        cases htype
  have hlive : store.objects.get string ≠ none := by simp [ho]
  have hruns : (store.modifyObject string fun o => { o with payload := .string s }) =
      Operation.runAll .exact [.setPayload string (.string s)] store := rfl
  refine h.step (h.sound.cleanStep ?_ hruns) (.modifyObject hlive _)
    (h.contents.modifyObject string fun _ _ => hs)
  refine .setPayload [] [] store string o (.string s) ho (by simp [htype]) htype.symm ?_ ?_
  · intro hold hmem
    cases hmem
  · rw [hholds]
    exact .refl _

theorem membership (h : store.Safe) : Membership [] store.allDestroyed := by
  have hexact : store.allDestroyed.Exact := ⟨h.exact.nodup, h.exact.mem_iff⟩
  refine ⟨h.sound.holding.of_kept (.congr rfl rfl)
    (h.sound.holding.accounted.congr (fun _ => rfl) fun _ => rfl),
    h.sound.counted.congr rfl rfl rfl, ⟨hexact.removing fun _ hmem => absurd hmem List.not_mem_nil,
      fun p o ho => ?_, List.nodup_range.filter _, fun p => ?_⟩, fun p o ho => ?_⟩
  · have hlisted := (h.exact.mem_iff o.type p).mpr ⟨o, ho, rfl⟩
    exact Or.inr ((h.sound.listing o.type p hlisted o ho).2.resolve_left List.not_mem_nil)
  · simp [Store.allDestroyed]
  · have hsound := h.contents p o ho
    cases hpayload : o.payload with
    | string _ => exact Or.inl rfl
    | list _ => exact Or.inr rfl
    | file _ | directory _ | process _ | program _ =>
        rw [hpayload] at hsound
        cases hsound

-- Nothing leaks: an object is alive as long as a session leads to it.
theorem live_iff (h : store.Safe) (p : ObjectRef) :
    store.objects.get p ≠ none ↔ Graph.Reachable (store.Root []) store.Contains p :=
  h.membership.live_iff p

end Store.Safe

end Safe

end RedApid
