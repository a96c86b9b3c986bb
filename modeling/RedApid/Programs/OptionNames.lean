import RedApid.Programs.OptionHistory
import RedApid.Store.Filing
import RedApid.Store.Lending
import RedApid.Store.Sequences

namespace RedApid

open Memory

section Append

variable {array : ArrayRemove} {pool : List Hold} {base store : Store} {session : SessionRef}
  {names : ObjectRef} {items : List ObjectRef}

theorem Store.Lent.payload_eq {payload : Payload} (h : base.Lent store session names payload)
    {object : ObjectRef} {other : Payload} (hobject : base.payload object = some other) :
    store.payload object = some other := by
  have hne : object ≠ names := by
    rintro rfl
    unfold Store.payload at hobject
    rw [h.fresh] at hobject
    cases hobject
  obtain ⟨o, ho, rfl⟩ := Option.map_eq_some_iff.mp hobject
  unfold Store.payload
  rw [h.others object hne, ho]
  rfl

-- The list of the names, while they are appended.
structure Lending (array : ArrayRemove) (pool : List Hold) (base store : Store)
    (session : SessionRef) (names : ObjectRef) (items : List ObjectRef) : Prop where
  lent : base.Lent store session names (.list items)
  steps : Relation.ReflTransGen (CleanStep array) (pool, base) (pool, store)
  strings : ∀ item ∈ items, ∃ s, base.payload item = some (.string s)

theorem Lending.append (h : Lending array pool base store session names items)
    (hsound : Sound pool base) (hfiles : base.InFiles) (hdirect : array.Direct)
    (append : Option APIError) {item : ObjectRef}
    (hitem : ∃ s, base.payload item = some (.string s)) :
    let result := listAppendTo append names (store.idOf (some item)) store
    (result.1 = .success ∧ Lending array pool base result.2 session names (items ++ [item])) ∨
      (result.1 ≠ .success ∧ result.2 = store) := by
  obtain ⟨id, hnew⟩ := h.lent.new
  obtain ⟨s, hstring⟩ := hitem
  have hfound := (hsound.steps h.steps).inventoryGetObject_idOf (hfiles.steps hdirect h.steps)
    (h.lent.payload_eq hstring)
  obtain ⟨operations, hoperations⟩ :=
    @listAppendTo_operations array store append names (store.idOf (some item)) _ hnew
  have hstep := (hsound.steps h.steps).cleanStep
    (.listAppendTo pool store append names (store.idOf (some item)) _ hnew rfl) hoperations
  rcases listAppendTo_cases append (store.idOf (some item)) hnew with
    ⟨hfailed, hsame⟩ | ⟨other, -, -, -, hsuccess⟩
  · exact Or.inr ⟨hfailed, hsame⟩
  · left
    obtain ⟨-, happended⟩ := listAppendTo_success hnew hfound (congrArg Prod.fst hsuccess)
    have hne : item ≠ names := by
      rintro rfl
      unfold Store.payload at hstring
      rw [h.lent.fresh] at hstring
      cases hstring
    rw [happended] at hstep ⊢
    refine ⟨rfl, h.lent.appendItem hne, h.steps.tail hstep, fun other hmem => ?_⟩
    rcases List.mem_append.mp hmem with hmem | hmem
    · exact h.strings other hmem
    · rw [List.mem_singleton.mp hmem]
      exact ⟨s, hstring⟩

-- All of the names are appended, or the list stays with those in front of the one that failed.
theorem Lending.appendNames (h : Lending array pool base store session names items)
    (hsound : Sound pool base) (hfiles : base.InFiles) (hdirect : array.Direct)
    (append : Nat → Option APIError) (customOptions : List ProgramCustomOption) (i : Nat)
    (hnames : ∀ customOption ∈ customOptions, ∃ s,
      base.payload customOption.name = some (.string s)) :
    let result := appendNames append names customOptions i store
    (result.1 = .success ∧
        Lending array pool base result.2 session names (items ++ customOptions.map (·.name))) ∨
      (result.1 ≠ .success ∧ ∃ items, Lending array pool base result.2 session names items) := by
  induction customOptions generalizing store items i with
  | nil =>
      rw [List.map_nil, List.append_nil]
      exact Or.inl ⟨rfl, h⟩
  | cons customOption customOptions ih =>
      have hfirst := h.append hsound hfiles hdirect (append i) (hnames customOption List.mem_cons_self)
      simp only [RedApid.appendNames]
      rcases hresult : listAppendTo (append i) names (store.idOf (some customOption.name)) store with
        ⟨code, other⟩
      rw [hresult] at hfirst
      rcases hfirst with ⟨hsuccess, hlending⟩ | ⟨hfailed, hsame⟩
      · obtain rfl : code = .success := hsuccess
        have hrest := ih hlending (i + 1) fun other hmem => hnames other (List.mem_cons_of_mem _ hmem)
        rw [List.append_assoc] at hrest
        exact hrest
      · obtain rfl : other = store := hsame
        have hcode : code ≠ .success := hfailed
        cases code with
        | success => exact absurd rfl hcode
        | _ => exact Or.inr ⟨hcode, items, h⟩

end Append

section Create

variable {array : ArrayRemove} {pool : List Hold} {base store : Store} {session : SessionRef}
  {names : ObjectRef} {items : List ObjectRef} {outcome : ListCreation}

theorem Lending.create (hsound : Sound pool base) {outcome : ObjectCreation}
    (hok : base.createObject outcome (.list []) (some session) OBJECT_CREATE_FLAG_EXTERNAL =
      (.ok names, store)) : Lending array pool base store session names [] := by
  have hcreated := congrArg Prod.fst hok
  have hplace := createObject_ok_place hcreated
  have hstep := @Sound.createStep array pool base hsound outcome (.list []) session rfl rfl
    fun hleaves => hplace hleaves.2.2.2.2
  have hlent := createObject_lent rfl hcreated
  rw [hok] at hstep hlent
  exact ⟨hlent, .single hstep, fun item hmem => (by cases hmem)⟩

-- The list goes again, and with it the locks on the names.
theorem Lending.remove (h : Lending array pool base store session names items)
    (hsound : Sound pool base) (hfiles : base.InFiles) :
    base.Unchanged (objectRemoveExternalReference array names session store) ∧
      Relation.ReflTransGen (CleanStep array) (pool, base)
        (pool, objectRemoveExternalReference array names session store) := by
  obtain ⟨id, hnew⟩ := h.lent.new
  have hreferenced : ∀ hold ∈ (Payload.list items).holds, ∃ o,
      base.objects.get hold.object = some o ∧ o.Referenced := by
    intro hold hmem
    obtain ⟨item, hitem, rfl⟩ := List.mem_map.mp hmem
    obtain ⟨s, hstring⟩ := h.strings item hitem
    obtain ⟨o, ho, hpayload⟩ := Option.map_eq_some_iff.mp hstring
    have htype : base.objectType item = some .string := by
      unfold Store.objectType
      rw [ho, Option.map_some, hfiles.typed item o ho, hpayload]
      rfl
    exact ⟨o, ho, (hsound.listing.referenced_of_get (hfiles.filed item htype) ho).2⟩
  obtain ⟨hobjects, hsessions⟩ :=
    @Store.Lent.remove array _ _ _ _ _ h.lent hsound.counted hreferenced
  have hrelease : (objectRelease array names session store).2 =
      objectRemoveExternalReference array names session store := by
    unfold objectRelease
    rw [hnew]
    dsimp only
    rw [if_neg (by decide)]
  have hstep := @Sound.cleanStep array _ _ store _ (hsound.steps h.steps) [.release names session]
    (.objectRelease pool store names session) rfl
  rw [hrelease] at hstep
  exact ⟨⟨hobjects, hsessions⟩, h.steps.tail hstep⟩

end Create

section Names

variable {array : ArrayRemove} {pool : List Hold} {store other : Store} {program : ObjectRef}
  {p : Program} {status : ProgramStatus}

-- The list of all names is handed out.
theorem Lending.exact {outcomes : NamesOutcomes} {session : SessionRef} {names : ObjectRef}
    (h : Lending array pool store other session names (p.config.customOptions.map (·.name)))
    (hp : store.payload program = some (.program p))
    (hvalid : store.ValidOptions p.config.customOptions) :
    OptionsExact status program (.names outcomes session) store
        (.ok (some (other.idOf (some names))), other) ∧
      Continues array pool program store other := by
  obtain ⟨id, hnew⟩ := h.lent.new
  have hp' := h.lent.payload_eq hp
  obtain ⟨hvalid', hentries⟩ := hvalid.congr fun _ _ hs => h.lent.payload_eq hs
  obtain ⟨hoptions, hlist⟩ := Store.customEntries_eq hp
  obtain ⟨hoptions', hlist'⟩ := Store.customEntries_eq hp'
  have hid : other.objectId names = some id := by
    unfold Store.objectId
    rw [hnew, Option.map_some]
  have hpayload : other.payload names = some (.list (p.config.customOptions.map (·.name))) := by
    unfold Store.payload
    rw [hnew, Option.map_some]
  refine ⟨⟨?_, fun code herror => (by cases herror), fun given hok => ?_, trivial⟩,
    h.steps, p, hp', hvalid'⟩
  · rw [hlist']
    exact hvalid'.distinct
  · cases hok
    refine ⟨names, h.lent.fresh, ?_, Option.some_ne_none _, ?_, hoptions'.trans hoptions.symm, ?_⟩
    · change some (other.idOf (some names)) = other.objectId names
      rw [Store.idOf_of_get hnew, hid]
    · rw [hoptions]
      exact hpayload
    · exact hlist'.trans (hentries.trans hlist.symm)

-- Exactly if the list that could not be created has left no entry.
theorem Sound.names_exact_iff (h : Sound pool store) (hfiles : store.InFiles)
    (hdirect : array.Direct) (hp : store.payload program = some (.program p))
    (hvalid : store.ValidOptions p.config.customOptions) (outcomes : NamesOutcomes)
    (session : SessionRef) :
    (OptionsExact status program (.names outcomes session) store
        ((OptionCall.names outcomes session).run array status program store) ↔
      ¬(OptionCall.names outcomes session).Fails status program store) ∧
    (¬(OptionCall.names outcomes session).Fails status program store →
      Continues array pool program store
        ((OptionCall.names outcomes session).run array status program store).2) := by
  have hself : Continues array pool program store store := ⟨.refl, p, hp, hvalid⟩
  unfold OptionCall.run programGetCustomOptionNames OptionCall.Fails
  rw [hp]
  dsimp only
  by_cases hpurged : status.purged = true
  · rw [if_pos hpurged]
    refine ⟨iff_of_true (.of_error (by decide) hp hvalid trivial) fun hfails => ?_, fun _ => hself⟩
    rw [hpurged] at hfails
    cases hfails.1
  rw [if_neg hpurged]
  rcases listAllocate_createObject outcomes.list (some session) OBJECT_CREATE_FLAG_EXTERNAL store with
    ⟨code, hcode, hallocate, hnot⟩ | ⟨hcalloc, harray, hallocate⟩
  · rw [hallocate]
    refine ⟨iff_of_true (.of_error hcode hp hvalid trivial) fun hfails => ?_, fun _ => hself⟩
    exact hnot ⟨hfails.2.1, hfails.2.2.1⟩
  rw [hallocate]
  have hstrings : ∀ customOption ∈ p.config.customOptions, ∃ s,
      store.payload customOption.name = some (.string s) := hvalid.names
  rcases hcreate : store.createObject outcomes.list.objectCreate (.list []) (some session)
    OBJECT_CREATE_FLAG_EXTERNAL with ⟨code | names, other⟩
  · have herror := congrArg Prod.fst hcreate
    have hobjects := createObject_sameObjects herror
    have hcases := createObject_failed_cases outcomes.list.objectCreate (.list []) (some session)
      OBJECT_CREATE_FLAG_EXTERNAL fun object hok => by
        rw [herror] at hok
        cases hok
    rw [hcreate] at hobjects hcases
    rcases hcases with ⟨hleaves, hne⟩ | ⟨hnot, hsessions, -⟩
    · have hfails : status.purged = false ∧ outcomes.list.calloc = true ∧
          outcomes.list.arrayCreate = none ∧ store.LeavesEntry outcomes.list.objectCreate
            (some session) OBJECT_CREATE_FLAG_EXTERNAL :=
        ⟨Bool.eq_false_iff.mpr hpurged, hcalloc, harray, hleaves⟩
      exact ⟨iff_of_false (fun hexact => hne (hexact.failed code rfl).2.sessions)
        fun hnot => hnot hfails, fun hnot => absurd hfails hnot⟩
    · have hunchanged : store.Unchanged other := ⟨hobjects, hsessions⟩
      have hstep := @Sound.createStep array pool store h outcomes.list.objectCreate (.list []) session
        rfl rfl hnot
      rw [hcreate] at hstep
      exact ⟨iff_of_true (.of_unchanged (createObject_error_code herror) hp hvalid hunchanged trivial)
        fun hfails => hnot hfails.2.2.2, fun _ => .of_unchanged hp hvalid hunchanged (.single hstep)⟩
  · have hplace := createObject_ok_place (congrArg Prod.fst hcreate)
    have hfails : ¬(status.purged = false ∧ outcomes.list.calloc = true ∧
        outcomes.list.arrayCreate = none ∧ store.LeavesEntry outcomes.list.objectCreate
          (some session) OBJECT_CREATE_FLAG_EXTERNAL) :=
      fun hfails => hplace hfails.2.2.2.2.2.2.2
    have hlending := @Lending.create array _ _ _ _ _ h _ hcreate
    have happended := hlending.appendNames h hfiles hdirect outcomes.append p.config.customOptions 0
      hstrings
    dsimp only
    rcases hresult : appendNames outcomes.append names p.config.customOptions 0 other with ⟨code, last⟩
    rw [hresult] at happended
    rcases happended with ⟨hsuccess, hlending⟩ | ⟨hfailed, items, hlending⟩
    · obtain rfl : code = .success := hsuccess
      obtain ⟨hexact, hcontinues⟩ := hlending.exact hp hvalid
      exact ⟨iff_of_true hexact hfails, fun _ => hcontinues⟩
    · have hcode : code ≠ .success := hfailed
      obtain ⟨hunchanged, hsteps⟩ := hlending.remove h hfiles
      cases code with
      | success => exact absurd rfl hcode
      | _ =>
          exact ⟨iff_of_true (.of_unchanged hcode hp hvalid hunchanged trivial) hfails,
            fun _ => .of_unchanged hp hvalid hunchanged hsteps⟩

end Names

section Histories

variable {pool : List Hold} {store : Store} {program : ObjectRef} {p : Program}

theorem Sound.call_exact_iff {array : ArrayRemove} (h : Sound pool store) (hfiles : store.InFiles)
    (hdirect : array.Direct) (hp : store.payload program = some (.program p))
    (hvalid : store.ValidOptions p.config.customOptions) (status : ProgramStatus) (call : OptionCall)
    (happend : call.AppendsAgain) :
    (OptionsExact status program call store (call.run array status program store) ↔
      ¬call.Fails status program store) ∧
    (¬call.Fails status program store →
      Continues array pool program store (call.run array status program store).2) := by
  cases call with
  | set outcomes nameId valueId =>
      obtain ⟨hexact, hcontinues⟩ := @Sound.set_exact array pool store program p status h hdirect
        hfiles.typed hp hvalid outcomes nameId valueId
      exact ⟨iff_of_true hexact not_false, fun _ => hcontinues⟩
  | remove outcomes nameId => exact h.remove_exact_iff hdirect hp hvalid happend
  | get calloc session nameId =>
      obtain ⟨hexact, hcontinues⟩ := @Sound.get_exact array pool store program p status h hp hvalid
        calloc session nameId
      exact ⟨iff_of_true hexact not_false, fun _ => hcontinues⟩
  | names outcomes session => exact h.names_exact_iff hfiles hdirect hp hvalid outcomes session

-- Custom options are a map in the order of its entries as long as no failed call moves an option
-- to the end or leaves a list in a session.
theorem custom_options_exact_iff
    (hsteps : Relation.ReflTransGen (CleanStep .byIndex) ([], Store.init) (pool, store))
    (hp : store.payload program = some (.program p))
    (hvalid : store.ValidOptions p.config.customOptions) {calls : List (ProgramStatus × OptionCall)}
    (happend : ∀ call ∈ calls, call.2.AppendsAgain) :
    HistoryExact .byIndex program calls store ↔ HistoryMeets .byIndex program calls store := by
  induction calls generalizing store p with
  | nil => exact Iff.rfl
  | cons call calls ih =>
      obtain ⟨status, call⟩ := call
      have hdirect := ArrayRemove.byIndex_direct
      obtain ⟨hiff, hcontinues⟩ := (sound_of_steps hsteps).call_exact_iff
        (Store.InFiles.init.steps hdirect hsteps) hdirect hp hvalid status call
        (happend _ List.mem_cons_self)
      have hrest : ¬call.Fails status program store →
          (HistoryExact .byIndex program calls (call.run .byIndex status program store).2 ↔
            HistoryMeets .byIndex program calls (call.run .byIndex status program store).2) := by
        intro hnot
        obtain ⟨hcall, p', hp', hvalid'⟩ := hcontinues hnot
        exact ih (hsteps.trans hcall) hp' hvalid' fun other hmem =>
          happend other (List.mem_cons_of_mem _ hmem)
      unfold HistoryExact HistoryMeets
      constructor
      · rintro ⟨hexact, hexacts⟩
        have hnot := hiff.mp hexact
        exact ⟨hnot, (hrest hnot).mp hexacts⟩
      · rintro ⟨hnot, hmeets⟩
        exact ⟨hiff.mpr hnot, (hrest hnot).mpr hmeets⟩

-- A string with one letter.
def letterString (byte : UInt8) : StringObject :=
  ⟨Block.malloc (fun i => if i = 0 then byte else 0) 2, 1, 2⟩

-- A session, a string, a list and another string.
def letterStore : Store :=
  ((((sessionCreate ⟨true, none, none, none⟩ 10 Store.init).2.createObject ⟨true, none⟩
    (.string (letterString 97)) (some 0) OBJECT_CREATE_FLAG_EXTERNAL).2.createObject
    ⟨true, none⟩ (.list []) (some 0) OBJECT_CREATE_FLAG_EXTERNAL).2.createObject ⟨true, none⟩
    (.string (letterString 98)) (some 0) OBJECT_CREATE_FLAG_EXTERNAL).2

theorem letterStore_steps :
    Relation.ReflTransGen (CleanStep .byIndex) ([], Store.init) ([], letterStore) :=
  (((Relation.ReflTransGen.refl.tail
    ⟨.sessionCreate [] _ ⟨true, none, none, none⟩ 10, Store.entriesLive_of_cells rfl⟩).tail
    ⟨.created [] _ ⟨true, none⟩ (.string (letterString 97)) (some 0)
      OBJECT_CREATE_FLAG_EXTERNAL 0 rfl nofun rfl, Store.entriesLive_of_cells rfl⟩).tail
    ⟨.created [] _ ⟨true, none⟩ (.list []) (some 0) OBJECT_CREATE_FLAG_EXTERNAL 1 rfl nofun rfl,
      Store.entriesLive_of_cells rfl⟩).tail
    ⟨.created [] _ ⟨true, none⟩ (.string (letterString 98)) (some 0)
      OBJECT_CREATE_FLAG_EXTERNAL 2 rfl nofun rfl, Store.entriesLive_of_cells rfl⟩

-- Each name is the value of the other option.
def optionProgram : Program := smallProgram.withOptions [⟨0, 2⟩, ⟨2, 0⟩]

def optionStore : Store :=
  ((acquireAll optionProgram.holds.reverse letterStore).createObject ⟨true, none⟩
    (.program optionProgram) (some 0) OBJECT_CREATE_FLAG_EXTERNAL).2

theorem optionStore_steps :
    Relation.ReflTransGen (CleanStep .byIndex) ([], Store.init) ([], optionStore) := by
  have hacquired := acquireAll_steps optionProgram.holds.reverse letterStore_steps (by decide)
  rw [List.reverse_reverse] at hacquired
  exact hacquired.tail ⟨.created [] _ ⟨true, none⟩ (.program optionProgram) (some 0)
    OBJECT_CREATE_FLAG_EXTERNAL 3 rfl (by decide) rfl, Store.entriesLive_of_cells rfl⟩

set_option maxRecDepth 4000 in
theorem optionStore_valid : optionStore.ValidOptions optionProgram.config.customOptions := by
  refine ⟨?_, ?_, ?_⟩
  · exact List.forall_mem_cons.mpr ⟨⟨_, rfl⟩, List.forall_mem_singleton.mpr ⟨_, rfl⟩⟩
  · exact List.forall_mem_cons.mpr ⟨⟨_, rfl⟩, List.forall_mem_singleton.mpr ⟨_, rfl⟩⟩
  · have hentries : optionStore.entriesOf optionProgram.config.customOptions =
        [([97], 2), ([98], 0)] := rfl
    unfold Distinct
    rw [hentries]
    decide

set_option maxRecDepth 4000 in
theorem optionStore_custom_options :
    HistoryExact .byIndex 3 [(⟨false, 0⟩, .set ⟨none, none⟩ 3 3), (⟨false, 0⟩, .get true 0 1),
      (⟨false, 0⟩, .remove ⟨none, none⟩ 1)] optionStore := by
  refine (custom_options_exact_iff optionStore_steps rfl optionStore_valid ?_).mpr
    ⟨not_false, not_false, fun hfails => hfails.2.1 rfl, trivial⟩
  exact List.forall_mem_cons.mpr ⟨trivial, List.forall_mem_cons.mpr ⟨trivial,
    List.forall_mem_singleton.mpr rfl⟩⟩

-- The first option is not removed, but it is the last one now.
set_option maxRecDepth 4000 in
theorem failed_remove_moves_option :
    Relation.ReflTransGen (CleanStep .byIndex) ([], Store.init) ([], optionStore) ∧
      optionStore.ValidOptions (optionStore.customOptions 3) ∧
      (programRemoveCustomOption .byIndex ⟨false, 0⟩ 3 ⟨none, some noFreeMemory⟩ 1 optionStore).1 =
        .error .noFreeMemory ∧
      optionStore.customEntries 3 = [([97], 2), ([98], 0)] ∧
      (programRemoveCustomOption .byIndex ⟨false, 0⟩ 3 ⟨none, some noFreeMemory⟩ 1
        optionStore).2.customEntries 3 = [([98], 0), ([97], 2)] :=
  ⟨optionStore_steps, optionStore_valid, rfl, rfl, rfl⟩

end Histories

end RedApid
