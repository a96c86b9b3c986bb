import RedApid.Programs.CustomOptions

namespace RedApid

open Memory

section Steps

variable {array : ArrayRemove} {pool next : List Hold} {store other : Store} {hold : Hold}

theorem Store.Kept.payload {p : ObjectRef} {payload : Payload} (h : store.Kept other)
    (hlive : other.objects.get p ≠ none) (hpayload : store.payload p = some payload) :
    other.payload p = some payload := by
  obtain ⟨o', ho'⟩ := Option.ne_none_iff_exists'.mp hlive
  obtain ⟨o, ho, -, hsame⟩ := h.get ho'
  unfold Store.payload at hpayload ⊢
  rw [ho, Option.map_some] at hpayload
  rw [ho', Option.map_some, hsame]
  exact hpayload

-- What holds nothing can be released without an effect on anything but strings.
theorem Sound.releaseStrings (hdirect : array.Direct) {holds : List Hold}
    (h : Sound (holds ++ pool) store)
    (hstrings : ∀ hold ∈ holds, ∃ s, store.payload hold.object = some (.string s)) :
    Relation.ReflTransGen (CleanStep array) (holds ++ pool, store)
        (pool, releaseAll array holds store) ∧
      ∀ p payload, store.payload p = some payload → payload.type ≠ .string →
        (releaseAll array holds store).payload p = some payload := by
  induction holds generalizing store with
  | nil => exact ⟨.refl, fun _ _ hpayload _ => hpayload⟩
  | cons hold holds ih =>
      have hstep := @Sound.releaseStep array (holds ++ pool) store hold h
      have hsound := hstep.sound h
      have hkept : store.Kept (hold.release array store) := .of_runs (hold.release_runs store)
      obtain ⟨o, ho, hpos, -⟩ := h.holding.accounted.count_pos
      obtain ⟨s, hstring⟩ := hstrings hold List.mem_cons_self
      have hpayload : o.payload = .string s := by
        unfold Store.payload at hstring
        rw [ho] at hstring
        exact Option.some.inj hstring
      obtain ⟨htouches, -⟩ := @Hold.release_string_touches array store hold o s hdirect h.counted ho
        hpayload (Nat.ne_of_gt hpos)
      obtain ⟨hsteps, hothers⟩ := ih hsound fun other hmem => by
        obtain ⟨s', hstring'⟩ := hstrings other (List.mem_cons_of_mem _ hmem)
        exact ⟨s', hkept.payload
          (hsound.holding.accounted.live_of_mem (List.mem_append_left _ hmem)) hstring'⟩
      refine ⟨(Relation.ReflTransGen.single hstep).trans hsteps, fun p payload hp htype => ?_⟩
      refine hothers p payload ?_ htype
      have hne : p ≠ hold.object := by
        rintro rfl
        rw [hstring] at hp
        cases hp
        exact htype rfl
      unfold Store.payload
      rw [htouches.get p hne]
      exact hp

end Steps

section Configs

variable {array : ArrayRemove} {pool new replaced : List Hold} {store other : Store}
  {program : ObjectRef} {p : Program} {config : ProgramConfig}

def optionHolds (customOptions : List ProgramCustomOption) : List Hold :=
  customOptions.flatMap fun customOption =>
    [lockedHold customOption.name, lockedHold customOption.value]

theorem ProgramConfig.holds_locked (config : ProgramConfig) {hold : Hold}
    (h : hold ∈ config.holds) : hold.locked = true := by
  have hif : ∀ (condition : Prop) [Decidable condition] (object : ObjectRef),
      hold ∈ (if condition then [lockedHold object] else []) → hold.locked = true := by
    intro condition _ object hmem
    split_ifs at hmem
    · rw [List.mem_singleton.mp hmem]
      rfl
    · cases hmem
  unfold holds at h
  simp only [List.mem_append, List.mem_flatMap] at h
  rcases h with ((((⟨_, -, hmem⟩ | hmem) | hmem) | hmem) | hmem) | hmem
  · simp only [List.mem_cons, List.not_mem_nil, or_false] at hmem
    rcases hmem with rfl | rfl <;> rfl
  · exact hif _ _ hmem
  · exact hif _ _ hmem
  · exact hif _ _ hmem
  · exact hif _ _ hmem
  · simp only [List.mem_cons, List.not_mem_nil, or_false] at hmem
    rcases hmem with rfl | rfl | rfl | rfl <;> rfl

theorem Store.setPayload_payload {payload : Payload} (hlive : store.objects.get program ≠ none) :
    (store.setPayload program payload).payload program = some payload := by
  obtain ⟨o, ho⟩ := Option.ne_none_iff_exists'.mp hlive
  unfold setPayload Store.payload
  rw [Store.modifyObject_objects, Heap.get_modify_self, ho]
  rfl

theorem Store.setPayload_payload_ne {payload : Payload} {object : ObjectRef} (h : object ≠ program) :
    (store.setPayload program payload).payload object = store.payload object := by
  unfold setPayload Store.payload
  rw [Store.modifyObject_objects, Heap.get_modify_ne h]

-- The config takes over what was acquired for it, what it does not refer to any more is given
-- back.
theorem Sound.setConfig (h : Sound (new ++ pool) store)
    (hp : store.payload program = some (.program p))
    (hperm : (config.holds ++ replaced).Perm (p.config.holds ++ new)) :
    CleanStep array (new ++ pool, store)
      (replaced ++ pool, store.setPayload program (.program { p with config })) := by
  obtain ⟨o, ho, hpayload⟩ := Option.map_eq_some_iff.mp hp
  have hstep : HolderStep array (new ++ pool, store)
      (replaced ++ pool, store.setPayload program (.program { p with config })) := by
    refine .setPayload _ _ store program o _ ho (by rw [hpayload]; nofun) (by rw [hpayload]; rfl)
      (fun hold hmem hlocked => ?_) ?_
    · have hmem' : hold ∈ p.holds := by
        change hold ∈ p.scheduler.holds ++ config.holds ++ _ at hmem
        simp only [List.mem_append] at hmem
        unfold Program.holds
        simp only [List.mem_append]
        rcases hmem with (hscheduler | hconfig) | hrest
        · exact Or.inl (Or.inl hscheduler)
        · have htrue := config.holds_locked hconfig
          rw [hlocked] at htrue
          cases htrue
        · exact Or.inr hrest
      intro q hq
      exact h.holding.shaped.plainApart program o ho hold (by rw [hpayload]; exact hmem') hlocked q hq
    · rw [hpayload]
      change ((p.scheduler.holds ++ config.holds ++ _) ++ (replaced ++ pool)).Perm
        ((p.scheduler.holds ++ p.config.holds ++ _) ++ (new ++ pool))
      refine List.perm_iff_count.mpr fun hold => ?_
      have hcount := hperm.count_eq hold
      simp only [List.count_append] at hcount ⊢
      omega
  exact @Sound.cleanStep array _ _ store _ h [.setPayload program (.program { p with config })] hstep
    rfl

-- All strings that the new config refers to stay as they are.
theorem Sound.storeConfig (hdirect : array.Direct) (h : Sound (new ++ pool) store)
    (hp : store.payload program = some (.program p))
    (hperm : (config.holds ++ replaced).Perm (p.config.holds ++ new))
    (hstrings : ∀ hold ∈ replaced, ∃ s, store.payload hold.object = some (.string s)) :
    Relation.ReflTransGen (CleanStep array) (new ++ pool, store) (pool, releaseAll array replaced
        (store.setPayload program (.program { p with config }))) ∧
      (releaseAll array replaced (store.setPayload program
        (.program { p with config }))).payload program = some (.program { p with config }) ∧
      ∀ string s, lockedHold string ∈ config.holds → store.payload string = some (.string s) →
        (releaseAll array replaced (store.setPayload program
          (.program { p with config }))).payload string = some (.string s) := by
  have hstep := @Sound.setConfig array pool new replaced store program p config h hp hperm
  have hsound := hstep.sound h
  have hne : ∀ object s, store.payload object = some (.string s) → object ≠ program := by
    rintro object s hstring rfl
    rw [hp] at hstring
    cases hstring
  have hlive : store.objects.get program ≠ none := by
    intro hnone
    unfold Store.payload at hp
    rw [hnone] at hp
    cases hp
  obtain ⟨hsteps, hothers⟩ := @Sound.releaseStrings array pool _ hdirect replaced hsound
    fun hold hmem => by
      obtain ⟨s, hstring⟩ := hstrings hold hmem
      exact ⟨s, (Store.setPayload_payload_ne (hne _ s hstring)).trans hstring⟩
  have hprogram := hothers program _ (Store.setPayload_payload hlive) nofun
  refine ⟨(Relation.ReflTransGen.single hstep).trans hsteps, hprogram, fun string s hmem hstring => ?_⟩
  obtain ⟨o, ho, -⟩ := (hsound.steps hsteps).held hprogram
    (Program.config_mem_holds { p with config } hmem)
  refine (releaseAll_kept array replaced _).1.payload ?_
    ((Store.setPayload_payload_ne (hne _ s hstring)).trans hstring)
  have ho' : (releaseAll array replaced (store.setPayload program
    (.program { p with config }))).objects.get string = some o := ho
  rw [ho']
  exact Option.some_ne_none o

theorem Program.withOptions_holds (p : Program) (customOptions : List ProgramCustomOption) :
    (p.withOptions customOptions).config.holds =
      optionHolds customOptions ++ (p.withOptions []).config.holds := by
  unfold ProgramConfig.holds
  simp only [List.append_assoc]
  rfl

theorem Program.withOptions_perm {customOptions : List ProgramCustomOption}
    (h : (optionHolds customOptions ++ replaced).Perm (optionHolds p.config.customOptions ++ new)) :
    ((p.withOptions customOptions).config.holds ++ replaced).Perm (p.config.holds ++ new) := by
  have hformer : p.config.holds = optionHolds p.config.customOptions ++
      (p.withOptions []).config.holds := p.withOptions_holds p.config.customOptions
  rw [p.withOptions_holds, hformer]
  refine List.perm_iff_count.mpr fun hold => ?_
  have hcount := h.count_eq hold
  simp only [List.count_append] at hcount ⊢
  omega

theorem mem_optionHolds {customOptions : List ProgramCustomOption} {customOption : ProgramCustomOption}
    (h : customOption ∈ customOptions) :
    lockedHold customOption.name ∈ optionHolds customOptions ∧
      lockedHold customOption.value ∈ optionHolds customOptions := by
  constructor
  · exact List.mem_flatMap.mpr ⟨customOption, h, List.mem_cons_self⟩
  · exact List.mem_flatMap.mpr ⟨customOption, h, List.mem_cons_of_mem _ List.mem_cons_self⟩

theorem optionHolds_subset (p : Program) {hold : Hold}
    (h : hold ∈ optionHolds p.config.customOptions) : hold ∈ p.config.holds := by
  unfold ProgramConfig.holds
  simp only [List.mem_append]
  exact Or.inl (Or.inl (Or.inl (Or.inl (Or.inl h))))

end Configs

section Lookup

variable {store other : Store} {name : CString}

theorem programFindCustomOption_congr (h : ∀ string, other.text string = store.text string)
    (customOptions : List ProgramCustomOption) (i : Nat) :
    programFindCustomOption other name customOptions i =
      programFindCustomOption store name customOptions i := by
  induction customOptions generalizing i with
  | nil => rfl
  | cons customOption customOptions ih =>
      unfold programFindCustomOption
      rw [h, ih]

-- Nothing is found, or the first option with this name.
theorem programFindCustomOption_cases (store : Store) (name : CString)
    (customOptions : List ProgramCustomOption) (i : Nat) :
    (programFindCustomOption store name customOptions i = none ∧
        fold name ∉ (store.entriesOf customOptions).map fun entry => fold entry.1) ∨
      ∃ front customOption back, customOptions = front ++ customOption :: back ∧
        programFindCustomOption store name customOptions i =
          some (i + front.length, customOption) ∧
        fold (store.text customOption.name) = fold name ∧
        fold name ∉ (store.entriesOf front).map fun entry => fold entry.1 := by
  induction customOptions generalizing i with
  | nil => exact Or.inl ⟨rfl, List.not_mem_nil⟩
  | cons customOption customOptions ih =>
      unfold programFindCustomOption
      by_cases hsame : fold (store.text customOption.name) = fold name
      · have heq : strcaseeq (store.text customOption.name) name = true := decide_eq_true hsame
        rw [if_pos heq]
        exact Or.inr ⟨[], customOption, customOptions, rfl, rfl, hsame, List.not_mem_nil⟩
      · have hne : ¬strcaseeq (store.text customOption.name) name = true :=
          fun heq => hsame (of_decide_eq_true heq)
        rw [if_neg hne]
        have hcons : ∀ rest, fold name ∉ (store.entriesOf rest).map (fun entry => fold entry.1) →
            fold name ∉ (store.entriesOf (customOption :: rest)).map fun entry => fold entry.1 := by
          intro rest hnot hmem
          rcases List.mem_cons.mp hmem with heq | hmem
          · exact hsame heq.symm
          · exact hnot hmem
        rcases ih (i + 1) with ⟨hnone, hnot⟩ | ⟨front, found, back, rfl, hfound, hfold, hnot⟩
        · exact Or.inl ⟨hnone, hcons _ hnot⟩
        · refine Or.inr ⟨customOption :: front, found, back, rfl, ?_, hfold, hcons _ hnot⟩
          rw [hfound, List.length_cons]
          congr 2
          omega

theorem Store.entriesOf_append (store : Store) (front back : List ProgramCustomOption) :
    store.entriesOf (front ++ back) = store.entriesOf front ++ store.entriesOf back :=
  List.map_append

theorem Store.entriesOf_cons (store : Store) (customOption : ProgramCustomOption)
    (back : List ProgramCustomOption) : store.entriesOf (customOption :: back) =
      (store.text customOption.name, customOption.value) :: store.entriesOf back :=
  rfl

theorem Store.text_congr {string : ObjectRef} (h : other.payload string = store.payload string) :
    other.text string = store.text string := by
  unfold text
  rw [h]

theorem Store.entriesOf_congr {customOptions : List ProgramCustomOption}
    (h : ∀ customOption ∈ customOptions, other.text customOption.name = store.text customOption.name) :
    other.entriesOf customOptions = store.entriesOf customOptions := by
  unfold entriesOf
  refine List.map_congr_left fun customOption hmem => ?_
  rw [h customOption hmem]

theorem Store.customEntries_eq {program : ObjectRef} {p : Program}
    (hp : store.payload program = some (.program p)) :
    store.customOptions program = p.config.customOptions ∧
      store.customEntries program = store.entriesOf p.config.customOptions := by
  unfold customEntries customOptions
  rw [hp]
  exact ⟨rfl, rfl⟩

end Lookup

section Stored

variable {array : ArrayRemove} {pool new replaced : List Hold} {store other : Store}
  {program : ObjectRef} {p : Program} {customOptions : List ProgramCustomOption}

theorem Store.ValidOptions.hold_string (h : store.ValidOptions customOptions) {hold : Hold}
    (hmem : hold ∈ optionHolds customOptions) :
    ∃ s, store.payload hold.object = some (.string s) := by
  obtain ⟨customOption, hoption, hhold⟩ := List.mem_flatMap.mp hmem
  simp only [List.mem_cons, List.not_mem_nil, or_false] at hhold
  rcases hhold with rfl | rfl
  · exact h.names customOption hoption
  · exact h.values customOption hoption

-- The config with other options has been saved.
structure OptionsStored (array : ArrayRemove) (pool new : List Hold) (program : ObjectRef)
    (p : Program) (customOptions : List ProgramCustomOption) (store other : Store) : Prop where
  steps : Relation.ReflTransGen (CleanStep array) (new ++ pool, store) (pool, other)
  program : other.payload program = some (.program (p.withOptions customOptions))
  valid : other.ValidOptions customOptions
  entries : other.entriesOf customOptions = store.entriesOf customOptions

theorem Sound.storeOptions (hdirect : array.Direct) (h : Sound (new ++ pool) store)
    (hp : store.payload program = some (.program p)) (hvalid : store.ValidOptions customOptions)
    (hperm : (optionHolds customOptions ++ replaced).Perm (optionHolds p.config.customOptions ++ new))
    (hreplaced : ∀ hold ∈ replaced, ∃ s, store.payload hold.object = some (.string s)) :
    OptionsStored array pool new program p customOptions store (releaseAll array replaced
      (store.setPayload program (.program (p.withOptions customOptions)))) := by
  obtain ⟨hsteps, hprogram, hstrings⟩ := h.storeConfig hdirect hp (p.withOptions_perm hperm) hreplaced
  have hholds : ∀ hold ∈ optionHolds customOptions,
      hold ∈ (p.withOptions customOptions).config.holds :=
    fun hold hmem => optionHolds_subset (p.withOptions customOptions) hmem
  have hnames : ∀ customOption ∈ customOptions, ∀ s,
      store.payload customOption.name = some (.string s) → _ :=
    fun customOption hmem s => hstrings customOption.name s (hholds _ (mem_optionHolds hmem).1)
  have hentries : (releaseAll array replaced (store.setPayload program
      (.program (p.withOptions customOptions)))).entriesOf customOptions =
      store.entriesOf customOptions := by
    refine Store.entriesOf_congr fun customOption hmem => ?_
    obtain ⟨s, hs⟩ := hvalid.names customOption hmem
    exact Store.text_congr ((hnames customOption hmem s hs).trans hs.symm)
  refine ⟨hsteps, hprogram, ⟨fun customOption hmem => ?_, fun customOption hmem => ?_, ?_⟩, hentries⟩
  · obtain ⟨s, hs⟩ := hvalid.names customOption hmem
    exact ⟨s, hnames customOption hmem s hs⟩
  · obtain ⟨s, hs⟩ := hvalid.values customOption hmem
    exact ⟨s, hstrings customOption.value s (hholds _ (mem_optionHolds hmem).2) hs⟩
  · unfold Distinct
    rw [hentries]
    exact hvalid.distinct

end Stored

section Set

variable {array : ArrayRemove} {pool : List Hold} {store : Store} {program name value : ObjectRef}
  {p : Program} {status : ProgramStatus} {outcomes : OptionOutcomes} {nameId valueId : ObjectID}

theorem Sound.found_string (h : Sound pool store) (htyped : store.Typed) {id : ObjectID}
    {string : ObjectRef} (hfound : inventoryGetObject [.string] id store = .ok string) :
    ∃ s, store.payload string = some (.string s) := by
  obtain ⟨o, ho, -, htype, -⟩ := h.found hfound
  have hstring : o.payload.type = .string := by
    rw [← htyped string o ho]
    exact List.mem_singleton.mp htype
  unfold Store.payload
  rw [ho, Option.map_some]
  cases hpayload : o.payload with
  | string s => exact ⟨s, rfl⟩
  | _ =>
      rw [hpayload] at hstring
      cases hstring

theorem Store.ValidOptions.congr {other : Store} {customOptions : List ProgramCustomOption}
    (h : store.ValidOptions customOptions)
    (hpayload : ∀ object s, store.payload object = some (.string s) →
      other.payload object = some (.string s)) :
    other.ValidOptions customOptions ∧
      other.entriesOf customOptions = store.entriesOf customOptions := by
  have hentries : other.entriesOf customOptions = store.entriesOf customOptions := by
    refine Store.entriesOf_congr fun customOption hmem => ?_
    obtain ⟨s, hs⟩ := h.names customOption hmem
    exact Store.text_congr ((hpayload _ s hs).trans hs.symm)
  refine ⟨⟨fun customOption hmem => ?_, fun customOption hmem => ?_, ?_⟩, hentries⟩
  · obtain ⟨s, hs⟩ := h.names customOption hmem
    exact ⟨s, hpayload _ s hs⟩
  · obtain ⟨s, hs⟩ := h.values customOption hmem
    exact ⟨s, hpayload _ s hs⟩
  · unfold Distinct
    rw [hentries]
    exact h.distinct

theorem Store.ValidOptions.sameShape {acquired : Store} {customOptions : List ProgramCustomOption}
    (h : store.ValidOptions customOptions) (hsame : store.SameShape acquired) :
    acquired.ValidOptions customOptions :=
  (h.congr fun object _ hs => (hsame.payload object).trans hs).1

-- An option with a new value is there in the place of the former one, or it is the last one.
theorem Store.ValidOptions.update {front back : List ProgramCustomOption}
    {customOption : ProgramCustomOption} (h : store.ValidOptions (front ++ customOption :: back))
    (hvalue : ∃ s, store.payload value = some (.string s)) :
    store.ValidOptions (front ++ { customOption with value } :: back) := by
  refine ⟨fun other hmem => ?_, fun other hmem => ?_, ?_⟩
  · rcases List.mem_append.mp hmem with hfront | hback
    · exact h.names other (List.mem_append_left _ hfront)
    · rcases List.mem_cons.mp hback with rfl | hback
      · exact h.names customOption (List.mem_append_right _ List.mem_cons_self)
      · exact h.names other (List.mem_append_right _ (List.mem_cons_of_mem _ hback))
  · rcases List.mem_append.mp hmem with hfront | hback
    · exact h.values other (List.mem_append_left _ hfront)
    · rcases List.mem_cons.mp hback with rfl | hback
      · exact hvalue
      · exact h.values other (List.mem_append_right _ (List.mem_cons_of_mem _ hback))
  · have hdistinct := h.distinct
    unfold Distinct at hdistinct ⊢
    rw [Store.entriesOf_append, Store.entriesOf_cons, List.map_append, List.map_cons] at hdistinct ⊢
    exact hdistinct

theorem Store.ValidOptions.concat {customOptions : List ProgramCustomOption}
    (h : store.ValidOptions customOptions) (hname : ∃ s, store.payload name = some (.string s))
    (hvalue : ∃ s, store.payload value = some (.string s))
    (hnot : fold (store.text name) ∉
      (store.entriesOf customOptions).map fun entry => fold entry.1) :
    store.ValidOptions (customOptions ++ [⟨name, value⟩]) := by
  refine ⟨fun other hmem => ?_, fun other hmem => ?_, ?_⟩
  · rcases List.mem_append.mp hmem with hmem | hlast
    · exact h.names other hmem
    · rw [List.mem_singleton.mp hlast]
      exact hname
  · rcases List.mem_append.mp hmem with hmem | hlast
    · exact h.values other hmem
    · rw [List.mem_singleton.mp hlast]
      exact hvalue
  · unfold Distinct
    rw [Store.entriesOf_append, List.map_append]
    exact h.distinct.append (List.nodup_singleton _) (List.disjoint_singleton.mpr hnot)

-- What the options are behind a call that has stored them.
def OptionsUpdated (array : ArrayRemove) (pool : List Hold) (program name value : ObjectRef)
    (p : Program) (store other : Store) : Prop :=
  ∃ customOptions, OptionsStored array pool [] program p customOptions store other ∧
    store.entriesOf customOptions =
      OrderedMap.update fold (store.text name) value (store.entriesOf p.config.customOptions)

theorem OptionsStored.of_acquired {new : List Hold} {acquired other : Store}
    {customOptions : List ProgramCustomOption}
    (h : OptionsStored array pool new program p customOptions acquired other)
    (hsteps : Relation.ReflTransGen (CleanStep array) (pool, store) (new ++ pool, acquired))
    (hsame : store.SameShape acquired) :
    OptionsStored array pool [] program p customOptions store other :=
  ⟨hsteps.trans h.steps, h.program, h.valid,
    h.entries.trans (Store.entriesOf_congr fun customOption _ => hsame.text customOption.name)⟩

theorem Sound.setCustomOptionValue_unchanged (h : Sound pool store)
    (hp : store.payload program = some (.program p)) :
    UnchangedOnError store
      (programSetCustomOptionValue array status program outcomes nameId valueId store) := by
  unfold programSetCustomOptionValue
  rw [hp]
  dsimp only
  by_cases hpurged : status.purged = true
  · rw [if_pos hpurged]
    exact .error store (by decide)
  rw [if_neg hpurged]
  cases hname : inventoryGetObject [.string] nameId store with
  | error code => exact .error store (inventoryGetObject_error hname)
  | ok name =>
      obtain ⟨o, ho, -, -, -, hreferenced⟩ := h.found hname
      refine .acquiring h (h.stringGetAcquiredAndLocked valueId) fun value _ _ hsound => ?_
      rw [show (⟨value, true⟩ : Hold) = lockedHold value from rfl] at hsound ⊢
      have hsame := Store.SameShape.acquire store (lockedHold value)
      have hp' := (hsame.payload program).trans hp
      cases programFindCustomOption ((lockedHold value).acquire store)
        (((lockedHold value).acquire store).text name) p.config.customOptions 0 with
      | none =>
          dsimp only
          cases outcomes.append with
          | some code => exact .error _ code.property
          | none =>
              rw [← hsame.inventoryGetObject] at hname
              obtain ⟨o, ho, -, -, -, hreferenced⟩ := hsound.found hname
              refine (programConfigReplace_unchanged ?_).cleanup ho hreferenced
              exact ((Store.SameShape.acquire _ (lockedHold name)).payload program).trans hp'
      | some found => exact programConfigReplace_unchanged hp'

theorem programConfigReplace_ok {save : Option APIError} {config : ProgramConfig}
    {replaced : List Hold} {other : Store}
    (h : programConfigReplace array id save program p config replaced store = (.ok (), other)) :
    other = releaseAll array replaced (store.setPayload program (.program { p with config })) := by
  unfold programConfigReplace at h
  cases save with
  | some code => cases h
  | none =>
      cases h
      rfl

theorem Sound.setCustomOptionValue_ok (h : Sound pool store) (hdirect : array.Direct)
    (htyped : store.Typed) (hp : store.payload program = some (.program p))
    (hvalid : store.ValidOptions p.config.customOptions) {other : Store}
    (hok : programSetCustomOptionValue array status program outcomes nameId valueId store =
      (.ok (), other)) :
    ∃ name value, inventoryGetObject [.string] nameId store = .ok name ∧
      inventoryGetObject [.string] valueId store = .ok value ∧
      OptionsUpdated array pool program name value p store other := by
  unfold programSetCustomOptionValue at hok
  rw [hp] at hok
  dsimp only at hok
  by_cases hpurged : status.purged = true
  · rw [if_pos hpurged] at hok
    cases hok
  rw [if_neg hpurged] at hok
  cases hname : inventoryGetObject [.string] nameId store with
  | error code =>
      rw [hname] at hok
      cases hok
  | ok name =>
      rw [hname] at hok
      obtain ⟨value, hvalue, hsound, hbody⟩ :=
        acquiring_eq_ok h (h.stringGetAcquiredAndLocked valueId) hok
      refine ⟨name, value, rfl, hvalue, ?_⟩
      rw [show (⟨value, true⟩ : Hold) = lockedHold value from rfl] at hsound hbody
      obtain ⟨valueObject, hvalueGet, -⟩ := h.found hvalue
      have hvalueLive : store.objects.get (lockedHold value).object ≠ none := by
        rw [show (lockedHold value).object = value from rfl, hvalueGet]
        exact Option.some_ne_none valueObject
      have hnameString := h.found_string htyped hname
      have hvalueString := h.found_string htyped hvalue
      have hsame := Store.SameShape.acquire store (lockedHold value)
      have hfirst := h.acquireStep array (lockedHold value) hvalueLive
      rw [hsame.text, programFindCustomOption_congr hsame.text] at hbody
      rcases programFindCustomOption_cases store (store.text name) p.config.customOptions 0 with
        ⟨hnone, hnot⟩ | ⟨front, customOption, back, hsplit, hfound, hfold, hnot⟩
      · rw [hnone] at hbody
        dsimp only at hbody
        cases happend : outcomes.append with
        | some code =>
            rw [happend] at hbody
            cases hbody
        | none =>
            rw [happend] at hbody
            have hother := programConfigReplace_ok (Hold.cleanup_eq_ok hbody)
            have hsame' := hsame.trans (.acquire _ (lockedHold name))
            obtain ⟨nameObject, hnameGet, -⟩ := hsound.found
              ((hsame.inventoryGetObject _ _).trans hname)
            have hnameLive : ((lockedHold value).acquire store).objects.get
                (lockedHold name).object ≠ none := by
              rw [show (lockedHold name).object = name from rfl, hnameGet]
              exact Option.some_ne_none nameObject
            have hsecond := hsound.acquireStep array (lockedHold name) hnameLive
            have hconcat := hvalid.concat hnameString hvalueString hnot
            have hstored := @Sound.storeOptions array pool [lockedHold name, lockedHold value] []
              _ program p _ hdirect (hsound.acquire (lockedHold name) hnameLive)
              ((hsame'.payload program).trans hp) (hconcat.sameShape hsame') ?_ ?_
            · rw [hother]
              refine ⟨_, hstored.of_acquired ((Relation.ReflTransGen.single hfirst).tail hsecond)
                hsame', ?_⟩
              rw [OrderedMap.update_of_not_mem value hnot, Store.entriesOf_append]
              rfl
            · unfold optionHolds
              rw [List.append_nil, List.flatMap_append]
              exact List.Perm.refl _
            · intro hold hmem
              cases hmem
      · rw [hfound] at hbody
        have hother := programConfigReplace_ok hbody
        have hupdated : p.config.customOptions.set (0 + front.length) { customOption with value } =
            front ++ { customOption with value } :: back := by
          rw [hsplit, Nat.zero_add, List.set_append_right _ _ (Nat.le_refl _), Nat.sub_self]
          rfl
        rw [hupdated] at hother
        rw [hsplit] at hvalid
        have hformer := hvalid.values customOption (List.mem_append_right _ List.mem_cons_self)
        have hstored := @Sound.storeOptions array pool [lockedHold value]
          [lockedHold customOption.value] _ program p _ hdirect hsound
          ((hsame.payload program).trans hp) ((hvalid.update hvalueString).sameShape hsame) ?_ ?_
        · rw [hother]
          refine ⟨_, hstored.of_acquired (Relation.ReflTransGen.single hfirst) hsame, ?_⟩
          rw [hsplit, Store.entriesOf_append, Store.entriesOf_append, Store.entriesOf_cons,
            Store.entriesOf_cons, OrderedMap.update_append hnot hfold]
        · rw [hsplit]
          unfold optionHolds
          refine List.perm_iff_count.mpr fun hold => ?_
          simp only [List.flatMap_append, List.flatMap_cons, List.count_append, List.count_cons,
            List.count_nil]
          omega
        · intro hold hmem
          rw [List.mem_singleton.mp hmem]
          obtain ⟨s, hs⟩ := hformer
          exact ⟨s, (hsame.payload _).trans hs⟩

end Set

section Exact

variable {array : ArrayRemove} {pool : List Hold} {store other : Store} {program : ObjectRef}
  {p : Program} {status : ProgramStatus} {call : OptionCall}
  {result : Except APIE (Option ObjectID) × Store}

-- The next call finds a program with valid options again.
structure Continues (array : ArrayRemove) (pool : List Hold) (program : ObjectRef)
    (store other : Store) : Prop where
  steps : Relation.ReflTransGen (CleanStep array) (pool, store) (pool, other)
  options : ∃ p, other.payload program = some (.program p) ∧
    other.ValidOptions p.config.customOptions

theorem OptionsStored.continues {customOptions : List ProgramCustomOption}
    (h : OptionsStored array pool [] program p customOptions store other) :
    Continues array pool program store other :=
  ⟨h.steps, _, h.program, h.valid⟩

theorem OptionsStored.customEntries {customOptions : List ProgramCustomOption}
    (h : OptionsStored array pool [] program p customOptions store other) :
    other.customEntries program = store.entriesOf customOptions :=
  (Store.customEntries_eq h.program).2.trans h.entries

theorem Store.Unchanged.payload (h : store.Unchanged other) (object : ObjectRef) :
    other.payload object = store.payload object := by
  unfold Store.payload
  rw [h.objects object]

theorem OptionsExact.of_unchanged {code : APIE} (hcode : code ≠ .success)
    (hp : store.payload program = some (.program p))
    (hvalid : store.ValidOptions p.config.customOptions) (hunchanged : store.Unchanged other)
    (hreports : call.Reports status program store (.error code)) :
    OptionsExact status program call store (.error code, other) := by
  obtain ⟨hvalid', -⟩ := hvalid.congr fun object _ hs => (hunchanged.payload object).trans hs
  refine ⟨?_, fun code' herror => ?_, fun id hok => ?_, hreports⟩
  · rw [(Store.customEntries_eq ((hunchanged.payload program).trans hp)).2]
    exact hvalid'.distinct
  · cases herror
    exact ⟨hcode, hunchanged⟩
  · cases hok

theorem OptionsExact.of_error {code : APIE} (hcode : code ≠ .success)
    (hp : store.payload program = some (.program p))
    (hvalid : store.ValidOptions p.config.customOptions)
    (hreports : call.Reports status program store (.error code)) :
    OptionsExact status program call store (.error code, store) :=
  .of_unchanged hcode hp hvalid ⟨fun _ => rfl, rfl⟩ hreports

theorem Continues.of_unchanged (hp : store.payload program = some (.program p))
    (hvalid : store.ValidOptions p.config.customOptions) (hunchanged : store.Unchanged other)
    (hsteps : Relation.ReflTransGen (CleanStep array) (pool, store) (pool, other)) :
    Continues array pool program store other :=
  ⟨hsteps, p, (hunchanged.payload program).trans hp,
    (hvalid.congr fun object _ hs => (hunchanged.payload object).trans hs).1⟩

end Exact

section Remove

variable {array : ArrayRemove} {pool : List Hold} {store : Store} {program name : ObjectRef}
  {p : Program} {status : ProgramStatus} {outcomes : OptionOutcomes} {nameId : ObjectID}
  {front back : List ProgramCustomOption} {customOption : ProgramCustomOption}

theorem Store.setPayload_self {payload : Payload} (hp : store.payload program = some payload) :
    store.setPayload program payload = store := by
  obtain ⟨o, ho, rfl⟩ := Option.map_eq_some_iff.mp hp
  unfold setPayload
  have hsame : store.modifyObject program (fun o' => { o' with payload := o.payload }) =
      store.modifyObject program id := by
    refine Store.modifyObject_congr fun o' ho' => ?_
    rw [ho] at ho'
    cases ho'
    rfl
  rw [hsame, Store.modifyObject_of_get ho, Heap.modify_id]

theorem Store.setPayload_setPayload (store : Store) (program : ObjectRef) (first second : Payload) :
    (store.setPayload program first).setPayload program second = store.setPayload program second := by
  unfold setPayload
  rw [Store.modifyObject_modifyObject]

theorem Store.ValidOptions.erase (h : store.ValidOptions (front ++ customOption :: back)) :
    store.ValidOptions (front ++ back) := by
  have hsublist : (front ++ back).Sublist (front ++ customOption :: back) :=
    (List.Sublist.refl front).append (List.sublist_cons_self customOption back)
  exact ⟨fun other hmem => h.names other (hsublist.mem hmem),
    fun other hmem => h.values other (hsublist.mem hmem),
    h.distinct.sublist ((hsublist.map _).map _)⟩

-- The last of the options with a name that occurs only once.
theorem not_mem_of_last {entries first rest : List (CString × ObjectRef)}
    {last entry : CString × ObjectRef} {key : CString}
    (hnot : fold key ∉ entries.map fun entry => fold entry.1) (hkey : fold entry.1 = fold key)
    (h : entries ++ [last] = first ++ entry :: rest) : rest = [] := by
  by_contra hne
  have hmem : entry ∈ entries := by
    rcases List.append_eq_append_iff.mp h with ⟨between, -, hrest⟩ | ⟨between, rfl, hrest⟩
    · have hlength := congrArg List.length hrest
      simp only [List.length_append, List.length_cons, List.length_nil] at hlength
      exact absurd (List.eq_nil_of_length_eq_zero (by omega)) hne
    · cases between with
      | nil =>
          cases hrest
          exact absurd rfl hne
      | cons head between =>
          cases hrest
          exact List.mem_append_right _ List.mem_cons_self
  exact hnot (hkey ▸ List.mem_map_of_mem hmem)

-- A former option at the end is another sequence, unless it has been the last one.
theorem Store.ValidOptions.moved_ne (h : store.ValidOptions (front ++ customOption :: back))
    (hback : back ≠ []) : front ++ back ++ [customOption] ≠ front ++ customOption :: back := by
  intro heq
  rw [List.append_assoc] at heq
  have hrest := List.append_cancel_left heq
  cases back with
  | nil => exact hback rfl
  | cons head back =>
      have hhead : head = customOption := (List.cons.inj hrest).1
      subst hhead
      have hdistinct := h.distinct
      unfold Distinct at hdistinct
      rw [Store.entriesOf_append, List.map_append] at hdistinct
      exact (List.nodup_cons.mp hdistinct.of_append_right).1 List.mem_cons_self

theorem Sound.removeCustomOption_saved (h : Sound pool store) (hdirect : array.Direct)
    (hp : store.payload program = some (.program p))
    (hsplit : p.config.customOptions = front ++ customOption :: back)
    (hvalid : store.ValidOptions p.config.customOptions) :
    OptionsStored array pool [] program p (front ++ back) store (releaseAll array
      [lockedHold customOption.name, lockedHold customOption.value]
      (store.setPayload program (.program (p.withOptions (front ++ back))))) := by
  rw [hsplit] at hvalid
  refine @Sound.storeOptions array pool [] _ store program p _ hdirect h hp hvalid.erase ?_ ?_
  · rw [hsplit]
    unfold optionHolds
    refine List.perm_iff_count.mpr fun hold => ?_
    simp only [List.flatMap_append, List.flatMap_cons, List.count_append, List.count_cons,
      List.count_nil]
    omega
  · intro hold hmem
    refine hvalid.hold_string ?_
    unfold optionHolds
    rw [List.flatMap_append, List.flatMap_cons]
    exact List.mem_append_right _ (List.mem_append_left _ hmem)

-- Exactly if the config is saved, or the option is the last one.
theorem Sound.remove_exact_iff (h : Sound pool store) (hdirect : array.Direct)
    (hp : store.payload program = some (.program p))
    (hvalid : store.ValidOptions p.config.customOptions) (happend : outcomes.append = none) :
    (OptionsExact status program (.remove outcomes nameId) store
        ((OptionCall.remove outcomes nameId).run array status program store) ↔
      ¬(OptionCall.remove outcomes nameId).Fails status program store) ∧
    (¬(OptionCall.remove outcomes nameId).Fails status program store →
      Continues array pool program store
        ((OptionCall.remove outcomes nameId).run array status program store).2) := by
  have hself : Continues array pool program store store := ⟨.refl, p, hp, hvalid⟩
  obtain ⟨hoptions, hentries⟩ := Store.customEntries_eq hp
  unfold OptionCall.run programRemoveCustomOption OptionCall.Fails
  rw [hp]
  dsimp only
  by_cases hpurged : status.purged = true
  · rw [if_pos hpurged]
    refine ⟨iff_of_true (.of_error (by decide) hp hvalid trivial) fun hfails => ?_, fun _ => hself⟩
    rw [hpurged] at hfails
    cases hfails.1
  rw [if_neg hpurged]
  cases hname : inventoryGetObject [.string] nameId store with
  | error code =>
      refine ⟨iff_of_true (.of_error (inventoryGetObject_error hname) hp hvalid trivial) ?_,
        fun _ => hself⟩
      rintro ⟨-, -, name, -, -, -, hfound, -⟩
      cases hfound
  | ok name =>
      dsimp only
      rcases programFindCustomOption_cases store (store.text name) p.config.customOptions 0 with
        ⟨hnone, hnot⟩ | ⟨front, customOption, back, hsplit, hfound, hfold, hnot⟩
      · rw [hnone]
        refine ⟨iff_of_true (.of_error (by decide) hp hvalid trivial) ?_, fun _ => hself⟩
        rintro ⟨-, -, other, first, entry, rest, hother, hentry, hkey, -⟩
        cases hother
        rw [hentries] at hentry
        rw [hentry] at hnot
        refine hnot ?_
        rw [← hkey, List.map_append, List.map_cons]
        exact List.mem_append_right _ List.mem_cons_self
      · rw [hfound]
        have herased : p.config.customOptions.eraseIdx (0 + front.length) = front ++ back := by
          rw [hsplit, Nat.zero_add, List.eraseIdx_append_of_length_le (Nat.le_refl _),
            Nat.sub_self]
          rfl
        dsimp only
        rw [herased]
        have hentriesSplit : store.customEntries program = store.entriesOf front ++
            (store.text customOption.name, customOption.value) :: store.entriesOf back := by
          rw [hentries, hsplit, Store.entriesOf_append, Store.entriesOf_cons]
        cases hsave : outcomes.save with
        | none =>
            have hstored := @Sound.removeCustomOption_saved array pool store program p front back
              customOption h hdirect hp hsplit hvalid
            have hdistinct : Distinct (store.customEntries program) := by
              rw [hentries]
              exact hvalid.distinct
            rw [hentriesSplit] at hdistinct
            have hfilter := OrderedMap.filter_ne_append hfold hdistinct
            have hlast := hstored.customEntries
            rw [Store.entriesOf_append, ← hfilter, ← hentriesSplit] at hlast
            refine ⟨iff_of_true ⟨?_, fun code herror => ?_, fun id _ => ⟨name, hname, hlast,
              fun key => ?_⟩, trivial⟩ fun hfails => hfails.2.1 rfl, fun _ => hstored.continues⟩
            · rw [(Store.customEntries_eq hstored.program).2]
              exact hstored.valid.distinct
            · cases herror
            · rw [hlast]
              have hlookup := @OrderedMap.lookup_filter CString CString ObjectRef _ fold key
                (store.customEntries program)
                (fun other => decide (fold other ≠ fold (store.text name)))
                fun other hother => by rw [hother]
              rw [hlookup]
              by_cases hkey : fold key = fold (store.text name)
              · simp [hkey]
              · simp [hkey]
        | some code =>
            dsimp only
            rw [happend]
            dsimp only
            rw [Store.setPayload_setPayload]
            by_cases hback : back = []
            · subst hback
              have hsame : store.setPayload program
                  (.program (p.withOptions (front ++ [] ++ [customOption]))) = store := by
                refine Store.setPayload_self ?_
                rw [hp, List.append_nil]
                unfold Program.withOptions
                rw [← hsplit]
              rw [hsame]
              refine ⟨iff_of_true (.of_error code.property hp hvalid trivial) ?_, fun _ => hself⟩
              rintro ⟨-, -, other, first, entry, rest, hother, hentry, hkey, hrest⟩
              cases hother
              rw [hentriesSplit] at hentry
              exact hrest (not_mem_of_last hnot hkey hentry)
            · have hfails : status.purged = false ∧ some code ≠ none ∧
                  ∃ other first entry rest, (Except.ok name : Except APIE ObjectRef) = .ok other ∧
                    store.customEntries program = first ++ entry :: rest ∧
                    fold entry.1 = fold (store.text other) ∧ rest ≠ [] := by
                refine ⟨Bool.eq_false_iff.mpr hpurged, Option.some_ne_none code, name, _, _, _, rfl,
                  hentriesSplit, hfold, fun hnil => hback ?_⟩
                exact List.map_eq_nil_iff.mp hnil
              refine ⟨iff_of_false (fun hexact => ?_) fun hnot => hnot hfails,
                fun hnot => absurd hfails hnot⟩
              obtain ⟨-, hunchanged⟩ := hexact.failed _ rfl
              have hlive : store.objects.get program ≠ none := by
                intro hnone
                unfold Store.payload at hp
                rw [hnone] at hp
                cases hp
              have hmoved := @Store.setPayload_payload store program
                (.program (p.withOptions (front ++ back ++ [customOption]))) hlive
              have hkept : (store.setPayload program (.program (p.withOptions
                  (front ++ back ++ [customOption])))).payload program = store.payload program := by
                unfold Store.payload
                exact congrArg (Option.map Object.payload) (hunchanged.objects program)
              rw [hkept, hp] at hmoved
              have hmoved := congrArg (fun p : Program => p.config.customOptions)
                (Payload.program.inj (Option.some.inj hmoved))
              rw [hsplit] at hvalid hmoved
              exact hvalid.moved_ne hback hmoved.symm

end Remove

section Others

variable {array : ArrayRemove} {pool : List Hold} {store : Store} {program : ObjectRef}
  {p : Program} {status : ProgramStatus}

theorem Sound.set_exact (h : Sound pool store) (hdirect : array.Direct) (htyped : store.Typed)
    (hp : store.payload program = some (.program p))
    (hvalid : store.ValidOptions p.config.customOptions) (outcomes : OptionOutcomes)
    (nameId valueId : ObjectID) :
    OptionsExact status program (.set outcomes nameId valueId) store
        ((OptionCall.set outcomes nameId valueId).run array status program store) ∧
      Continues array pool program store
        ((OptionCall.set outcomes nameId valueId).run array status program store).2 := by
  have hunchanged := @Sound.setCustomOptionValue_unchanged array pool store program p status outcomes
    nameId valueId h hp
  unfold OptionCall.run
  dsimp only
  rcases hresult : programSetCustomOptionValue array status program outcomes nameId valueId store with
    ⟨code | done, other⟩
  · rw [hresult] at hunchanged
    obtain ⟨hcode, hsame⟩ := hunchanged code rfl
    dsimp only at hsame ⊢
    rw [hsame]
    exact ⟨.of_error hcode hp hvalid trivial, .refl, p, hp, hvalid⟩
  · obtain ⟨name, value, hname, hvalue, customOptions, hstored, hentries⟩ :=
      h.setCustomOptionValue_ok hdirect htyped hp hvalid hresult
    have hlast := hstored.customEntries
    rw [hentries, ← (Store.customEntries_eq hp).2] at hlast
    refine ⟨⟨?_, fun code herror => (by cases herror), fun id _ => ⟨name, value, hname, hvalue, hlast,
      fun key => ?_, fun i entry hentry hne => ?_⟩, trivial⟩, hstored.continues⟩
    · rw [(Store.customEntries_eq hstored.program).2]
      exact hstored.valid.distinct
    · rw [hlast]
      exact OrderedMap.lookup_update _ _ _ _
    · rw [hlast]
      exact OrderedMap.update_getElem? value hentry hne

theorem objectAddExternalReference_failed {calloc : Bool} {object : ObjectRef} {session : SessionRef}
    (h : (objectAddExternalReference calloc object session store).1 ≠ .success) :
    store.Unchanged (objectAddExternalReference calloc object session store).2 ∧
      (objectAddExternalReference calloc object session store).1 ≠ .doesNotExist := by
  unfold objectAddExternalReference at h ⊢
  by_cases hfreed : store.objects.get object = none ∨ store.sessions.get session = none
  · rw [if_pos hfreed]
    exact ⟨⟨fun _ => rfl, rfl⟩, nofun⟩
  · rw [if_neg hfreed] at h ⊢
    cases hfind : store.findReference object session with
    | some reference =>
        rw [hfind] at h
        exact absurd rfl h
    | none =>
        rw [hfind] at h
        cases calloc with
        | false => exact ⟨⟨fun _ => rfl, rfl⟩, nofun⟩
        | true => exact absurd rfl h

theorem Store.SameInternals.payload {other : Store} (h : store.SameInternals other)
    (object : ObjectRef) : other.payload object = store.payload object := by
  have hobject := congrArg (Option.map Object.payload) (h.objects object)
  rw [Option.map_map, Option.map_map] at hobject
  exact hobject

theorem Sound.get_exact (h : Sound pool store) (hp : store.payload program = some (.program p))
    (hvalid : store.ValidOptions p.config.customOptions) (calloc : Bool) (session : SessionRef)
    (nameId : ObjectID) :
    OptionsExact status program (.get calloc session nameId) store
        ((OptionCall.get calloc session nameId).run array status program store) ∧
      Continues array pool program store
        ((OptionCall.get calloc session nameId).run array status program store).2 := by
  have hself : Continues array pool program store store := ⟨.refl, p, hp, hvalid⟩
  obtain ⟨hoptions, hentries⟩ := Store.customEntries_eq hp
  unfold OptionCall.run programGetCustomOptionValue
  rw [hp]
  dsimp only
  by_cases hpurged : status.purged = true
  · rw [if_pos hpurged]
    refine ⟨.of_error (by decide) hp hvalid fun name hnot => ?_, hself⟩
    rw [hpurged] at hnot
    cases hnot
  rw [if_neg hpurged]
  cases hname : inventoryGetObject [.string] nameId store with
  | error code =>
      refine ⟨.of_error (inventoryGetObject_error hname) hp hvalid fun name _ hfound => ?_, hself⟩
      rw [hname] at hfound
      cases hfound
  | ok name =>
      dsimp only
      rcases programFindCustomOption_cases store (store.text name) p.config.customOptions 0 with
        ⟨hnone, hnot⟩ | ⟨front, customOption, back, hsplit, hfound, hfold, hnot⟩
      · rw [hnone]
        refine ⟨.of_error (by decide) hp hvalid fun other _ hother => iff_of_true rfl ?_, hself⟩
        rw [hname] at hother
        cases hother
        rw [hentries]
        exact (OrderedMap.lookup_eq_none_iff _ _).mpr hnot
      · rw [hfound]
        dsimp only
        have hlookup : OrderedMap.lookup fold (store.text name) (store.customEntries program) =
            some customOption.value := by
          rw [hentries, hsplit, Store.entriesOf_append, Store.entriesOf_cons]
          exact OrderedMap.lookup_append hnot hfold
        have hsame := Store.SameInternals.objectAddExternalReference calloc customOption.value session
          store
        have hstep := @Sound.cleanStep array pool pool store _ h
          [.addExternalReference calloc customOption.value session]
          (.addExternalReference pool store calloc customOption.value session) rfl
        have hp' := (hsame.payload program).trans hp
        obtain ⟨hvalid', hentries'⟩ := hvalid.congr fun object s hs => (hsame.payload object).trans hs
        obtain ⟨hoptions', hlast⟩ := Store.customEntries_eq hp'
        have hcontinues : Continues array pool program store
            (objectAddExternalReference calloc customOption.value session store).2 :=
          ⟨.single hstep, p, hp', hvalid'⟩
        have hfailed := @objectAddExternalReference_failed store calloc customOption.value session
        have hadded := @objectAddExternalReference_live store session calloc customOption.value
        rcases hresult : objectAddExternalReference calloc customOption.value session store with
          ⟨code, other⟩
        rw [hresult] at hcontinues hfailed hp' hvalid' hentries' hoptions' hlast hadded hsame
        by_cases hcode : code = .success
        · subst hcode
          obtain ⟨o, ho⟩ := Option.ne_none_iff_exists'.mp (hadded rfl).1
          obtain ⟨o', ho', -⟩ := hsame.get_eq ho
          have hid : other.objectId customOption.value = some o'.id := by
            unfold Store.objectId
            rw [ho', Option.map_some]
          refine ⟨⟨?_, fun code herror => (by cases herror), fun id hok => ?_,
            fun found _ hother => ?_⟩, hcontinues⟩
          · dsimp only
            rw [hlast]
            exact hvalid'.distinct
          · cases hok
            refine ⟨name, customOption.value, hname, hlookup, ?_, Option.some_ne_none _,
              hoptions'.trans hoptions.symm, ?_⟩
            · dsimp only
              rw [Store.idOf_of_get ho', hid]
            · exact hlast.trans (hentries'.trans hentries.symm)
          · rw [hname] at hother
            cases hother
            refine iff_of_false (fun herror => by cases herror) fun hnone => ?_
            rw [hlookup] at hnone
            cases hnone
        · obtain ⟨hunchanged, hne⟩ := hfailed hcode
          simp only
          refine ⟨⟨?_, fun code' herror => ?_, fun id hok => (by cases hok),
            fun found _ hother => ?_⟩, hcontinues⟩
          · rw [hlast]
            exact hvalid'.distinct
          · cases herror
            exact ⟨hcode, hunchanged⟩
          · rw [hname] at hother
            cases hother
            refine iff_of_false (fun herror => ?_) fun hnone => ?_
            · cases herror
              exact hne rfl
            · rw [hlookup] at hnone
              cases hnone

end Others

end RedApid
