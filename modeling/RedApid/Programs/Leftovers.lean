import RedApid.Programs.Defining

namespace RedApid

open Files Memory

section Root

variable {disk : Disk} {name : CString} {outcome : DirectoryOutcome}

-- The child makes the root directory, whether its exit status is received or not.
structure CreatesRoot (outcome : DirectoryOutcome) (name : CString) (disk : Disk) : Prop where
  absolute : name.head? = some slash
  refused : outcome.refused = none
  creatable : Creatable disk.tree name

theorem directoryCreate_root (outcome : DirectoryOutcome) (disk : Disk) (hnull : 0 ∉ name)
    (hlast : name.getLast? ≠ some slash) :
    let result := directoryCreate outcome name bothFlags disk
    (CreatesRoot outcome name disk ∧ outcome.lost = none ∧ result.1 = .success ∧
        result.2.Fresh name) ∨
      (CreatesRoot outcome name disk ∧ outcome.lost ≠ none ∧ result.1 ≠ .success ∧
        result.2.tree.node (components name) ≠ none) ∨
      ¬CreatesRoot outcome name disk ∧ result.1 ≠ .success ∧
        result.2.tree.node (components name) = disk.tree.node (components name) := by
  have hbuffer : cString (strdup name) = name := by rw [cString_strdup, cString_of_noNull hnull]
  unfold directoryCreate
  by_cases habsolute : (cString (strdup name)).head? = some slash
  · rw [dif_pos habsolute]
    have hiff := creatable_iff (strdup name) disk.tree habsolute
    have hkept := directoryCreateHelper_node bothFlags (strdup name) disk.tree habsolute (components name)
    have hfresh : Creatable disk.tree name → (disk.create bothFlags (strdup name) habsolute).Fresh name := by
      intro hcreatable
      have hfresh := @Creatable.fresh disk name (hbuffer.symm ▸ hcreatable) habsolute
      rw [hbuffer] at hfresh
      exact hfresh
    rw [hbuffer] at hiff hkept
    cases hrefused : outcome.refused with
    | some code =>
        refine Or.inr (Or.inr ⟨fun hmade => ?_, code.property, rfl⟩)
        have hnone := hmade.refused
        rw [hrefused] at hnone
        cases hnone
    | none =>
        by_cases hcreatable : Creatable disk.tree name
        · have hmade : CreatesRoot outcome name disk := ⟨hbuffer ▸ habsolute, hrefused, hcreatable⟩
          cases hlost : outcome.lost with
          | some code =>
              refine Or.inr (Or.inl ⟨hmade, Option.some_ne_none code, code.property, ?_⟩)
              rw [(hfresh hcreatable).directory]
              exact Option.some_ne_none _
          | none => exact Or.inl ⟨hmade, rfl, hiff.mpr hcreatable, hfresh hcreatable⟩
        · have hcode := fun hsuccess => hcreatable (hiff.mp hsuccess)
          have hnode := hkept (Or.inr ⟨rfl, hlast, hcode⟩)
          cases hlost : outcome.lost with
          | some code =>
              exact Or.inr (Or.inr ⟨fun hmade => hcreatable hmade.creatable, code.property, hnode⟩)
          | none => exact Or.inr (Or.inr ⟨fun hmade => hcreatable hmade.creatable, hcode, hnode⟩)
  · rw [dif_neg habsolute]
    refine Or.inr (Or.inr ⟨fun hmade => habsolute ?_, fun hcode => (nomatch hcode), rfl⟩)
    rw [hbuffer]
    exact hmade.absolute

-- rmdir takes the root directory away unless there is a file in it.
theorem Files.Disk.Fresh.removed {last : Disk} (h : disk.Fresh name) (hsame : last = disk) :
    (Files.rmdir name last).tree.node (components name) = none := by
  rw [hsame]
  exact h.rmdir

theorem rmdir_kept {file : CString} (hfile : disk.tree.node (components name ++ [file]) ≠ none) :
    (rmdir name disk).tree.node (components name) ≠ none := by
  rw [rmdir_of_file hfile, PathTree.node_of_append hfile (List.cons_ne_nil _ _)]
  exact Option.some_ne_none _

end Root

section Names

theorem Store.text_noNull (store : Store) (string : ObjectRef) : 0 ∉ store.text string := by
  unfold Store.text
  split
  · intro hzero
    have hnonzero := List.mem_takeWhile_imp hzero
    simp at hnonzero
  · exact List.not_mem_nil

theorem rootDirectoryName_noNull (programsDirectory : List UInt8) (store : Store) (string : ObjectRef) :
    0 ∉ rootDirectoryName programsDirectory (store.text string) := by
  unfold rootDirectoryName
  simp only [List.mem_append, List.mem_cons, not_or]
  refine ⟨fun hzero => ?_, by decide, store.text_noNull string⟩
  have hnonzero := List.mem_takeWhile_imp hzero
  simp at hnonzero

-- A valid identifier is the last part of the name.
theorem rootDirectoryName_last (programsDirectory : List UInt8) {identifier : CString}
    (h : Scheduling.programIsValidIdentifier identifier = true) :
    (rootDirectoryName programsDirectory identifier).getLast? ≠ some slash := by
  unfold Scheduling.programIsValidIdentifier at h
  simp only [Bool.decide_and, Bool.and_eq_true, decide_eq_true_eq, List.all_eq_true] at h
  obtain ⟨-, -, hlength, halphabet⟩ := h
  have hne : identifier ≠ [] := by
    rintro rfl
    exact absurd hlength (by decide)
  unfold rootDirectoryName
  rw [List.getLast?_append, List.getLast?_cons, List.getLast?_eq_getLast_of_ne_nil hne]
  intro hlast
  have hslash : slash ∈ Scheduling.identifierAlphabet := by
    rw [← Option.some.inj hlast]
    exact halphabet _ (List.getLast_mem hne)
  revert hslash
  decide

-- The new string has the text that was formatted.
theorem stringAsprintfObject_text {grow : GrowAllocation} {outcome : StringOutcome}
    {formatted : CString} {store : Store} {string : ObjectRef} (h : store.Identified)
    (hnull : 0 ∉ formatted)
    (hok : (stringAsprintfObject grow outcome formatted none ownedFlags store).1 = .ok string) :
    (stringAsprintfObject grow outcome formatted none ownedFlags store).2.text string = formatted := by
  have herror : ∀ code, stringAsprintf grow ⟨outcome.memory, outcome.calloc, .success⟩
      (outcome.memory.map fun _ => formatted) = .error code → code ≠ .success :=
    fun _ hcode => stringAsprintf_error rfl hcode
  unfold stringAsprintfObject at hok ⊢
  rcases store.createString_frame outcome herror h with
    ⟨code, -, herror, -⟩ | ⟨s, hformatted, hok', howned⟩
  · rw [hok] at herror
    cases herror
  · rw [hok'] at hok
    cases hok
    obtain ⟨bytes, hbytes, hcontents⟩ := stringAsprintf_text hformatted
    obtain ⟨_, -, rfl⟩ := Option.map_eq_some_iff.mp hbytes
    obtain ⟨id, hnew⟩ := howned.new
    unfold Store.text Store.payload
    rw [hnew]
    exact hcontents.trans (cString_of_noNull hnull)

end Names

section Define

variable {array : ArrayRemove} {grow : GrowAllocation} {pool : List Hold} {store : Store}
  {before : List Demand} {site : Site} {name : CString} {session : SessionRef}
  {outcomes : DefineOutcomes}

def DefineOutcomes.demands (grow : GrowAllocation) (outcomes : DefineOutcomes) (session : SessionRef)
    (store : Store) : List Demand :=
  outcomes.configDemands grow ++ outcomes.savedDemands grow session store

-- Behind the name of the root directory: all steps can be done, one of them makes a stock string, and
-- the directory is not removed if one fails.
def DefineOutcomes.NamedMet (grow : GrowAllocation) (outcomes : DefineOutcomes) (session : SessionRef)
    (name : CString) (disk : Disk) (store : Store) (count : Nat) : Prop :=
  outcomes.configFilename = none ∧ CreatesRoot outcomes.createRoot name disk ∧
    outcomes.createRoot.lost = none ∧ AllMet store count (outcomes.demands grow session store)

def DefineOutcomes.NamedNew (grow : GrowAllocation) (outcomes : DefineOutcomes) (name : CString)
    (disk : Disk) (store : Store) (count : Nat) : Prop :=
  outcomes.configFilename = none ∧ CreatesRoot outcomes.createRoot name disk ∧
    outcomes.createRoot.lost = none ∧ Leaves store count (outcomes.configDemands grow)

def DefineOutcomes.NamedKept (grow : GrowAllocation) (outcomes : DefineOutcomes) (name : CString)
    (disk : Disk) (store : Store) (count : Nat) : Prop :=
  outcomes.configFilename = none ∧ CreatesRoot outcomes.createRoot name disk ∧
    (outcomes.createRoot.lost ≠ none ∨
      AllMet store count (outcomes.configDemands grow) ∧ outcomes.save.Leaves)

def RootAbsent (path : List CString) (before after : Disk) : Prop :=
  before.tree.node path = none → after.tree.node path = none

def RootLeft (path : List CString) (before after : Disk) : Prop :=
  before.tree.node path = none ∧ after.tree.node path ≠ none

-- The string of the root directory is there.
theorem Ready.defineNamed (hready : Ready pool store before site.store) (hdirect : array.Direct)
    (hnew : before.flatMap Demand.texts = []) (identifier rootDirectory : ObjectRef)
    (hname : site.store.text rootDirectory = name) (hnull : 0 ∉ name)
    (hlast : name.getLast? ≠ some slash) :
    Attempt (RootAbsent (components name) site.disk) (RootLeft (components name) site.disk)
      (outcomes.NamedMet grow session name site.disk store (made store before))
      (outcomes.NamedNew grow name site.disk store (made store before))
      (outcomes.NamedKept grow name site.disk store (made store before)) site.store
      (programDefineNamed array grow outcomes session identifier rootDirectory site) := by
  unfold programDefineNamed DefineOutcomes.NamedMet DefineOutcomes.NamedNew DefineOutcomes.NamedKept
  refine Attempt.guard (fun hnone => hnone) ?_
  simp only
  rw [hname]
  have hroot := directoryCreate_root outcomes.createRoot site.disk hnull hlast
  rcases site.creating_cases outcomes.createRoot name bothFlags
    (fun site => Site.removing name
      (programDefineBelow array grow outcomes session identifier rootDirectory name site)) with
    ⟨hfails, heq⟩ | ⟨hsuccess, heq⟩
  · rw [heq]
    rcases hroot with ⟨-, -, hsuccess, -⟩ | ⟨hmade, hlost, -, hnode⟩ | ⟨hnot, -, hnode⟩
    · exact absurd hsuccess hfails
    · refine ⟨iff_of_false (fun hok => hok.elim fun _ h => (nomatch h)) fun hall => hlost hall.2.1,
        fun code h => ?_, List.prefix_rfl, fun _ _ _ hkept => absurd ⟨hmade, Or.inl hlost⟩ hkept,
        fun _ _ hnew => absurd hnew.2.1 hlost, fun _ _ _ => ⟨hmade.creatable.new, hnode⟩⟩
      cases h
      exact hfails
    · refine ⟨iff_of_false (fun hok => hok.elim fun _ h => (nomatch h)) fun hall => hnot hall.1,
        fun code h => ?_, List.prefix_rfl, fun _ _ _ _ => ⟨.refl site.store, fun hnone => ?_⟩,
        fun _ _ hnew => absurd hnew.1 hnot, fun _ _ hkept => absurd hkept.1 hnot⟩
      · cases h
        exact hfails
      · rw [← hnone]
        exact hnode
  · rw [heq]
    rcases hroot with ⟨hmade, hlost, -, hfresh⟩ | ⟨-, -, hfails, -⟩ | ⟨-, hfails, -⟩
    · have hbelow := @Disk.Fresh.defineBelow array grow pool store before
        { site with disk := (directoryCreate outcomes.createRoot name bothFlags site.disk).2 } name
        session outcomes hfresh hmade.absolute hnull hready hdirect hnew identifier rootDirectory
      rcases hresult : programDefineBelow array grow outcomes session identifier rootDirectory name
        { site with disk := (directoryCreate outcomes.createRoot name bothFlags site.disk).2 } with
        ⟨code | object, last⟩
      · rw [hresult] at hbelow
        refine ⟨(exists_congr fun _ => ⟨fun h => (nomatch h), fun h => (nomatch h)⟩).trans
            (hbelow.ok_iff.trans ⟨fun hmet => ⟨hmade, hlost, hmet⟩, fun hall => hall.2.2⟩),
          fun code' h => ?_, hbelow.stock, fun _ _ hnew hkept => ?_,
          fun _ _ hnew => hbelow.stays code rfl hnew.2.2, fun _ _ hkept => ?_⟩
        · cases h
          exact hbelow.code code rfl
        · obtain ⟨hsame, hdisk⟩ := hbelow.clean code rfl (fun hn => hnew ⟨hmade, hlost, hn⟩)
            fun hk => hkept ⟨hmade, Or.inr hk⟩
          exact ⟨hsame, fun _ => hfresh.removed hdisk⟩
        · have hfile := hbelow.dirty code rfl (hkept.2.resolve_left fun hne => hne hlost)
          exact ⟨hmade.creatable.new, rmdir_kept hfile⟩
      · rw [hresult] at hbelow
        exact ⟨iff_of_true ⟨object, rfl⟩ ⟨hmade, hlost, hbelow.ok_iff.mp ⟨object, rfl⟩⟩,
          fun _ h => (nomatch h), hbelow.stock, fun _ h => (nomatch h), fun _ h => (nomatch h),
          fun _ h => (nomatch h)⟩
    · exact absurd hsuccess hfails
    · exact absurd hsuccess hfails

end Define

section Atomic

variable {grow : GrowAllocation} {pool : List Hold} {site : Site} {session : SessionRef}
  {programsDirectory : List UInt8} {outcomes : DefineOutcomes} {identifierId : ObjectID}

-- A failing call leaves nothing behind.
structure DefineAtomic (programsDirectory : List UInt8) (identifierId : ObjectID) (site : Site)
    (result : Except APIE ObjectRef × Site) : Prop where
  same : ∀ code, result.1 = .error code → site.store.Same result.2.store
  root : ∀ code, result.1 = .error code → ∀ identifier,
    inventoryGetObject [.string] identifierId site.store = .ok identifier →
      RootAbsent (components (rootDirectoryName programsDirectory (site.store.text identifier)))
        site.disk result.2.disk

def DefineOutcomes.rootDemand (grow : GrowAllocation) (outcomes : DefineOutcomes) (name : CString) :
    Demand :=
  .object ((∃ s, stringAsprintf grow ⟨outcomes.rootDirectory.memory, outcomes.rootDirectory.calloc,
      .success⟩ (outcomes.rootDirectory.memory.map fun _ => name) = .ok s) ∧
    outcomes.rootDirectory.objectCreate.append = none)

-- The root directory is made.
structure DefineStarts (grow : GrowAllocation) (programsDirectory : List UInt8)
    (outcomes : DefineOutcomes) (identifierId : ObjectID) (site : Site) (identifier : ObjectRef) :
    Prop where
  found : inventoryGetObject [.string] identifierId site.store = .ok identifier
  valid : Scheduling.programIsValidIdentifier (site.store.text identifier) = true
  rootDirectory : (outcomes.rootDemand grow
    (rootDirectoryName programsDirectory (site.store.text identifier))).Met site.store 0
  configFilename : outcomes.configFilename = none
  created : CreatesRoot outcomes.createRoot
    (rootDirectoryName programsDirectory (site.store.text identifier)) site.disk

-- The root directory is made but that is not reported, or something fails behind a new stock string
-- or behind program.conf.
def DefineLeaves (grow : GrowAllocation) (programsDirectory : List UInt8) (outcomes : DefineOutcomes)
    (identifierId : ObjectID) (session : SessionRef) (site : Site) : Prop :=
  ∃ identifier, DefineStarts grow programsDirectory outcomes identifierId site identifier ∧
    (outcomes.createRoot.lost ≠ none ∨
      ¬AllMet site.store 1 (outcomes.demands grow session site.store) ∧
        (Leaves site.store 1 (outcomes.configDemands grow) ∨
          AllMet site.store 1 (outcomes.configDemands grow) ∧ outcomes.save.Leaves))

-- Behind the lookup of the identifier.
theorem Ready.defineIdentified {array : ArrayRemove} {pool : List Hold} {reached : Store} {name : CString}
    (hready : Ready pool site.store [] reached) (hdirect : array.Direct) (identifier : ObjectRef)
    (hname : name = rootDirectoryName programsDirectory (site.store.text identifier)) :
    Attempt (RootAbsent (components name) site.disk) (RootLeft (components name) site.disk)
      (Scheduling.programIsValidIdentifier (site.store.text identifier) = true ∧
        AllMet site.store 0 [outcomes.rootDemand grow name] ∧
          outcomes.NamedMet grow session name site.disk site.store 1)
      (Scheduling.programIsValidIdentifier (site.store.text identifier) = true ∧
        (Leaves site.store 0 [outcomes.rootDemand grow name] ∨
          AllMet site.store 0 [outcomes.rootDemand grow name] ∧
            outcomes.NamedNew grow name site.disk site.store 1))
      (Scheduling.programIsValidIdentifier (site.store.text identifier) = true ∧
        AllMet site.store 0 [outcomes.rootDemand grow name] ∧
          outcomes.NamedKept grow name site.disk site.store 1)
      reached
      (if !Scheduling.programIsValidIdentifier (site.store.text identifier) then
        (.error .invalidParameter, ⟨reached, site.disk⟩)
      else
        Site.taking array takenString
            (Site.onStore ⟨reached, site.disk⟩
              (stringAsprintfObject grow outcomes.rootDirectory name none ownedFlags reached))
          fun rootDirectory site =>
        programDefineNamed array grow outcomes session identifier rootDirectory site) := by
  have hnull : 0 ∉ name := by
    rw [hname]
    exact rootDirectoryName_noNull programsDirectory site.store identifier
  have herror : ∀ code, stringAsprintf grow ⟨outcomes.rootDirectory.memory,
      outcomes.rootDirectory.calloc, .success⟩ (outcomes.rootDirectory.memory.map fun _ => name) =
        .error code → code ≠ .success := fun _ hcode => stringAsprintf_error rfl hcode
  have hroot := hready.string hdirect outcomes.rootDirectory herror
  have hcode : APIE.invalidParameter ≠ .success := by decide
  refine Attempt.test hcode (fun hnone => hnone) fun hvalid =>
    Attempt.taking hroot.takes (fun hnone => hnone) fun rootDirectory last hmade => ?_
  have hlast := hroot.ready rootDirectory
  have htext := @stringAsprintfObject_text grow outcomes.rootDirectory name _ rootDirectory
    hready.sound.identified hnull
  unfold stringAsprintfObject at hmade htext
  rw [hmade] at hlast htext
  have hend : name.getLast? ≠ some slash := by
    rw [hname]
    exact rootDirectoryName_last programsDirectory hvalid
  exact @Ready.defineNamed array grow _ site.store _ ⟨last, site.disk⟩ name session outcomes
    (hlast rfl) hdirect rfl identifier rootDirectory (htext rfl) hnull hend

theorem Sound.defineFound (h : Sound (pool ++ site.store.stockHolds) site.store) {array : ArrayRemove}
    (hdirect : array.Direct) {identifier : ObjectRef}
    (hfound : inventoryGetObject [.string] identifierId site.store = .ok identifier) :
    let name := rootDirectoryName programsDirectory (site.store.text identifier)
    Attempt (RootAbsent (components name) site.disk) (RootLeft (components name) site.disk)
      (DefineStarts grow programsDirectory outcomes identifierId site identifier ∧
        outcomes.createRoot.lost = none ∧ AllMet site.store 1 (outcomes.demands grow session site.store))
      (DefineStarts grow programsDirectory outcomes identifierId site identifier ∧
        outcomes.createRoot.lost = none ∧ Leaves site.store 1 (outcomes.configDemands grow))
      (DefineStarts grow programsDirectory outcomes identifierId site identifier ∧
        (outcomes.createRoot.lost ≠ none ∨
          AllMet site.store 1 (outcomes.configDemands grow) ∧ outcomes.save.Leaves))
      site.store
      (programDefine array grow programsDirectory outcomes identifierId session site) := by
  intro name
  obtain ⟨o, ho, -, -, -, hreferenced⟩ := h.found hfound
  have hlive : site.store.objects.get (lockedHold identifier).object ≠ none := by
    rw [show (lockedHold identifier).object = identifier from rfl, ho]
    exact Option.some_ne_none o
  have hready := (Ready.start h).acquire (lockedHold identifier) hlive
  have htext : ((lockedHold identifier).acquire site.store).text identifier = site.store.text identifier :=
    (Store.Grown.acquire site.store (lockedHold identifier)).text hlive
  have hmet : AllMet site.store 0 [outcomes.rootDemand grow name] ↔
      (outcomes.rootDemand grow name).Met site.store 0 := and_iff_left trivial
  have hnone : ¬Leaves site.store 0 [outcomes.rootDemand grow name] :=
    fun hleaves => hleaves.2.elim id id
  have hbody := @Ready.defineIdentified grow site session programsDirectory outcomes array _ _ name hready
    hdirect identifier rfl
  unfold programDefine
  rw [stringGetAcquiredAndLocked_of_found hfound]
  refine (Attempt.congr (Attempt.taking (Takes.found ho hreferenced) (fun hnone => hnone)
    fun b last hb => ?_) (and_iff_right trivial) ((or_iff_right id).trans (and_iff_right trivial))
    (and_iff_right trivial))
  obtain ⟨rfl, rfl⟩ : identifier = b ∧ (lockedHold identifier).acquire site.store = last := by
    cases hb
    exact ⟨rfl, rfl⟩
  simp only [htext]
  refine hbody.congr ?_ ?_ ?_
  · constructor
    · rintro ⟨hvalid, hroot, hfilename, hcreated, hlost, hall⟩
      exact ⟨⟨hfound, hvalid, hmet.mp hroot, hfilename, hcreated⟩, hlost, hall⟩
    · rintro ⟨hstarts, hlost, hall⟩
      exact ⟨hstarts.valid, hmet.mpr hstarts.rootDirectory, hstarts.configFilename, hstarts.created,
        hlost, hall⟩
  · constructor
    · rintro ⟨hvalid, hleaves | ⟨hroot, hfilename, hcreated, hlost, hleaves⟩⟩
      · exact absurd hleaves hnone
      · exact ⟨⟨hfound, hvalid, hmet.mp hroot, hfilename, hcreated⟩, hlost, hleaves⟩
    · rintro ⟨hstarts, hlost, hleaves⟩
      exact ⟨hstarts.valid, Or.inr ⟨hmet.mpr hstarts.rootDirectory, hstarts.configFilename,
        hstarts.created, hlost, hleaves⟩⟩
  · constructor
    · rintro ⟨hvalid, hroot, hfilename, hcreated, hkept⟩
      exact ⟨⟨hfound, hvalid, hmet.mp hroot, hfilename, hcreated⟩, hkept⟩
    · rintro ⟨hstarts, hkept⟩
      exact ⟨hstarts.valid, hmet.mpr hstarts.rootDirectory, hstarts.configFilename, hstarts.created,
        hkept⟩

theorem program_define_atomic_iff
    (hsteps : Relation.ReflTransGen (StockStep .byIndex grow) ([], Store.init) (pool, site.store))
    (programsDirectory : List UInt8) (outcomes : DefineOutcomes) (identifierId : ObjectID)
    (session : SessionRef) :
    DefineAtomic programsDirectory identifierId site
        (programDefine .byIndex grow programsDirectory outcomes identifierId session site) ↔
      ¬DefineLeaves grow programsDirectory outcomes identifierId session site := by
  have hsound := sound_of_stockSteps ArrayRemove.byIndex_direct hsteps
  cases hfound : inventoryGetObject [.string] identifierId site.store with
  | error code =>
      refine iff_of_true ?_ fun hleaves => ?_
      · unfold programDefine stringGetAcquiredAndLocked
        rw [hfound]
        exact ⟨fun _ _ => .refl site.store, fun _ _ _ _ hnone => hnone⟩
      · obtain ⟨identifier, hstarts, -⟩ := hleaves
        have hok := hstarts.found
        rw [hfound] at hok
        cases hok
  | ok identifier =>
      have hattempt := @Sound.defineFound grow pool site session programsDirectory outcomes identifierId
        hsound _ ArrayRemove.byIndex_direct identifier hfound
      rcases hresult : programDefine .byIndex grow programsDirectory outcomes identifierId session site
        with ⟨code | object, last⟩
      · rw [hresult] at hattempt
        have hnot : ¬(DefineStarts grow programsDirectory outcomes identifierId site identifier ∧
            outcomes.createRoot.lost = none ∧
              AllMet site.store 1 (outcomes.demands grow session site.store)) := by
          intro hok
          obtain ⟨_, h⟩ := hattempt.ok_iff.mpr hok
          cases h
        constructor
        · rintro hatomic ⟨identifier', hstarts, hleaves⟩
          have hsame := hstarts.found
          rw [hfound] at hsame
          cases hsame
          have habsent := hatomic.root code rfl identifier hfound
          rcases hleaves with hlost | ⟨-, hnew | hkept⟩
          · obtain ⟨hbefore, hafter⟩ := hattempt.dirty code rfl ⟨hstarts, Or.inl hlost⟩
            exact hafter (habsent hbefore)
          · by_cases hlost : outcomes.createRoot.lost = none
            · exact hattempt.stays code rfl ⟨hstarts, hlost, hnew⟩
                (hatomic.same code rfl).tables.stockStrings
            · obtain ⟨hbefore, hafter⟩ := hattempt.dirty code rfl ⟨hstarts, Or.inl hlost⟩
              exact hafter (habsent hbefore)
          · obtain ⟨hbefore, hafter⟩ := hattempt.dirty code rfl ⟨hstarts, Or.inr hkept⟩
            exact hafter (habsent hbefore)
        · intro hleaves
          have hunmet : DefineStarts grow programsDirectory outcomes identifierId site identifier →
              outcomes.createRoot.lost = none →
                ¬AllMet site.store 1 (outcomes.demands grow session site.store) :=
            fun hstarts hlost hall => hnot ⟨hstarts, hlost, hall⟩
          obtain ⟨hsame, habsent⟩ := hattempt.clean code rfl
            (fun hnew => hleaves ⟨identifier, hnew.1,
              Or.inr ⟨hunmet hnew.1 hnew.2.1, Or.inl hnew.2.2⟩⟩)
            fun hkept => hleaves ⟨identifier, hkept.1, by
              by_cases hlost : outcomes.createRoot.lost = none
              · exact Or.inr ⟨hunmet hkept.1 hlost, Or.inr (hkept.2.resolve_left (not_not.mpr hlost))⟩
              · exact Or.inl hlost⟩
          refine ⟨fun _ _ => hsame, fun _ _ identifier' hok => ?_⟩
          rw [hfound] at hok
          cases hok
          exact habsent
      · rw [hresult] at hattempt
        refine iff_of_true ⟨fun _ h => (nomatch h), fun _ h => (nomatch h)⟩ ?_
        rintro ⟨identifier', hstarts, hleaves⟩
        obtain ⟨-, hlost, hall⟩ := hattempt.ok_iff.mp ⟨object, rfl⟩
        rcases hleaves with hne | ⟨hunmet, -⟩
        · exact hne hlost
        · exact hunmet hall

end Atomic

section Examples

-- A session with a string that is a valid identifier.
def identifierString : StringObject := ⟨Block.malloc (fun i => (ascii "bcd").getD i 0) 4, 3, 4⟩

def identifierStore : Store :=
  ((sessionCreate ⟨true, none, none, none⟩ 10 Store.init).2.createObject ⟨true, none⟩
    (.string identifierString) (some 0) OBJECT_CREATE_FLAG_EXTERNAL).2

theorem identifierStore_steps : Relation.ReflTransGen (StockStep .byIndex growTo16) ([], Store.init)
    ([], identifierStore) := by
  have hsession : HolderStep .byIndex ([], Store.init)
      ([], (sessionCreate ⟨true, none, none, none⟩ 10 Store.init).2) :=
    .sessionCreate [] _ ⟨true, none, none, none⟩ 10
  have hstring : HolderStep .byIndex ([], (sessionCreate ⟨true, none, none, none⟩ 10 Store.init).2)
      ([], identifierStore) :=
    .created [] _ ⟨true, none⟩ (.string identifierString) (some 0) OBJECT_CREATE_FLAG_EXTERNAL 0 rfl
      (fun _ h => (nomatch h)) rfl
  have hfirst : StockStep .byIndex growTo16 ([], Store.init)
      ([], (sessionCreate ⟨true, none, none, none⟩ 10 Store.init).2) :=
    .clean ⟨hsession, Store.entriesLive_of_cells rfl⟩
  have hsecond : StockStep .byIndex growTo16
      ([], (sessionCreate ⟨true, none, none, none⟩ 10 Store.init).2) ([], identifierStore) :=
    .clean ⟨hstring, Store.entriesLive_of_cells rfl⟩
  exact (Relation.ReflTransGen.refl.tail hfirst).tail hsecond

-- There is the root directory only.
def emptyDisk : Disk where
  tree := emptyTree
  names := []
  named path name h := by
    refine absurd (if_neg ?_) h
    exact List.append_ne_nil_of_right_ne_nil path (List.cons_ne_nil name [])

def emptySite : Site := ⟨identifierStore, emptyDisk⟩

def madeString : StringOutcome := ⟨some fun _ => 0, true, ⟨true, none⟩⟩

def madeStock : StockOutcome := ⟨madeString, none⟩

def madeList : ListCreation := ⟨true, none, ⟨true, none⟩⟩

def madeDirectory : DirectoryOutcome := ⟨none, none⟩

def defineOutcomes (timer : Option APIError) : DefineOutcomes where
  rootDirectory := madeString
  configFilename := none
  createRoot := madeDirectory
  noneMessage := madeStock
  calloc := true
  config := ⟨madeStock, madeList, madeList, madeStock, true, none, true⟩
  save := ⟨none, false⟩
  scheduler := ⟨none, madeDirectory, none, madeDirectory, madeStock, timer⟩
  objectCreate := ⟨true, none⟩

theorem emptySite_starts (timer : Option APIError) :
    DefineStarts growTo16 (ascii "/a") (defineOutcomes timer) 1 emptySite 0 := by
  have hname : rootDirectoryName (ascii "/a") (emptySite.store.text 0) = ascii "/a/bcd" := by decide
  refine ⟨by decide, by decide, ?_, rfl, ?_⟩
  · rw [hname]
    refine ⟨⟨⟨_, rfl⟩, rfl⟩, ?_⟩
    unfold Store.Fits
    decide
  · rw [hname]
    refine ⟨rfl, rfl, ⟨by decide, emptyTree_not_blocks _, fun hvisit => ?_⟩⟩
    have hslash : slash ∉ ascii "a" ∧ slash ∉ ascii "bcd" := by decide
    have hparent : Revisited emptyTree ([] ++ slash :: ascii "a") :=
      Revisited.of_append hslash.2 (List.cons_ne_nil 98 _) hvisit
    exact (Revisited.of_append hslash.1 (List.cons_ne_nil 97 []) hparent).parent_missing rfl

theorem emptySite_fits {count : Nat} (h : count ≤ 8) : emptySite.store.Fits count := by
  have hlength : emptySite.store.objectIds.length = 1 := by decide
  unfold Store.Fits
  rw [hlength]
  exact (Nat.add_le_add_left h 1).trans (by decide)

theorem emptySite_config : AllMet emptySite.store 1 ((defineOutcomes none).configDemands growTo16) :=
  ⟨Or.inr ⟨⟨⟨⟨_, rfl⟩, rfl⟩, rfl⟩, emptySite_fits (by decide)⟩, rfl,
    Or.inr ⟨⟨⟨⟨_, rfl⟩, rfl⟩, rfl⟩, emptySite_fits (by decide)⟩,
    ⟨⟨rfl, rfl, rfl⟩, emptySite_fits (by decide)⟩, ⟨⟨rfl, rfl, rfl⟩, emptySite_fits (by decide)⟩,
    Or.inr ⟨⟨⟨⟨_, rfl⟩, rfl⟩, rfl⟩, emptySite_fits (by decide)⟩, rfl, rfl, rfl, trivial⟩

theorem emptySite_saved : AllMet emptySite.store
    (1 + made emptySite.store ((defineOutcomes none).configDemands growTo16))
    ((defineOutcomes none).savedDemands growTo16 0 emptySite.store) :=
  ⟨rfl, rfl, ⟨rfl, rfl⟩, rfl, ⟨rfl, rfl⟩,
    Or.inr ⟨⟨⟨⟨_, rfl⟩, rfl⟩, rfl⟩, emptySite_fits (by decide)⟩, rfl,
    ⟨⟨by decide, rfl, rfl⟩, emptySite_fits (by decide)⟩, trivial⟩

theorem emptySite_program_define : DefineAtomic (ascii "/a") 1 emptySite
    (programDefine .byIndex growTo16 (ascii "/a") (defineOutcomes none) 1 0 emptySite) := by
  refine (@program_define_atomic_iff growTo16 [] emptySite identifierStore_steps (ascii "/a")
    (defineOutcomes none) 1 0).mpr ?_
  rintro ⟨identifier, -, hlost | ⟨hunmet, -⟩⟩
  · exact hlost rfl
  · exact hunmet ((allMet_append _ _ _).mpr ⟨emptySite_config, emptySite_saved⟩)

-- There is a failing timer behind program.conf, then the root directory is not empty.
theorem program_define_keeps_root :
    Relation.ReflTransGen (StockStep .byIndex growTo16) ([], Store.init) ([], emptySite.store) ∧
      ¬DefineAtomic (ascii "/a") 1 emptySite
        (programDefine .byIndex growTo16 (ascii "/a") (defineOutcomes (some noFreeMemory)) 1 0
          emptySite) := by
  refine ⟨identifierStore_steps, fun hatomic => ?_⟩
  have hsound : Sound ([] ++ emptySite.store.stockHolds) emptySite.store :=
    sound_of_stockSteps ArrayRemove.byIndex_direct identifierStore_steps
  have hstarts := emptySite_starts (some noFreeMemory)
  have hattempt := @Sound.defineFound growTo16 [] emptySite 0 (ascii "/a")
    (defineOutcomes (some noFreeMemory)) 1 hsound _ ArrayRemove.byIndex_direct 0 hstarts.found
  rcases hresult : programDefine .byIndex growTo16 (ascii "/a") (defineOutcomes (some noFreeMemory)) 1 0
    emptySite with ⟨code | object, last⟩
  · rw [hresult] at hattempt hatomic
    obtain ⟨hbefore, hafter⟩ := hattempt.dirty code rfl ⟨hstarts, Or.inr ⟨emptySite_config, Or.inl rfl⟩⟩
    exact hafter (hatomic.root code rfl 0 hstarts.found hbefore)
  · rw [hresult] at hattempt
    obtain ⟨-, -, hall⟩ := hattempt.ok_iff.mp ⟨object, rfl⟩
    unfold DefineOutcomes.demands at hall
    obtain ⟨-, -, hscheduler⟩ := (allMet_append _ _ _).mp hall
    obtain ⟨⟨-, -, -, -, -, htimer, -⟩, -⟩ := (allMet_append _ _ _).mp hscheduler
    cases htimer

end Examples

end RedApid
