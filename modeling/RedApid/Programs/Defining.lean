import RedApid.Programs.Define

namespace RedApid

open Files Memory

section Parts

variable {array : ArrayRemove} {grow : GrowAllocation} {pool : List Hold} {store reached : Store}
  {before : List Demand}

def ConfigOutcomes.demands (grow : GrowAllocation) (outcomes : ConfigOutcomes) : List Demand :=
  [outcomes.executable.demand grow [], outcomes.arguments.demand, outcomes.environment.demand,
    outcomes.workingDirectory.demand grow (ascii "."), .call (outcomes.calloc = true),
    .call (outcomes.arrayCreate = none), .call (outcomes.strdup = true)]

theorem acquiring_fst_ok {α : Type} {locked : Bool} {taken : Except APIE ObjectRef × Store}
    {body : ObjectRef → Store → Except APIE α × Store} {a : α}
    (h : (acquiring array locked taken body).1 = .ok a) :
    ∃ object store, (body object store).1 = .ok a := by
  rcases taken with ⟨code | object, store⟩
  · cases h
  · change (Hold.cleanup array ⟨object, locked⟩ (body object store)).1 = .ok a at h
    refine ⟨object, store, ?_⟩
    rcases hresult : body object store with ⟨code | b, last⟩
    · rw [hresult] at h
      cases h
    · rw [hresult] at h
      exact h

-- The phases without an object.
theorem configRest_ok {outcomes : ConfigOutcomes} {config fresh : ProgramConfig} {store : Store}
    (h : (if !outcomes.calloc then (.error .noFreeMemory, store)
      else
        match outcomes.arrayCreate with
        | some code => (.error code, store)
        | none => if !outcomes.strdup then (.error .noFreeMemory, store) else (.ok fresh, store) :
          Except APIE ProgramConfig × Store).1 = .ok config) : config = fresh := by
  cases hcalloc : outcomes.calloc with
  | false =>
      rw [hcalloc] at h
      cases h
  | true =>
      cases hcreate : outcomes.arrayCreate with
      | some code =>
          simp only [hcalloc, hcreate] at h
          cases h
      | none =>
          cases hstrdup : outcomes.strdup with
          | false =>
              simp only [hcalloc, hcreate, hstrdup] at h
              cases h
          | true =>
              simp only [hcalloc, hcreate, hstrdup] at h
              cases h
              rfl

theorem Ready.configCreate (h : Ready pool store before reached) (hdirect : array.Direct)
    (outcomes : ConfigOutcomes) (hexecutable : [] ∉ before.flatMap Demand.texts)
    (hworkingDirectory : ascii "." ∉ before.flatMap Demand.texts) :
    Supplies array ProgramConfig.holds (outcomes.demands grow) pool store before reached
      (programConfigCreate array grow outcomes reached) := by
  have hshort : strlen (ascii ".") < 4294967296 ∧ cString (ascii ".") = ascii "." := by decide
  refine Supplies.acquiring (fun config => [lockedHold config.workingDirectory,
    lockedHold config.environment, lockedHold config.arguments])
    (h.stock grow hdirect outcomes.executable hexecutable (by decide) (by decide))
    (fun executable last hlast => ?_) fun executable last config hok => ?_
  · refine Supplies.acquiring (fun config => [lockedHold config.workingDirectory,
      lockedHold config.environment]) (hlast.list hdirect outcomes.arguments)
      (fun arguments last hlast => ?_) fun arguments last config hok => ?_
    · refine Supplies.acquiring (fun config => [lockedHold config.workingDirectory])
        (hlast.list hdirect outcomes.environment)
        (fun environment last hlast => ?_) fun environment last config hok => ?_
      · refine Supplies.acquiring (fun _ => [])
          (hlast.stock grow hdirect outcomes.workingDirectory ?_ hshort.1 hshort.2)
          (fun workingDirectory last hlast => ?_) fun workingDirectory last config hok => ?_
        · simp only [List.flatMap_append, List.mem_append, not_or]
          refine ⟨⟨⟨hworkingDirectory, ?_⟩, List.not_mem_nil⟩, List.not_mem_nil⟩
          exact fun hsame => (nomatch List.mem_singleton.mp hsame)
        · exact Supplies.test (by decide) hlast fun hlast => Supplies.guard hlast fun hlast =>
            Supplies.test (by decide) hlast fun hlast => .pure hlast _ rfl
        · rw [configRest_ok hok]
          rfl
      · obtain ⟨_, _, hok⟩ := acquiring_fst_ok hok
        rw [configRest_ok hok]
        rfl
    · obtain ⟨_, _, hok⟩ := acquiring_fst_ok hok
      obtain ⟨_, _, hok⟩ := acquiring_fst_ok hok
      rw [configRest_ok hok]
      rfl
  · obtain ⟨_, _, hok⟩ := acquiring_fst_ok hok
    obtain ⟨_, _, hok⟩ := acquiring_fst_ok hok
    obtain ⟨_, _, hok⟩ := acquiring_fst_ok hok
    rw [configRest_ok hok]
    rfl

end Parts

section Attempts

variable {α β : Type} {array : ArrayRemove} {holds : β → List Hold} {clean dirty : Disk → Prop}
  {ok ok' new new' kept kept' : Prop} {store : Store} {disk : Disk} {result : Except APIE α × Site}

-- A failing call leaves a new stock string, or a file, or nothing behind.
structure Attempt (clean dirty : Disk → Prop) (ok new kept : Prop) (store : Store)
    (result : Except APIE α × Site) : Prop where
  ok_iff : (∃ a, result.1 = .ok a) ↔ ok
  code : ∀ code, result.1 = .error code → code ≠ .success
  stock : store.stockStrings <+: result.2.store.stockStrings
  clean : ∀ code, result.1 = .error code → ¬new → ¬kept →
    store.Same result.2.store ∧ clean result.2.disk
  stays : ∀ code, result.1 = .error code → new → result.2.store.stockStrings ≠ store.stockStrings
  dirty : ∀ code, result.1 = .error code → kept → dirty result.2.disk

theorem Site.taking_ok {site : Site} {b : β} {last : Store} {body : β → Site → Except APIE α × Site}
    {a : α} {final : Site} (hbody : body b { site with store := last } = (.ok a, final)) :
    Site.taking array holds (site.onStore (.ok b, last)) body = (.ok a, final) := by
  change Site.taking array holds (.ok b, { site with store := last }) body = _
  simp only [Site.taking, hbody]

theorem Site.taking_undone {site : Site} {b : β} {last : Store}
    {body : β → Site → Except APIE α × Site} {code : APIE} {final : Site}
    (hbody : body b { site with store := last } = (.error code, final)) :
    Site.taking array holds (site.onStore (.ok b, last)) body =
      (.error code, { final with store := releaseAll array (holds b) final.store }) := by
  change Site.taking array holds (.ok b, { site with store := last }) body = _
  simp only [Site.taking, hbody]

namespace Attempt

theorem congr (h : Attempt clean dirty ok new kept store result) (hok : ok ↔ ok')
    (hnew : new ↔ new') (hkept : kept ↔ kept') : Attempt clean dirty ok' new' kept' store result := by
  rw [← hok, ← hnew, ← hkept]
  exact h

theorem refused {code : APIE} (hcode : code ≠ .success) (store : Store) (hclean : clean disk) :
    Attempt clean dirty False False False store
      ((.error code, ⟨store, disk⟩) : Except APIE α × Site) where
  ok_iff := iff_of_false (fun hok => hok.elim fun _ h => (nomatch h)) id
  code _ h := by
    cases h
    exact hcode
  stock := List.prefix_rfl
  clean _ _ _ _ := ⟨.refl store, hclean⟩
  stays _ _ hnew := hnew.elim
  dirty _ _ hkept := hkept.elim

theorem guard {outcome : Option APIError} {body : Except APIE α × Site} (hclean : clean disk)
    (h : Attempt clean dirty ok new kept store body) :
    Attempt clean dirty (outcome = none ∧ ok) (outcome = none ∧ new) (outcome = none ∧ kept) store
      (match outcome with
        | some code => (.error code, ⟨store, disk⟩)
        | none => body) := by
  cases outcome with
  | some code =>
      refine (refused code.property store hclean).congr ?_ ?_ ?_ <;>
        exact iff_of_false id fun hboth => (nomatch hboth.1)
  | none => exact h.congr (and_iff_right rfl).symm (and_iff_right rfl).symm (and_iff_right rfl).symm

theorem test {test : Bool} {code : APIE} {body : Except APIE α × Site} (hcode : code ≠ .success)
    (hclean : clean disk) (h : test = true → Attempt clean dirty ok new kept store body) :
    Attempt clean dirty (test = true ∧ ok) (test = true ∧ new) (test = true ∧ kept) store
      (if !test then (.error code, ⟨store, disk⟩) else body) := by
  cases test with
  | false =>
      refine (refused hcode store hclean).congr ?_ ?_ ?_ <;>
        exact iff_of_false id fun hboth => (nomatch hboth.1)
  | true =>
      exact (h rfl).congr (and_iff_right rfl).symm (and_iff_right rfl).symm (and_iff_right rfl).symm

theorem taking {taken : Except APIE β × Store} {body : β → Site → Except APIE α × Site}
    (htaken : Takes array holds ok new store taken) (hclean : clean disk)
    (hbody : ∀ b last, taken = (.ok b, last) →
      Attempt clean dirty ok' new' kept' last (body b ⟨last, disk⟩)) :
    Attempt clean dirty (ok ∧ ok') (new ∨ ok ∧ new') (ok ∧ kept') store
      (Site.taking array holds (Site.onStore ⟨store, disk⟩ taken) body) := by
  rcases taken with ⟨code | b, last⟩
  · have hnot : ¬ok := fun hok => by
      obtain ⟨_, h⟩ := htaken.ok_iff.mpr hok
      cases h
    change Attempt clean dirty _ _ _ store (.error code, ⟨last, disk⟩)
    refine ⟨iff_of_false (fun h => ?_) fun h => hnot h.1,
      fun code' h => htaken.code code' (by cases h; rfl), htaken.stock,
      fun code' h hnew _ => ⟨htaken.error code' (by cases h; rfl) fun hn => hnew (Or.inl hn), hclean⟩,
      fun _ _ hnew => htaken.stock_iff.mpr (hnew.resolve_right fun h => hnot h.1),
      fun _ _ hkept => absurd hkept.1 hnot⟩
    obtain ⟨_, h⟩ := h
    cases h
  · have hok : ok := htaken.ok_iff.mp ⟨b, rfl⟩
    have hinner := hbody b last rfl
    have hgrown : store.stockStrings <+: (body b ⟨last, disk⟩).2.store.stockStrings :=
      htaken.stock.trans hinner.stock
    rcases hresult : body b ⟨last, disk⟩ with ⟨code | a, final⟩
    · rw [hresult] at hinner hgrown
      rw [Site.taking_undone hresult]
      have hstock := releaseAll_stockStrings array (holds b) final.store
      refine ⟨iff_of_false (fun h => ?_) fun h => ?_, fun code' h => ?_, ?_,
        fun code' h hnew hkept => ?_, fun code' h hnew => ?_,
        fun code' h hkept => hinner.dirty code rfl hkept.2⟩
      · obtain ⟨_, h⟩ := h
        cases h
      · obtain ⟨_, h⟩ := hinner.ok_iff.mpr h.2
        cases h
      · exact hinner.code code' (by cases h; rfl)
      · change _ <+: (releaseAll array (holds b) final.store).stockStrings
        rw [hstock]
        exact hgrown
      · obtain ⟨hsame, hclean⟩ := hinner.clean code rfl (fun hn => hnew (Or.inr ⟨hok, hn⟩))
          fun hk => hkept ⟨hok, hk⟩
        exact ⟨htaken.undo b rfl (fun hn => hnew (Or.inl hn)) final.store hsame, hclean⟩
      · change (releaseAll array (holds b) final.store).stockStrings ≠ _
        rw [hstock, grown_ne_iff htaken.stock hinner.stock]
        exact hnew.imp htaken.stock_iff.mpr fun hn => hinner.stays code rfl hn.2
    · rw [hresult] at hinner hgrown
      rw [Site.taking_ok hresult]
      exact ⟨iff_of_true ⟨a, rfl⟩ ⟨hok, hinner.ok_iff.mp ⟨a, rfl⟩⟩, fun _ h => (by cases h), hgrown,
        fun _ h => (by cases h), fun _ h => (by cases h), fun _ h => (by cases h)⟩

section Chains

variable {first second third before : List Demand} {pool : List Hold} {reached : Store} {last : Prop}

-- The steps of a call and those of what follows. Behind all of `third` the file is there.
theorem supplies {taken : Except APIE β × Store} {body : β → Site → Except APIE α × Site}
    (htaken : Supplies array holds first pool store before reached taken) (hclean : clean disk)
    (hbody : ∀ b other, Ready (holds b ++ pool) store (before ++ first) other →
      Attempt clean dirty (AllMet store (made store (before ++ first)) second)
        (Leaves store (made store (before ++ first)) third)
        (AllMet store (made store (before ++ first)) third ∧ last) other (body b ⟨other, disk⟩)) :
    Attempt clean dirty (AllMet store (made store before) (first ++ second))
      (Leaves store (made store before) (first ++ third))
      (AllMet store (made store before) (first ++ third) ∧ last) reached
      (Site.taking array holds (Site.onStore ⟨reached, disk⟩ taken) body) := by
  refine (Attempt.taking htaken.takes hclean fun b other hb => hbody b other ?_).congr ?_ ?_ ?_
  · have hready := htaken.ready b
    rw [hb] at hready
    exact hready rfl
  · rw [allMet_append, made_append]
  · rw [leaves_append, made_append]
  · rw [allMet_append, made_append, and_assoc]

theorem called {test : Bool} {code : APIE} {body : Except APIE α × Site}
    (hready : Ready pool store before reached) (hcode : code ≠ .success) (hclean : clean disk)
    (hbody : Ready pool store (before ++ [.call (test = true)]) reached →
      Attempt clean dirty (AllMet store (made store (before ++ [.call (test = true)])) second)
        (Leaves store (made store (before ++ [.call (test = true)])) third)
        (AllMet store (made store (before ++ [.call (test = true)])) third ∧ last) reached body) :
    Attempt clean dirty (AllMet store (made store before) (.call (test = true) :: second))
      (Leaves store (made store before) (.call (test = true) :: third))
      (AllMet store (made store before) (.call (test = true) :: third) ∧ last) reached
      (if !test then (.error code, ⟨reached, disk⟩) else body) := by
  have hmade : made store (before ++ [.call (test = true)]) = made store before := by
    rw [made_append]
    rfl
  refine (Attempt.test hcode hclean fun _ => hbody (hready.call _)).congr ?_ ?_ ?_
  · rw [hmade]
    exact Iff.rfl
  · rw [hmade]
    exact and_congr_right fun _ => (or_iff_right id).symm
  · rw [hmade]
    exact and_assoc.symm

end Chains

end Attempt

end Attempts

section Scheduler

variable {α β : Type} {array : ArrayRemove} {grow : GrowAllocation} {holds : α → List Hold}
  {pool : List Hold} {store : Store} {before following : List Demand} {site : Site}
  {name file below : CString} {others : List CString}

-- Without the file system.
def Site.stored (result : Except APIE α × Site) : Except APIE α × Store := (result.1, result.2.store)

theorem Site.stored_taking (taken : Except APIE ObjectRef × Store)
    (body : ObjectRef → Site → Except APIE α × Site) :
    Site.stored (Site.taking array takenString (site.onStore taken) body) =
      acquiring array true taken fun object store => Site.stored (body object { site with store }) := by
  rcases taken with ⟨code | object, last⟩
  · rfl
  · rw [acquiring]
    rcases hresult : body object { site with store := last } with ⟨code | a, final⟩
    · rw [Site.taking_undone hresult]
      rfl
    · rw [Site.taking_ok hresult]
      rfl

theorem Site.creating_cases (outcome : DirectoryOutcome) (name : CString) (flags : UInt32)
    (site : Site) (body : Site → Except APIE α × Site) :
    let result := directoryCreate outcome name flags site.disk
    (result.1 ≠ .success ∧
        site.creating outcome name flags body = (.error result.1, { site with disk := result.2 })) ∨
      result.1 = .success ∧
        site.creating outcome name flags body = body { site with disk := result.2 } := by
  unfold Site.creating
  rcases directoryCreate outcome name flags site.disk with ⟨code, disk⟩
  by_cases hcode : code = .success
  · exact Or.inr ⟨hcode, if_pos hcode⟩
  · exact Or.inl ⟨hcode, if_neg hcode⟩

def SchedulerOutcomes.demands (grow : GrowAllocation) (outcomes : SchedulerOutcomes) : List Demand :=
  [.call (outcomes.binDirectory = none),
    .call (outcomes.createBin.refused = none ∧ outcomes.createBin.lost = none),
    .call (outcomes.logDirectory = none),
    .call (outcomes.createLog.refused = none ∧ outcomes.createLog.lost = none),
    outcomes.devNull.demand grow (ascii "/dev/null"), .call (outcomes.timer = none)]

-- A directory with a file, there is nothing with the other names in it.
structure Rooted (disk : Disk) (name file : CString) (others : List CString) : Prop where
  absolute : name.head? = some slash
  noNull : 0 ∉ name
  directory : disk.tree.node (components name) = some .directory
  there : disk.tree.node (components name ++ [file]) ≠ none
  new : ∀ other ∈ others, other ≠ file ∧ disk.tree.node (components name ++ [other]) = none

theorem Rooted.create {disk : Disk}
    (h : Rooted disk name file (below :: others)) (outcome : DirectoryOutcome)
    (hbelow : slash ∉ below ∧ 0 ∉ below) (hne : below ≠ []) (hothers : below ∉ others) :
    let result := directoryCreate outcome (name ++ slash :: below) DIRECTORY_FLAG_RECURSIVE disk
    (result.1 = .success ↔ outcome.refused = none ∧ outcome.lost = none) ∧
      Rooted result.2 name file others := by
  obtain ⟨hfile, hnew⟩ := h.new below List.mem_cons_self
  have hnull : 0 ∉ name ++ slash :: below := by
    simp only [List.mem_append, List.mem_cons, not_or]
    exact ⟨h.noNull, by decide, hbelow.2⟩
  obtain ⟨hcode, hkept⟩ := directoryCreate_below outcome hbelow.1 hne hnull h.absolute h.directory hnew
  have hnode : ∀ other, other ≠ below → components name ++ [other] ≠ components name ++ [below] :=
    fun other hother hsame => hother (List.cons.inj (List.append_cancel_left hsame)).1
  refine ⟨hcode, h.absolute, h.noNull, ?_, ?_, fun other hother => ?_⟩
  · rw [hkept _ fun hsame => ?_]
    · exact h.directory
    · have hlength := congrArg List.length hsame
      rw [List.length_append, List.length_singleton] at hlength
      omega
  · rw [hkept _ (hnode file (Ne.symm hfile))]
    exact h.there
  · obtain ⟨hotherFile, hotherNew⟩ := h.new other (List.mem_cons_of_mem below hother)
    refine ⟨hotherFile, ?_⟩
    rw [hkept _ (hnode other fun hsame => hothers (hsame ▸ hother))]
    exact hotherNew

-- Steps that keep the file.
structure Keeping (array : ArrayRemove) (holds : α → List Hold) (following : List Demand)
    (pool : List Hold) (store : Store) (before : List Demand) (node : List CString) (site : Site)
    (result : Except APIE α × Site) : Prop where
  supplies : Supplies array holds following pool store before site.store (Site.stored result)
  there : result.2.disk.tree.node node ≠ none

theorem flatMap_texts_call (before : List Demand) (possible : Prop) :
    (before ++ [Demand.call possible]).flatMap Demand.texts = before.flatMap Demand.texts := by
  rw [List.flatMap_append]
  exact List.append_nil _

theorem Keeping.guard {node : List CString} {outcome : Option APIError}
    {body : Except APIE α × Site} (hready : Ready pool store before site.store)
    (hthere : site.disk.tree.node node ≠ none) :
    (∀ before', before'.flatMap Demand.texts = before.flatMap Demand.texts →
      Ready pool store before' site.store →
        Keeping array holds following pool store before' node site body) →
    Keeping array holds (.call (outcome = none) :: following) pool store before node site
      (match outcome with
        | some code => (.error code, site)
        | none => body) := by
  intro hbody
  cases outcome with
  | some code =>
      refine ⟨Supplies.called hready (Or.inl ⟨?_, code, code.property, rfl⟩), hthere⟩
      exact fun hnone => (nomatch hnone)
  | none =>
      refine ⟨Supplies.called hready (Or.inr ⟨rfl, fun hready => ?_⟩), (hbody before rfl hready).there⟩
      exact (hbody _ (flatMap_texts_call before _) hready).supplies

-- A directory is made, then the rest.
theorem Rooted.creating {body : Site → Except APIE α × Site}
    (h : Rooted site.disk name file (below :: others))
    (hready : Ready pool store before site.store) (outcome : DirectoryOutcome)
    (hbelow : slash ∉ below ∧ 0 ∉ below) (hne : below ≠ []) (hothers : below ∉ others)
    (hbody : ∀ disk, Rooted disk name file others → ∀ before', before'.flatMap Demand.texts =
      before.flatMap Demand.texts → Ready pool store before' site.store →
        Keeping array holds following pool store before' (components name ++ [file])
          { site with disk } (body { site with disk })) :
    Keeping array holds (.call (outcome.refused = none ∧ outcome.lost = none) :: following) pool store
      before (components name ++ [file]) site
      (site.creating outcome (name ++ slash :: below) DIRECTORY_FLAG_RECURSIVE body) := by
  obtain ⟨hcode, hrooted⟩ := h.create outcome hbelow hne hothers
  rcases site.creating_cases outcome (name ++ slash :: below) DIRECTORY_FLAG_RECURSIVE body with
    ⟨hfails, heq⟩ | ⟨hsuccess, heq⟩
  · rw [heq]
    refine ⟨Supplies.called hready (Or.inl ⟨fun hall => hfails (hcode.mpr hall), _, hfails, rfl⟩), ?_⟩
    exact hrooted.there
  · rw [heq]
    refine ⟨Supplies.called hready (Or.inr ⟨hcode.mp hsuccess, fun hready => ?_⟩),
      (hbody _ hrooted before rfl hready).there⟩
    exact (hbody _ hrooted _ (flatMap_texts_call before _) hready).supplies

theorem Rooted.schedulerCreate (h : Rooted site.disk name file [ascii "bin", ascii "log"])
    (hready : Ready pool store before site.store) (hdirect : array.Direct)
    (outcomes : SchedulerOutcomes) (hdevNull : ascii "/dev/null" ∉ before.flatMap Demand.texts) :
    Keeping array ProgramScheduler.holds (outcomes.demands grow) pool store before
      (components name ++ [file]) site (programSchedulerCreate array grow outcomes name site) := by
  have hbin : slash ∉ ascii "bin" ∧ 0 ∉ ascii "bin" := by decide
  have hlog : slash ∉ ascii "log" ∧ 0 ∉ ascii "log" := by decide
  have htext : strlen (ascii "/dev/null") < 4294967296 ∧
      cString (ascii "/dev/null") = ascii "/dev/null" := by decide
  refine Keeping.guard hready h.there fun before₁ htexts₁ hready => ?_
  refine h.creating hready outcomes.createBin hbin (by decide) (by decide)
    fun disk₂ hrooted before₂ htexts₂ hready => ?_
  refine Keeping.guard hready hrooted.there fun before₃ htexts₃ hready => ?_
  refine hrooted.creating hready outcomes.createLog hlog (by decide) (by decide)
    fun disk₄ hrooted before₄ htexts₄ hready => ?_
  rw [← htexts₁, ← htexts₂, ← htexts₃, ← htexts₄] at hdevNull
  refine ⟨?_, ?_⟩
  · rw [Site.stored_taking]
    refine Supplies.acquiring (fun _ => [])
      (hready.stock grow hdirect outcomes.devNull hdevNull htext.1 htext.2)
      (fun devNullFileName last hready => ?_) fun devNullFileName last scheduler hok => ?_
    · refine Supplies.called hready ?_
      cases outcomes.timer with
      | some code => exact Or.inl ⟨fun hnone => (nomatch hnone), code, code.property, rfl⟩
      | none => exact Or.inr ⟨rfl, fun hready => .pure hready _ rfl⟩
    · cases htimer : outcomes.timer with
      | some code =>
          rw [htimer] at hok
          cases hok
      | none =>
          rw [htimer] at hok
          cases hok
          rfl
  · rcases inventoryGetStockString array grow outcomes.devNull (ascii "/dev/null") site.store with
      ⟨code | devNullFileName, last⟩
    · exact hrooted.there
    · cases outcomes.timer with
      | some code => exact hrooted.there
      | none => exact hrooted.there

end Scheduler

section Saved

variable {array : ArrayRemove} {grow : GrowAllocation} {pool : List Hold} {store : Store}
  {before : List Demand} {site : Site} {name : CString} {session : SessionRef}
  {outcomes : DefineOutcomes}

theorem Files.Disk.Fresh.save {disk : Disk} (h : disk.Fresh name) (habsolute : name.head? = some slash)
    (hnull : 0 ∉ name) :
    Rooted (disk.createFile (name ++ ascii "/program.conf")) name (ascii "program.conf")
      [ascii "bin", ascii "log"] := by
  have hnode := @Disk.createFile_node disk name (ascii "program.conf") (by decide) (by decide)
    h.directory (h.empty _)
  refine ⟨habsolute, hnull, ?_, ?_, fun other hother => ?_⟩
  · refine (hnode _).trans ((if_neg fun hsame => ?_).trans h.directory)
    have hlength := congrArg List.length hsame
    rw [List.length_append, List.length_singleton] at hlength
    omega
  · rw [show ascii "/program.conf" = slash :: ascii "program.conf" from rfl, hnode, if_pos rfl]
    exact Option.some_ne_none _
  · have hne : other ≠ ascii "program.conf" := by
      rcases List.mem_pair.mp hother with rfl | rfl <;> decide
    refine ⟨hne, (hnode _).trans ((if_neg fun hsame => hne ?_).trans (h.empty other))⟩
    exact (List.cons.inj (List.append_cancel_left hsame)).1

def DefineOutcomes.objectDemand (outcomes : DefineOutcomes) (session : SessionRef) (store : Store) :
    Demand :=
  .object (store.sessions.get session ≠ none ∧ outcomes.objectCreate.calloc = true ∧
    outcomes.objectCreate.append = none)

def DefineOutcomes.savedDemands (grow : GrowAllocation) (outcomes : DefineOutcomes)
    (session : SessionRef) (store : Store) : List Demand :=
  .call (outcomes.save.error = none) ::
    (outcomes.scheduler.demands grow ++ [outcomes.objectDemand session store])

-- Whatever fails behind program_config_save, its file stays.
theorem Rooted.defineObject {file : CString} {clean : Disk → Prop}
    (h : Rooted site.disk name file [ascii "bin", ascii "log"])
    (hready : Ready pool store before site.store) (hdirect : array.Direct)
    (hdevNull : ascii "/dev/null" ∉ before.flatMap Demand.texts)
    (program : ProgramScheduler → Program) :
    Attempt clean (fun disk => disk.tree.node (components name ++ [file]) ≠ none)
      (AllMet store (made store before)
        (outcomes.scheduler.demands grow ++ [outcomes.objectDemand session store])) False True site.store
      (Site.taking array ProgramScheduler.holds
          (programSchedulerCreate array grow outcomes.scheduler name site) fun scheduler site =>
        site.onStore (site.store.createObject outcomes.objectCreate (.program (program scheduler))
          (some session) sharedFlags)) := by
  have hkeeping := @Rooted.schedulerCreate array grow pool store before site name file h hready hdirect
    outcomes.scheduler hdevNull
  have htakes := hkeeping.supplies.takes
  have hmet : AllMet store (made store before)
      (outcomes.scheduler.demands grow ++ [outcomes.objectDemand session store]) ↔
        AllMet store (made store before) (outcomes.scheduler.demands grow) ∧
          (outcomes.objectDemand session store).Met store
            (made store (before ++ outcomes.scheduler.demands grow)) := by
    rw [made_append]
    exact (allMet_append _ _ _).trans (and_congr_right fun _ => and_iff_left trivial)
  rw [hmet]
  rcases hcreated : programSchedulerCreate array grow outcomes.scheduler name site with
    ⟨code | scheduler, last⟩
  · rw [hcreated] at hkeeping htakes
    refine ⟨iff_of_false (fun hok => hok.elim fun _ h => (nomatch h)) fun hall => ?_,
      fun code' h => ?_, htakes.stock, fun _ _ _ hkept => absurd trivial hkept,
      fun _ _ hnew => hnew.elim, fun _ _ _ => hkeeping.there⟩
    · obtain ⟨_, h⟩ := htakes.ok_iff.mpr hall.1
      cases h
    · cases h
      exact htakes.code code rfl
  · rw [hcreated] at hkeeping htakes
    have hlast : Ready (scheduler.holds ++ pool) store
        (before ++ outcomes.scheduler.demands grow) last.store := hkeeping.supplies.ready scheduler rfl
    have hobject := createObject_shared_ok_iff outcomes.objectCreate (.program (program scheduler))
      session hlast.sound.identified
    rw [hlast.fits, hlast.grown.sessions] at hobject
    have hiff := hobject.trans (and_iff_right (htakes.ok_iff.mp ⟨scheduler, rfl⟩)).symm
    have hstock := createObject_stockStrings outcomes.objectCreate (.program (program scheduler))
      (some session) sharedFlags last.store
    rcases hresult : last.store.createObject outcomes.objectCreate (.program (program scheduler))
      (some session) sharedFlags with ⟨code | object, final⟩
    · have herror := createObject_error_code (congrArg Prod.fst hresult)
      rw [hresult] at hiff hstock
      simp only [Site.taking, Site.onStore, hresult]
      refine ⟨(exists_congr fun _ => ⟨fun h => (nomatch h), fun h => (nomatch h)⟩).trans hiff,
        fun code' h => ?_, ?_, fun _ _ _ hkept => absurd trivial hkept,
        fun _ _ hnew => hnew.elim, fun _ _ _ => hkeeping.there⟩
      · cases h
        exact herror
      · change _ <+: (releaseAll array scheduler.holds final).stockStrings
        rw [releaseAll_stockStrings, hstock]
        exact htakes.stock
    · rw [hresult] at hiff hstock
      simp only [Site.taking, Site.onStore, hresult]
      refine ⟨iff_of_true ⟨object, rfl⟩ (hiff.mp ⟨object, rfl⟩), fun _ h => (nomatch h), ?_,
        fun _ h => (nomatch h), fun _ h => (nomatch h), fun _ h => (nomatch h)⟩
      change _ <+: final.stockStrings
      rw [hstock]
      exact htakes.stock

-- The file of program_config_save is there if that fails or what follows.
def SaveOutcome.Leaves (outcome : SaveOutcome) : Prop := outcome.error = none ∨ outcome.leavesFile = true

theorem Files.Disk.Fresh.defineSaved (h : site.disk.Fresh name) (habsolute : name.head? = some slash)
    (hnull : 0 ∉ name) (hready : Ready pool store before site.store) (hdirect : array.Direct)
    (hdevNull : ascii "/dev/null" ∉ before.flatMap Demand.texts)
    (program : ProgramScheduler → Program) :
    Attempt (· = site.disk)
      (fun disk => disk.tree.node (components name ++ [ascii "program.conf"]) ≠ none)
      (AllMet store (made store before) (outcomes.savedDemands grow session store)) False
      outcomes.save.Leaves site.store
      (programDefineSaved array grow outcomes session program name site) := by
  have hrooted := Disk.Fresh.save h habsolute hnull
  unfold programDefineSaved programConfigSaveFile DefineOutcomes.savedDemands SaveOutcome.Leaves
  cases hsave : outcomes.save.error with
  | some code =>
      have hcode : code.val ≠ .success := code.property
      simp only [hcode, ne_eq, not_false_eq_true, if_true]
      refine ⟨iff_of_false (fun hok => hok.elim fun _ h => (nomatch h)) fun hmet => (nomatch hmet.1),
        fun code' h => ?_, List.prefix_rfl, fun _ _ _ hkept => ⟨.refl site.store, ?_⟩,
        fun _ _ hnew => hnew.elim, fun _ _ hkept => ?_⟩
      · cases h
        exact hcode
      · exact if_neg fun hfile => hkept (Or.inr hfile)
      · rw [if_pos (hkept.resolve_left fun hnone => (nomatch hnone))]
        exact hrooted.there
  | none =>
      have hbody := @Rooted.defineObject array grow pool store before
        { site with disk := site.disk.createFile (name ++ ascii "/program.conf") } name session outcomes
        (ascii "program.conf") (· = site.disk) hrooted hready hdirect hdevNull program
      exact hbody.congr (and_iff_right rfl).symm Iff.rfl (iff_of_true trivial (Or.inl rfl))

def DefineOutcomes.configDemands (grow : GrowAllocation) (outcomes : DefineOutcomes) : List Demand :=
  outcomes.noneMessage.demand grow (ascii "None") :: .call (outcomes.calloc = true) ::
    outcomes.config.demands grow

theorem Files.Disk.Fresh.defineBelow (h : site.disk.Fresh name) (habsolute : name.head? = some slash)
    (hnull : 0 ∉ name) (hready : Ready pool store before site.store) (hdirect : array.Direct)
    (hnew : before.flatMap Demand.texts = []) (identifier rootDirectory : ObjectRef) :
    Attempt (· = site.disk)
      (fun disk => disk.tree.node (components name ++ [ascii "program.conf"]) ≠ none)
      (AllMet store (made store before)
        (outcomes.configDemands grow ++ outcomes.savedDemands grow session store))
      (Leaves store (made store before) (outcomes.configDemands grow))
      (AllMet store (made store before) (outcomes.configDemands grow) ∧ outcomes.save.Leaves) site.store
      (programDefineBelow array grow outcomes session identifier rootDirectory name site) := by
  have htext : strlen (ascii "None") < 4294967296 ∧ cString (ascii "None") = ascii "None" := by decide
  have hunknown : ascii "None" ∉ before.flatMap Demand.texts := by
    rw [hnew]
    exact List.not_mem_nil
  have hnone := hready.stock grow hdirect outcomes.noneMessage hunknown htext.1 htext.2
  have htexts : (before ++ [outcomes.noneMessage.demand grow (ascii "None")] ++
      [Demand.call (outcomes.calloc = true)]).flatMap Demand.texts = [ascii "None"] := by
    rw [flatMap_texts_call, List.flatMap_append, hnew]
    rfl
  have hsaved : ∀ config noneMessage last before', before'.flatMap Demand.texts =
      [ascii "None", [], ascii "."] → Ready (ProgramConfig.holds config ++
        (takenString noneMessage ++ pool)) store before' last →
      Attempt (· = site.disk)
        (fun disk => disk.tree.node (components name ++ [ascii "program.conf"]) ≠ none)
        (AllMet store (made store before') (outcomes.savedDemands grow session store))
        (Leaves store (made store before') [])
        (AllMet store (made store before') [] ∧ outcomes.save.Leaves) last
        (programDefineSaved array grow outcomes session
          (fun scheduler => ⟨identifier, rootDirectory, config, scheduler, noneMessage⟩) name
          ⟨last, site.disk⟩) := by
    intro config noneMessage last before' htexts' hlast
    have hdevNull : ascii "/dev/null" ∉ before'.flatMap Demand.texts := by
      rw [htexts']
      decide
    exact (@Disk.Fresh.defineSaved array grow _ store before' ⟨last, site.disk⟩ name session outcomes h
      habsolute hnull hlast hdirect hdevNull _).congr Iff.rfl Iff.rfl (and_iff_right trivial).symm
  have hcode : APIE.noFreeMemory ≠ .success := by decide
  unfold programDefineBelow
  refine Attempt.congr (Attempt.supplies hnone rfl fun noneMessage last hlast =>
    Attempt.called hlast hcode rfl fun hlast =>
      Attempt.supplies (hlast.configCreate hdirect outcomes.config ?_ ?_) rfl
        fun config last hlast => hsaved config noneMessage last _ ?_ hlast) Iff.rfl Iff.rfl Iff.rfl
  · rw [htexts]
    decide
  · rw [htexts]
    decide
  · rw [List.flatMap_append, htexts]
    rfl

end Saved

end RedApid
