import RedApid.Api.Protection
import RedApid.Programs.Define
import RedApid.Programs.OptionHistory

namespace RedApid

open Memory
open Scheduling (Stdio)

def ProgramConfig.redirectionOf (config : ProgramConfig) : Stdio → ProgramStdioRedirection
  | .stdin => config.stdinRedirection
  | .stdout => config.stdoutRedirection
  | .stderr => config.stderrRedirection

def ProgramConfig.fileNameOf (config : ProgramConfig) : Stdio → ObjectRef
  | .stdin => config.stdinFileName
  | .stdout => config.stdoutFileName
  | .stderr => config.stderrFileName

-- What program_config_load has for one stream. There is a file name if it is redirected to a file.
structure LoadedStream where
  redirection : ProgramStdioRedirection
  fileName : Option ObjectRef

structure LoadedStdio where
  stdin : LoadedStream
  stdout : LoadedStream
  stderr : LoadedStream

def LoadedStdio.get (loaded : LoadedStdio) : Stdio → LoadedStream
  | .stdin => loaded.stdin
  | .stdout => loaded.stdout
  | .stderr => loaded.stderr

def LoadedStream.names (stream : LoadedStream) : List ObjectRef := stream.fileName.toList

def LoadedStdio.names (loaded : LoadedStdio) : List ObjectRef :=
  loaded.stderr.names ++ (loaded.stdout.names ++ loaded.stdin.names)

section Functions

variable {α : Type} (array : ArrayRemove) (grow : GrowAllocation) (file : ConfFile)

-- An empty file name is given back, and the stream is redirected to /dev/null.
def programConfigLoadStream (loads : ProgramStdioRedirection → Bool) (name fileName : CString)
    (outcome : StringOutcome) (store : Store) : Except APIE LoadedStream × Store :=
  let redirection := programConfigGetSymbol file stdioRedirectionEnumValueNames name .devNull
  let redirection := if loads redirection then redirection else .devNull
  if redirection = .file then
    match stringWrapObject grow outcome (programConfigGetString file fileName []) none ownedFlags
      store with
    | (.error code, store) => (.error code, store)
    | (.ok string, store) =>
        if store.isEmptyString string then
          (.ok ⟨.devNull, none⟩, (lockedHold string).release array store)
        else (.ok ⟨redirection, some string⟩, store)
  else (.ok ⟨redirection, none⟩, store)

-- If what follows fails, the cleanup gives the file name back.
def loadingStream (loaded : Except APIE LoadedStream × Store)
    (body : LoadedStream → Store → Except APIE α × Store) : Except APIE α × Store :=
  match loaded with
  | (.error code, store) => (.error code, store)
  | (.ok stream, store) =>
      match body stream store with
      | (.ok a, store) => (.ok a, store)
      | (.error code, store) => (.error code, releaseAll array (stream.names.map lockedHold) store)

-- The outcomes of program_config_get_string for the file names.
structure StdioOutcomes where
  stdinFileName : StringOutcome
  stdoutFileName : StringOutcome
  stderrFileName : StringOutcome

-- The part of program_config_load that reads the redirections.
def programConfigLoadStdio (outcomes : StdioOutcomes) (store : Store) :
    Except APIE LoadedStdio × Store :=
  loadingStream array
      (programConfigLoadStream array grow file loadsStdin (ascii "stdin_redirection")
        (ascii "stdin_file_name") outcomes.stdinFileName store)
    fun stdin store =>
  loadingStream array
      (programConfigLoadStream array grow file loadsStdout (ascii "stdout_redirection")
        (ascii "stdout_file_name") outcomes.stdoutFileName store)
    fun stdout store =>
  loadingStream array
      (programConfigLoadStream array grow file loadsStderr (ascii "stderr_redirection")
        (ascii "stderr_file_name") outcomes.stderrFileName store)
    fun stderr store => (.ok ⟨stdin, stdout, stderr⟩, store)

end Functions

section Runs

-- The objects, and what program_config_load has for a program that is not created yet.
structure StdioState where
  pool : List Hold
  store : Store
  loaded : Option LoadedStdio

def StdioState.init : StdioState := ⟨[], Store.init, none⟩

-- program_define and program_load
inductive StdioOrigin : Option LoadedStdio → ProgramConfig → Prop where
  | define (executable arguments environment workingDirectory : ObjectRef) :
      StdioOrigin none (.fresh executable arguments environment workingDirectory)
  | load {loaded : LoadedStdio} {config : ProgramConfig}
      (redirection : ∀ stream, config.redirectionOf stream = (loaded.get stream).redirection)
      (fileName : ∀ stream string, (loaded.get stream).fileName = some string →
        config.fileNameOf stream = string) : StdioOrigin (some loaded) config

def Program.SameStdio (p p' : Program) : Prop :=
  p'.config.redirectionOf = p.config.redirectionOf ∧ p'.config.fileNameOf = p.config.fileNameOf

-- The redirections of programs are only set when these are created, and by
-- program_set_stdio_redirection. The update of the scheduler at its end is among the other steps.
inductive StdioStep (array : ArrayRemove) (grow : GrowAllocation) : StdioState → StdioState → Prop where
  | object {pool next : List Hold} {store other : Store} (loaded : Option LoadedStdio)
      (step : ObjectStep array grow (pool, store) (next, other)) (live : other.EntriesLive)
      (creates : ∀ program p, store.payload program = none →
        other.payload program ≠ some (.program p))
      (sets : ∀ program p p', store.payload program = some (.program p) →
        other = store.setPayload program (.program p') → p.SameStdio p')
      (held : ∀ stdio, loaded = some stdio → ∀ string ∈ stdio.names, lockedHold string ∈ next) :
      StdioStep array grow ⟨pool, store, loaded⟩ ⟨next, other, loaded⟩
  | load (pool : List Hold) (store : Store) (file : ConfFile) (outcomes : StdioOutcomes)
      (loaded : LoadedStdio)
      (ok : (programConfigLoadStdio array grow file outcomes store).1 = .ok loaded) :
      StdioStep array grow ⟨pool, store, none⟩ ⟨loaded.names.map lockedHold ++ pool,
        (programConfigLoadStdio array grow file outcomes store).2, some loaded⟩
  | notLoaded (pool : List Hold) (store : Store) (file : ConfFile) (outcomes : StdioOutcomes)
      (code : APIE)
      (error : (programConfigLoadStdio array grow file outcomes store).1 = .error code) :
      StdioStep array grow ⟨pool, store, none⟩
        ⟨pool, (programConfigLoadStdio array grow file outcomes store).2, none⟩
  | discard (pool : List Hold) (store : Store) (loaded : LoadedStdio) :
      StdioStep array grow ⟨pool, store, some loaded⟩ ⟨pool, store, none⟩
  | create (pool : List Hold) (store : Store) (loaded : Option LoadedStdio)
      (outcome : ObjectCreation) (p : Program) (session : Option SessionRef) (flags : UInt32)
      (object : ObjectRef) (origin : StdioOrigin loaded p.config)
      (plain : ∀ hold ∈ p.holds, hold.locked = false →
        ∀ q, store.objects.get hold.object = some q → q.payload.type ≠ .list)
      (ok : (store.createObject outcome (.program p) session flags).1 = .ok object)
      (live : (store.createObject outcome (.program p) session flags).2.EntriesLive) :
      StdioStep array grow ⟨p.holds ++ pool, store, loaded⟩
        ⟨createdHolds flags object ++ pool,
          (store.createObject outcome (.program p) session flags).2, none⟩
  | redirect (pool : List Hold) (store : Store) (loaded : Option LoadedStdio)
      (status : ProgramStatus) (save : Option APIError) (program : ObjectRef) (p : Program)
      (get : store.payload program = some (.program p))
      (stdinRedirection : UInt8) (stdinFileNameId : ObjectID)
      (stdoutRedirection : UInt8) (stdoutFileNameId : ObjectID)
      (stderrRedirection : UInt8) (stderrFileNameId : ObjectID) :
      StdioStep array grow ⟨pool, store, loaded⟩
        ⟨pool, (programSetStdioRedirection array id status save program stdinRedirection
          stdinFileNameId stdoutRedirection stdoutFileNameId stderrRedirection stderrFileNameId
          store).2, loaded⟩

-- The file name is a String that is alive, locked and not empty.
structure Store.LockedName (store : Store) (name : ObjectRef) : Prop where
  locked : ∃ o s, store.objects.get name = some o ∧ o.payload = .string s ∧ 0 < o.lockCount
  nonempty : store.isEmptyString name = false

def Store.FileNamesLocked (store : Store) : Prop :=
  ∀ program p, store.payload program = some (.program p) → ∀ stream,
    p.config.redirectionOf stream = .file → store.LockedName (p.config.fileNameOf stream)

end Runs

section Names

variable {array : ArrayRemove} {grow : GrowAllocation} {pool next holds : List Hold}
  {store other : Store} {names : List ObjectRef} {program name : ObjectRef} {p : Program}

theorem Store.isEmptyString_congr (h : other.payload name = store.payload name) :
    other.isEmptyString name = store.isEmptyString name := by
  unfold isEmptyString
  rw [h]

theorem Store.string_of_nonempty {o : Object} (h : store.isEmptyString name = false)
    (ho : store.objects.get name = some o) : ∃ s, o.payload = .string s := by
  unfold isEmptyString Store.payload at h
  rw [ho] at h
  cases hpayload : o.payload with
  | string s => exact ⟨s, rfl⟩
  | list _ | file _ | directory _ | process _ | program _ =>
      rw [Option.map_some, hpayload] at h
      cases h

theorem ProgramConfig.fileNameOf_mem_holds (config : ProgramConfig) {stream : Stdio}
    (hfile : config.redirectionOf stream = .file) :
    lockedHold (config.fileNameOf stream) ∈ config.holds := by
  refine config.fileName_mem_holds ?_
  unfold ProgramStdioRedirection.fileName
  cases stream with
  | stdin => simp [if_pos (show config.stdinRedirection = .file from hfile), fileNameOf]
  | stdout => simp [if_pos (show config.stdoutRedirection = .file from hfile), fileNameOf]
  | stderr => simp [if_pos (show config.stderrRedirection = .file from hfile), fileNameOf]

-- A program holds the lock of its file names.
theorem lockHeld_fileName (pool : List Hold) (hp : store.payload program = some (.program p))
    {stream : Stdio} (hfile : p.config.redirectionOf stream = .file) :
    LockHeld (p.config.fileNameOf stream) (pool, store) := by
  obtain ⟨o, ho, hpayload⟩ := Option.map_eq_some_iff.mp hp
  refine Or.inr ⟨program, o, ho, ?_⟩
  rw [hpayload]
  exact p.config_mem_holds (p.config.fileNameOf_mem_holds hfile)

theorem ObjectStep.sound (hstep : ObjectStep array grow (pool, store) (next, other))
    (hlive : other.EntriesLive) (h : Sound pool store) : Sound next other := by
  rcases hstep.holder_or_write with hholder | ⟨rfl, outcome, id, members, string, hwrites, rfl⟩
  · exact @CleanStep.sound array pool next store other ⟨hholder, hlive⟩ h
  rcases @storeFunction_write array grow store id hwrites outcome members string with
    hfault | ⟨o, s, t, ho, hpayload, -, hwritten⟩
  · rw [hfault]
    refine ⟨?_, h.counted.congr rfl rfl rfl, (Store.NoNewIds.faulted store).identified h.identified,
      h.listing⟩
    exact h.holding.of_kept (.congr rfl rfl) (h.holding.accounted.congr (fun _ => rfl) fun _ => rfl)
  · have hstep : HolderStep array (next, store) (next,
        store.modifyObject string fun o => { o with payload := .string t }) := by
      refine .setPayload _ _ store string o (.string t) ho (by rw [hpayload]; nofun)
        (by rw [hpayload]; rfl) (fun hold hmem => absurd hmem List.not_mem_nil) ?_
      rw [hpayload]
      exact List.Perm.refl _
    rw [hwritten]
    exact (@Sound.cleanStep array _ _ store _ h [.setPayload string (.string t)] hstep rfl).sound h

-- The content of a String that stays locked is kept.
theorem ObjectStep.nonempty (hstep : ObjectStep array grow (pool, store) (next, other))
    (hholding : Holding pool store) (hheld : LockHeld name (pool, store))
    (hlive : other.objects.get name ≠ none) (h : store.isEmptyString name = false) :
    other.isEmptyString name = false := by
  obtain ⟨o, ho, hlocked, -⟩ := hheld.locked hholding
  obtain ⟨o', ho'⟩ := Option.ne_none_iff_exists'.mp hlive
  obtain ⟨s, hs⟩ := Store.string_of_nonempty h ho
  have hcontent := (hstep.sameContent hlocked ho ho').content (Or.inl (by rw [hs]; rfl))
  rw [Store.isEmptyString_congr]
  · exact h
  · unfold Store.payload
    rw [ho, ho', Option.map_some, Option.map_some, hcontent]

theorem Store.Kept.nonempty (hkept : store.Kept other) (hlive : other.objects.get name ≠ none)
    (h : store.isEmptyString name = false) : other.isEmptyString name = false := by
  cases hpayload : store.payload name with
  | none =>
      unfold Store.isEmptyString at h
      rw [hpayload] at h
      cases h
  | some payload =>
      rw [Store.isEmptyString_congr ((hkept.payload hlive hpayload).trans hpayload.symm)]
      exact h

theorem Store.Same.kept (h : store.Same other) : store.Kept other :=
  ⟨fun p o' ho' => ⟨o', (h.objects p).symm.trans ho', rfl⟩, h.tables.stockStrings⟩

theorem Store.Kept.payload_of {payload : Payload} (hkept : store.Kept other)
    (h : other.payload name = some payload) : store.payload name = some payload := by
  obtain ⟨o', ho', rfl⟩ := Option.map_eq_some_iff.mp h
  obtain ⟨o, ho, -, hsame⟩ := hkept.get ho'
  unfold Store.payload
  rw [ho, hsame]
  rfl

-- Programs keep their redirections.
def Store.KeepsStdio (store other : Store) : Prop :=
  ∀ program p', other.payload program = some (.program p') → ∃ p,
    store.payload program = some (.program p) ∧ p.SameStdio p'

theorem Store.Kept.keepsStdio (h : store.Kept other) : store.KeepsStdio other :=
  fun _ p' hp' => ⟨p', h.payload_of hp', rfl, rfl⟩

-- The object that is modified is no program.
theorem Store.Kept.keepsStdio_modifyObject (hkept : store.Kept other) {object : ObjectRef}
    {f : Object → Object}
    (hf : ∀ o p, other.objects.get object = some o → (f o).payload = .program p →
      o.payload = .program p) :
    store.KeepsStdio (other.modifyObject object f) := by
  intro program p' hp'
  obtain ⟨o', ho', hpayload⟩ := Option.map_eq_some_iff.mp hp'
  obtain ⟨o, ho, rfl⟩ := Store.modifyObject_get ho'
  refine hkept.keepsStdio program p' (Option.map_eq_some_iff.mpr ⟨o, ho, ?_⟩)
  by_cases hobject : program = object
  · subst hobject
    rw [if_pos rfl] at hpayload
    exact hf o p' ho hpayload
  · rwa [if_neg hobject] at hpayload

theorem Payload.eq_program_of_mapItems {payload : Payload} {f : List ObjectRef → List ObjectRef}
    (h : payload.mapItems f = .program p) : payload = .program p := by
  cases payload with
  | list items => cases h
  | string _ | file _ | directory _ | process _ | program _ => exact h

theorem ObjectStep.keepsStdio (hstep : ObjectStep array grow (pool, store) (next, other))
    (hcreates : ∀ program p, store.payload program = none →
      other.payload program ≠ some (.program p))
    (hsets : ∀ program p p', store.payload program = some (.program p) →
      other = store.setPayload program (.program p') → p.SameStdio p') : store.KeepsStdio other := by
  cases hstep with
  | perm => exact (Store.Kept.refl store).keepsStdio
  | sessionCreate _ _ outcome lifetime =>
      exact (Store.KeepsHolds.sessionCreate outcome lifetime store).kept.keepsStdio
  | sessionExpire _ _ session | sessionHandleExpire _ _ session =>
      exact (Store.KeepsHolds.sessionExpireHelper session store).kept.keepsStdio
  | addExternalReference _ _ calloc object session =>
      exact (Store.Kept.of_sameInternals
        (.objectAddExternalReference calloc object session store)).keepsStdio
  | objectRelease _ _ object session =>
      exact (Store.KeepsHolds.objectRelease object session store).kept.keepsStdio
  | created _ _ outcome payload session flags | notCreated _ _ outcome payload session flags =>
      intro program p' hp'
      obtain ⟨o', ho', hpayload⟩ := Option.map_eq_some_iff.mp hp'
      rcases createObject_objects outcome payload session flags store ho' with
        ⟨rfl, -, -⟩ | ⟨o, ho, hcore⟩
      · have hnone : store.payload store.objects.next = none :=
          Option.map_eq_none_iff.mpr (Option.eq_none_iff_forall_ne_some.mpr fun _ ho =>
            Nat.lt_irrefl _ (Heap.lt_next_of_get ho))
        exact absurd hp' (hcreates _ p' hnone)
      · have hsame : o'.payload = o.payload := congrArg Prod.snd hcore
        exact ⟨p', Option.map_eq_some_iff.mpr ⟨o, ho, hsame.symm.trans hpayload⟩, rfl, rfl⟩
  | acquire _ _ hold => exact (Store.Kept.acquire hold store).keepsStdio
  | release _ _ hold => exact (Store.Kept.of_runs (hold.release_runs store)).keepsStdio
  | setPayload _ _ _ object o payload hget _ _ htype =>
      intro program p' hp'
      by_cases hobject : program = object
      · subst hobject
        have hset : (store.setPayload program payload).payload program = some payload :=
          Store.setPayload_payload (by simp [hget])
        obtain rfl : payload = .program p' := Option.some.inj (hset.symm.trans hp')
        cases hpayload : o.payload with
        | program p =>
            have hp : store.payload program = some (.program p) :=
              Option.map_eq_some_iff.mpr ⟨o, hget, hpayload⟩
            exact ⟨p, hp, hsets program p p' hp rfl⟩
        | string _ | list _ | file _ | directory _ | process _ =>
            rw [hpayload] at htype
            cases htype
      · exact ⟨p', (Store.setPayload_payload_ne hobject).symm.trans hp', rfl, rfl⟩
  | listAppendTo _ _ append list itemId l hl =>
      rcases listAppendTo_cases append itemId hl with ⟨-, hsame⟩ | ⟨item, -, -, -, happend⟩
      · rw [hsame]
        exact (Store.Kept.refl store).keepsStdio
      · rw [happend]
        exact (Store.Kept.acquire (lockedHold item) store).keepsStdio_modifyObject
          fun _ _ _ => Payload.eq_program_of_mapItems
  | listRemoveFrom _ _ list index l hl =>
      rcases @listRemoveFrom_cases array store list l index hl with
        ⟨-, hsame⟩ | ⟨item, -, -, hremove⟩
      · rw [hsame]
        exact (Store.Kept.refl store).keepsStdio
      · rw [hremove]
        exact (Store.Kept.of_runs ((lockedHold item).release_runs store)).keepsStdio_modifyObject
          fun _ _ _ => Payload.eq_program_of_mapItems
  | write _ _ outcome id members string writes =>
      rcases @storeFunction_write array grow store id writes outcome members string with
        hfault | ⟨o, s, t, -, -, -, hwritten⟩
      · rw [hfault]
        exact (Store.Kept.congr rfl rfl).keepsStdio
      · rw [hwritten]
        refine (Store.Kept.refl store).keepsStdio_modifyObject fun _ _ _ hprogram => ?_
        cases hprogram

end Names

section Invariant

variable {array : ArrayRemove} {grow : GrowAllocation} {pool next holds : List Hold}
  {store other : Store} {names last : List ObjectRef} {program name object : ObjectRef} {p : Program}

-- The file names of programs are not empty, and neither are those that are held for a program.
structure FileNames (names : List ObjectRef) (pool : List Hold) (store : Store) : Prop where
  sound : Sound pool store
  programs : ∀ program p, store.payload program = some (.program p) → ∀ stream,
    p.config.redirectionOf stream = .file →
      store.isEmptyString (p.config.fileNameOf stream) = false
  held : ∀ name ∈ names, lockedHold name ∈ pool ∧ store.isEmptyString name = false

theorem FileNames.locked (h : FileNames names pool store) : store.FileNamesLocked := by
  intro program p hp stream hfile
  have hnonempty := h.programs program p hp stream hfile
  obtain ⟨o, ho, hlocked, -⟩ := (lockHeld_fileName pool hp hfile).locked h.sound.holding
  obtain ⟨s, hs⟩ := Store.string_of_nonempty hnonempty ho
  exact ⟨⟨o, s, ho, hs, hlocked⟩, hnonempty⟩

-- What one step preserves. Names that were held can become those of programs.
theorem FileNames.step (h : FileNames names pool store) (hsound : Sound next other)
    (hnonempty : ∀ name, LockHeld name (pool, store) → other.objects.get name ≠ none →
      store.isEmptyString name = false → other.isEmptyString name = false)
    (hprograms : ∀ program p', other.payload program = some (.program p') → ∀ stream,
      p'.config.redirectionOf stream = .file → p'.config.fileNameOf stream ∈ names ∨
        ∃ p, store.payload program = some (.program p) ∧
          p.config.redirectionOf stream = .file ∧
          p.config.fileNameOf stream = p'.config.fileNameOf stream)
    (hheld : ∀ name ∈ last, name ∈ names ∧ lockedHold name ∈ next) : FileNames last next other := by
  refine ⟨hsound, fun program p' hp' stream hfile => ?_, fun name hmem => ?_⟩
  · obtain ⟨o, ho, -⟩ := (lockHeld_fileName next hp' hfile).locked hsound.holding
    have hlive : other.objects.get (p'.config.fileNameOf stream) ≠ none := by simp [ho]
    rcases hprograms program p' hp' stream hfile with hmem | ⟨p, hp, hfile', hname⟩
    · obtain ⟨hhold, htext⟩ := h.held _ hmem
      exact hnonempty _ (Or.inl hhold) hlive htext
    · rw [← hname] at hlive ⊢
      exact hnonempty _ (lockHeld_fileName pool hp hfile') hlive (h.programs program p hp stream hfile')
  · obtain ⟨hmem, hhold⟩ := hheld name hmem
    obtain ⟨hhold', htext⟩ := h.held name hmem
    exact ⟨hhold, hnonempty name (Or.inl hhold') (hsound.holding.accounted.live_of_mem hhold) htext⟩

-- Objects may only be destroyed.
theorem FileNames.kept (h : FileNames names pool store) (hsound : Sound next other)
    (hkept : store.Kept other) (hheld : ∀ name ∈ last, name ∈ names ∧ lockedHold name ∈ next) :
    FileNames last next other :=
  h.step hsound (fun _ _ hlive htext => hkept.nonempty hlive htext)
    (fun _ p' hp' _ hfile => Or.inr ⟨p', hkept.payload_of hp', hfile, rfl⟩) hheld

theorem FileNames.released (h : FileNames names (holds ++ pool) store)
    (hnames : ∀ name ∈ last, name ∈ names ∧ lockedHold name ∈ pool) :
    FileNames last pool (releaseAll array holds store) := by
  induction holds generalizing store names with
  | nil => exact h.kept h.sound (.refl store) hnames
  | cons hold holds ih =>
      have hsound := (@Sound.releaseStep array (holds ++ pool) store hold h.sound).sound h.sound
      have hreleased : FileNames last (holds ++ pool) (hold.release array store) :=
        h.kept hsound (.of_runs (hold.release_runs store)) fun name hmem =>
          ⟨(hnames name hmem).1, List.mem_append_right _ (hnames name hmem).2⟩
      exact ih hreleased fun name hmem => ⟨hmem, (hnames name hmem).2⟩

-- A String is new.
theorem FileNames.owned {s : StringObject} (h : FileNames names pool store)
    (howned : store.Owned other object (.string s)) (hsound : Sound next other)
    (hheld : ∀ name ∈ names, lockedHold name ∈ next) : FileNames names next other := by
  refine h.step hsound (fun name hlocked _ htext => ?_) (fun program p' hp' stream hfile => ?_)
    fun name hmem => ⟨hmem, hheld name hmem⟩
  · obtain ⟨o, ho, -⟩ := hlocked.locked h.sound.holding
    have hne : name ≠ object := by
      rintro rfl
      rw [howned.fresh] at ho
      cases ho
    have hpayload : other.payload name = store.payload name := by
      unfold Store.payload
      rw [howned.others name hne]
    rw [Store.isEmptyString_congr hpayload]
    exact htext
  · have hne : program ≠ object := by
      rintro rfl
      obtain ⟨id, hnew⟩ := howned.new
      unfold Store.payload at hp'
      rw [hnew] at hp'
      cases hp'
    refine Or.inr ⟨p', ?_, hfile, rfl⟩
    unfold Store.payload at hp' ⊢
    rwa [howned.others program hne] at hp'

end Invariant

section Loader

variable {α : Type} {array : ArrayRemove} {grow : GrowAllocation} {pool : List Hold} {store : Store}
  {names : List ObjectRef}

-- A step of the loader leaves nothing behind if it fails.
structure Loads (loaded : α → Store → Prop) (names : List ObjectRef) (pool : List Hold)
    (result : Except APIE α × Store) : Prop where
  ok : ∀ a, result.1 = .ok a → loaded a result.2
  error : ∀ code, result.1 = .error code → FileNames names pool result.2

def StreamLoaded (names : List ObjectRef) (pool : List Hold) (stream : LoadedStream)
    (store : Store) : Prop :=
  FileNames (stream.names ++ names) (stream.names.map lockedHold ++ pool) store

theorem FileNames.wrapString (h : FileNames names pool store) (outcome : StringOutcome)
    (buffer : CString) :
    Loads (fun string store => FileNames names (lockedHold string :: pool) store) names pool
      (stringWrapObject grow outcome buffer none ownedFlags store) := by
  unfold stringWrapObject Store.createString
  cases stringWrap grow ⟨outcome.memory, outcome.calloc, .success⟩ buffer with
  | error code => exact ⟨nofun, fun _ _ => h⟩
  | ok s =>
      dsimp only
      rcases createObject_owned_frame outcome.objectCreate (.string s) h.sound.identified with
        ⟨code, -, herror, hsame⟩ | ⟨hok, howned⟩
      · refine ⟨fun string hstring => ?_, fun _ _ => ?_⟩
        · rw [herror] at hstring
          cases hstring
        · exact h.kept (h.sound.createOwned_error outcome.objectCreate (.string s) rfl herror)
            hsame.kept fun name hmem => ⟨hmem, (h.held name hmem).1⟩
      · refine ⟨fun string hstring => ?_, fun code hcode => ?_⟩
        · rw [hok] at hstring
          cases hstring
          exact h.owned howned (h.sound.createOwned outcome.objectCreate (.string s) rfl hok)
            fun name hmem => List.mem_cons_of_mem _ (h.held name hmem).1
        · rw [hok] at hcode
          cases hcode

theorem FileNames.loadStream (h : FileNames names pool store) (file : ConfFile)
    (loads : ProgramStdioRedirection → Bool) (name fileName : CString) (outcome : StringOutcome) :
    Loads (StreamLoaded names pool) names pool
      (programConfigLoadStream array grow file loads name fileName outcome store) := by
  have hnone : ∀ redirection, Loads (StreamLoaded names pool) names pool
      (.ok ⟨redirection, none⟩, store) := by
    refine fun redirection => ⟨?_, nofun⟩
    rintro _ ⟨⟩
    exact h
  have hwrapped := @FileNames.wrapString grow pool store names h outcome
    (programConfigGetString file fileName [])
  unfold programConfigLoadStream
  dsimp only
  generalize (if loads (programConfigGetSymbol file stdioRedirectionEnumValueNames name .devNull) then
    programConfigGetSymbol file stdioRedirectionEnumValueNames name .devNull else .devNull) = redirection
  by_cases hfile : redirection = .file
  · rw [if_pos hfile]
    generalize stringWrapObject grow outcome (programConfigGetString file fileName []) none
      ownedFlags store = wrapped at hwrapped ⊢
    rcases wrapped with ⟨code | string, wrapped⟩
    · exact ⟨nofun, fun _ _ => hwrapped.error code rfl⟩
    · have hlocked := hwrapped.ok string rfl
      dsimp only
      by_cases hempty : wrapped.isEmptyString string = true
      · rw [if_pos hempty]
        refine ⟨?_, nofun⟩
        rintro _ ⟨⟩
        exact @FileNames.released array pool [lockedHold string] wrapped names names hlocked
          fun name hmem => ⟨hmem, (h.held name hmem).1⟩
      · rw [if_neg hempty]
        refine ⟨?_, nofun⟩
        rintro _ ⟨⟩
        refine ⟨hlocked.sound, hlocked.programs, fun name hmem => ?_⟩
        rcases List.mem_cons.mp hmem with rfl | hmem
        · exact ⟨List.mem_cons_self, Bool.eq_false_iff.mpr hempty⟩
        · exact hlocked.held name hmem
  · rw [if_neg hfile]
    exact hnone redirection

theorem FileNames.loading {final : α → Store → Prop} {loaded : Except APIE LoadedStream × Store}
    {body : LoadedStream → Store → Except APIE α × Store} (h : FileNames names pool store)
    (hloaded : Loads (StreamLoaded names pool) names pool loaded)
    (hbody : ∀ stream store, StreamLoaded names pool stream store →
      Loads final (stream.names ++ names) (stream.names.map lockedHold ++ pool) (body stream store)) :
    Loads final names pool (loadingStream array loaded body) := by
  unfold loadingStream
  rcases loaded with ⟨code | stream, loaded⟩
  · exact ⟨nofun, fun _ _ => hloaded.error code rfl⟩
  · have hresult := hbody stream loaded (hloaded.ok stream rfl)
    dsimp only
    generalize body stream loaded = result at hresult ⊢
    rcases result with ⟨code | a, other⟩
    · refine ⟨nofun, fun _ _ => (hresult.error code rfl).released fun name hmem => ?_⟩
      exact ⟨List.mem_append_right _ hmem, (h.held name hmem).1⟩
    · exact ⟨fun _ hok => hresult.ok _ hok, nofun⟩

theorem FileNames.loadStdio (h : FileNames names pool store) (file : ConfFile)
    (outcomes : StdioOutcomes) :
    Loads (fun loaded store => FileNames (loaded.names ++ names)
      (loaded.names.map lockedHold ++ pool) store) names pool
      (programConfigLoadStdio array grow file outcomes store) := by
  unfold programConfigLoadStdio
  refine h.loading (h.loadStream file loadsStdin _ _ _) fun stdin s₁ h₁ => ?_
  refine FileNames.loading h₁ (FileNames.loadStream h₁ file loadsStdout _ _ _) fun stdout s₂ h₂ => ?_
  refine FileNames.loading h₂ (FileNames.loadStream h₂ file loadsStderr _ _ _) fun stderr s₃ h₃ => ?_
  refine ⟨?_, nofun⟩
  rintro _ ⟨⟩
  unfold StreamLoaded at h₃
  unfold LoadedStdio.names
  simpa only [List.append_assoc, List.map_append] using h₃

-- A stream that is redirected to a file has a file name.
theorem programConfigLoadStream_named {file : ConfFile} {loads : ProgramStdioRedirection → Bool}
    {name fileName : CString} {outcome : StringOutcome} {stream : LoadedStream}
    (hok : (programConfigLoadStream array grow file loads name fileName outcome store).1 = .ok stream)
    (hfile : stream.redirection = .file) : ∃ string, stream.fileName = some string := by
  unfold programConfigLoadStream at hok
  dsimp only at hok
  generalize (if loads (programConfigGetSymbol file stdioRedirectionEnumValueNames name .devNull) then
    programConfigGetSymbol file stdioRedirectionEnumValueNames name .devNull else .devNull) =
      redirection at hok
  split_ifs at hok with hredirection
  · generalize stringWrapObject grow outcome (programConfigGetString file fileName []) none
      ownedFlags store = wrapped at hok
    rcases wrapped with ⟨code | string, wrapped⟩
    · cases hok
    · dsimp only at hok
      split_ifs at hok
      · cases hok
        cases hfile
      · cases hok
        exact ⟨string, rfl⟩
  · cases hok
    exact absurd hfile hredirection

theorem loadingStream_ok {loaded : Except APIE LoadedStream × Store}
    {body : LoadedStream → Store → Except APIE α × Store} {a : α}
    (hok : (loadingStream array loaded body).1 = .ok a) :
    ∃ stream other, loaded = (.ok stream, other) ∧ (body stream other).1 = .ok a := by
  unfold loadingStream at hok
  rcases loaded with ⟨code | stream, other⟩
  · cases hok
  · refine ⟨stream, other, rfl, ?_⟩
    dsimp only at hok
    generalize body stream other = result at hok ⊢
    rcases result with ⟨code | b, last⟩
    · cases hok
    · exact hok

theorem programConfigLoadStdio_named {file : ConfFile} {outcomes : StdioOutcomes}
    {loaded : LoadedStdio}
    (hok : (programConfigLoadStdio array grow file outcomes store).1 = .ok loaded)
    (stream : Stdio) (hfile : (loaded.get stream).redirection = .file) :
    ∃ string, (loaded.get stream).fileName = some string := by
  obtain ⟨stdin, s₁, hstdin, hok⟩ := loadingStream_ok hok
  obtain ⟨stdout, s₂, hstdout, hok⟩ := loadingStream_ok hok
  obtain ⟨stderr, s₃, hstderr, hok⟩ := loadingStream_ok hok
  cases hok
  cases stream with
  | stdin => exact programConfigLoadStream_named (congrArg Prod.fst hstdin) hfile
  | stdout => exact programConfigLoadStream_named (congrArg Prod.fst hstdout) hfile
  | stderr => exact programConfigLoadStream_named (congrArg Prod.fst hstderr) hfile

theorem LoadedStdio.mem_names {loaded : LoadedStdio} {stream : Stdio} {string : ObjectRef}
    (h : (loaded.get stream).fileName = some string) : string ∈ loaded.names := by
  have hmem : string ∈ (loaded.get stream).names := Option.mem_toList.mpr h
  unfold names
  simp only [List.mem_append]
  cases stream with
  | stdin => exact Or.inr (Or.inr hmem)
  | stdout => exact Or.inr (Or.inl hmem)
  | stderr => exact Or.inl hmem

end Loader

section Setter

variable {array : ArrayRemove} {pool new replaced : List Hold} {store other : Store}
  {names last : List ObjectRef} {program : ObjectRef} {p : Program} {config : ProgramConfig}

-- Lookups change nothing but counts.
theorem FileNames.sameShape {next : List Hold} (h : FileNames names pool store)
    (hsound : Sound next other) (hsame : store.SameShape other)
    (hheld : ∀ name ∈ names, lockedHold name ∈ next) : FileNames names next other :=
  h.kept hsound hsame.kept fun name hmem => ⟨hmem, hheld name hmem⟩

-- A program takes over the names that were acquired for it.
theorem FileNames.setConfig (h : FileNames names (new ++ pool) store)
    (hp : store.payload program = some (.program p))
    (hperm : (config.holds ++ replaced).Perm (p.config.holds ++ new))
    (hnames : ∀ stream, config.redirectionOf stream = .file → config.fileNameOf stream ∈ names)
    (hlast : ∀ name ∈ last, name ∈ names ∧ lockedHold name ∈ pool) :
    FileNames last pool
      (releaseAll array replaced (store.setPayload program (.program { p with config }))) := by
  have hsound := (@Sound.setConfig array pool new replaced store program p config h.sound hp
    hperm).sound h.sound
  have hlive : store.objects.get program ≠ none := by
    obtain ⟨o, ho, -⟩ := Option.map_eq_some_iff.mp hp
    simp [ho]
  have hset : FileNames last (replaced ++ pool)
      (store.setPayload program (.program { p with config })) := by
    refine h.step hsound (fun name _ _ htext => ?_) (fun other p' hp' stream hfile => ?_)
      fun name hmem => ⟨(hlast name hmem).1, List.mem_append_right _ (hlast name hmem).2⟩
    · have hne : name ≠ program := by
        rintro rfl
        unfold Store.isEmptyString at htext
        rw [hp] at htext
        cases htext
      rw [Store.isEmptyString_congr (Store.setPayload_payload_ne hne)]
      exact htext
    · by_cases hother : other = program
      · subst hother
        rw [Store.setPayload_payload hlive] at hp'
        cases hp'
        exact Or.inl (hnames stream hfile)
      · rw [Store.setPayload_payload_ne hother] at hp'
        exact Or.inr ⟨p', hp', hfile, rfl⟩
  exact hset.released fun name hmem => ⟨hmem, (hlast name hmem).2⟩

theorem TextFound.getD_mem {needed : Bool} {id : ObjectID} {text : Option ObjectRef}
    (h : TextFound needed id store text) (hneeded : needed = true) (former : ObjectRef) :
    text.getD former ∈ text.toList := by
  obtain ⟨string, rfl, -⟩ := h.1 hneeded
  exact List.mem_singleton_self string

-- It does not matter what the request asks for.
theorem FileNames.redirect (h : FileNames names pool store)
    (hp : store.payload program = some (.program p)) (status : ProgramStatus)
    (save : Option APIError) (stdinRedirection : UInt8) (stdinFileNameId : ObjectID)
    (stdoutRedirection : UInt8) (stdoutFileNameId : ObjectID) (stderrRedirection : UInt8)
    (stderrFileNameId : ObjectID) :
    FileNames names pool (programSetStdioRedirection array id status save program stdinRedirection
      stdinFileNameId stdoutRedirection stdoutFileNameId stderrRedirection stderrFileNameId
      store).2 := by
  have hexact := @Sound.programSetStdioRedirection array id save pool store program p h.sound hp
    status stdinRedirection stdinFileNameId stdoutRedirection stdoutFileNameId stderrRedirection
    stderrFileNameId
  rcases hresult : programSetStdioRedirection array id status save program stdinRedirection
    stdinFileNameId stdoutRedirection stdoutFileNameId stderrRedirection stderrFileNameId store with
    ⟨code | _, other⟩
  · rw [hresult] at hexact
    obtain ⟨-, hsame⟩ := hexact.unchanged code rfl
    rw [show other = store from hsame]
    exact h
  obtain ⟨stdinKind, stdoutKind, stderrKind, stdin, stdout, stderr, acquired, -, -, -, hacquired,
    hbody⟩ := programSetStdioRedirection_eq_ok h.sound hp hresult
  have hformer := h.sameShape hacquired.sound hacquired.same fun name hmem =>
    List.mem_append_right _ (h.held name hmem).1
  have hnew : FileNames (stdin.toList ++ stdout.toList ++ stderr.toList ++ names)
      ((stdin.toList ++ stdout.toList ++ stderr.toList).map lockedHold ++ pool) acquired := by
    refine ⟨hacquired.sound, hformer.programs, fun name hmem => ?_⟩
    rcases List.mem_append.mp hmem with hname | hname
    · exact ⟨List.mem_append_left _ (List.mem_map_of_mem hname), hacquired.texts name hname⟩
    · exact hformer.held name hname
  rw [programConfigReplace_ok hbody]
  refine hnew.setConfig ((hacquired.same.payload program).trans hp) ?_ (fun stream hfile => ?_)
    fun name hmem => ⟨List.mem_append_right _ hmem, (h.held name hmem).1⟩
  · rw [hacquired.holds p.config]
    exact p.config.stdio_perm stdinKind stdoutKind stderrKind _ _ _
  · refine List.mem_append_left _ ?_
    simp only [List.mem_append]
    cases stream with
    | stdin => exact Or.inl (Or.inl (hacquired.stdinFound.getD_mem (decide_eq_true hfile) _))
    | stdout => exact Or.inl (Or.inr (hacquired.stdoutFound.getD_mem (decide_eq_true hfile) _))
    | stderr => exact Or.inr (hacquired.stderrFound.getD_mem (decide_eq_true hfile) _)

end Setter

section Runs

variable {array : ArrayRemove} {grow : GrowAllocation}

structure StdioState.Inv (s : StdioState) : Prop where
  names : FileNames (s.loaded.elim [] LoadedStdio.names) s.pool s.store
  named : ∀ loaded, s.loaded = some loaded → ∀ stream, (loaded.get stream).redirection = .file →
    ∃ string, (loaded.get stream).fileName = some string

theorem FileNames.inv {pool : List Hold} {store : Store} (h : FileNames [] pool store) :
    StdioState.Inv ⟨pool, store, none⟩ := by
  refine ⟨h, fun loaded hloaded => ?_⟩
  cases hloaded

theorem StdioState.Inv.init : StdioState.init.Inv := by
  refine FileNames.inv ⟨.init, fun program p hp => ?_, fun name hmem => absurd hmem List.not_mem_nil⟩
  cases hp

-- The names of a new program were held for it.
theorem StdioOrigin.fileNameOf_mem {loaded : Option LoadedStdio} {config : ProgramConfig}
    (horigin : StdioOrigin loaded config)
    (hnamed : ∀ stdio, loaded = some stdio → ∀ stream, (stdio.get stream).redirection = .file →
      ∃ string, (stdio.get stream).fileName = some string)
    (stream : Stdio) (hfile : config.redirectionOf stream = .file) :
    config.fileNameOf stream ∈ loaded.elim [] LoadedStdio.names := by
  cases horigin with
  | define => cases stream <;> cases hfile
  | load hredirection hfileName =>
      obtain ⟨string, hstring⟩ := hnamed _ rfl stream ((hredirection stream).symm.trans hfile)
      rw [hfileName stream string hstring]
      exact LoadedStdio.mem_names hstring

theorem StdioStep.inv {s s' : StdioState} (hstep : StdioStep array grow s s') (h : s.Inv) : s'.Inv := by
  cases hstep with
  | object loaded step live creates sets held =>
      refine ⟨h.names.step (step.sound live h.names.sound) (fun name hheld hlive htext =>
        step.nonempty h.names.sound.holding hheld hlive htext) (fun program p' hp' stream hfile => ?_)
        fun name hmem => ⟨hmem, ?_⟩, h.named⟩
      · obtain ⟨p, hp, hredirection, hname⟩ := step.keepsStdio creates sets program p' hp'
        exact Or.inr ⟨p, hp, by rw [← hredirection]; exact hfile, by rw [hname]⟩
      · cases loaded with
        | none => cases hmem
        | some stdio => exact held stdio rfl name hmem
  | load pool store file outcomes loaded ok =>
      have hloads := @FileNames.loadStdio array grow pool store [] h.names file outcomes
      have hnames := hloads.ok loaded ok
      rw [List.append_nil] at hnames
      refine ⟨hnames, ?_⟩
      rintro _ ⟨⟩
      exact programConfigLoadStdio_named ok
  | notLoaded pool store file outcomes code error =>
      have hloads := @FileNames.loadStdio array grow pool store [] h.names file outcomes
      exact (hloads.error code error).inv
  | discard =>
      exact FileNames.inv ⟨h.names.sound, h.names.programs,
        fun name hmem => absurd hmem List.not_mem_nil⟩
  | create pool store loaded outcome p session flags object origin plain ok live =>
      have step : ObjectStep array grow (p.holds ++ pool, store) (createdHolds flags object ++ pool,
          (store.createObject outcome (.program p) session flags).2) :=
        .created pool store outcome (.program p) session flags object rfl plain ok
      refine FileNames.inv (h.names.step (step.sound live h.names.sound)
        (fun name hheld hlive htext => step.nonempty h.names.sound.holding hheld hlive htext)
        (fun program p' hp' stream hfile => ?_) fun name hmem => absurd hmem List.not_mem_nil)
      obtain ⟨o, ho, hpayload⟩ := Option.map_eq_some_iff.mp hp'
      rcases createObject_objects outcome (.program p) session flags store ho with
        ⟨-, hcore, -⟩ | ⟨o', ho', hcore⟩
      · have hsame := hpayload.symm.trans (congrArg Prod.snd hcore)
        cases hsame
        exact Or.inl (origin.fileNameOf_mem h.named stream hfile)
      · have hsame := (congrArg Prod.snd hcore).symm.trans hpayload
        exact Or.inr ⟨p', Option.map_eq_some_iff.mpr ⟨o', ho', hsame⟩, hfile, rfl⟩
  | redirect pool store loaded status save program p get =>
      exact ⟨h.names.redirect get status save _ _ _ _ _ _, h.named⟩

theorem inv_of_stdioSteps {s : StdioState}
    (h : Relation.ReflTransGen (StdioStep array grow) StdioState.init s) : s.Inv := by
  induction h with
  | refl => exact .init
  | tail _ hstep ih => exact hstep.inv ih

theorem fileNames_locked_of_steps {s : StdioState}
    (h : Relation.ReflTransGen (StdioStep array grow) StdioState.init s) : s.store.FileNamesLocked :=
  (inv_of_stdioSteps h).names.locked

end Runs

section Examples

variable {array : ArrayRemove} {grow : GrowAllocation} {pool : List Hold} {store other : Store}

theorem ObjectStep.stdioStep {next : List Hold}
    (step : ObjectStep array grow (pool, store) (next, other)) (live : other.EntriesLive)
    (same : ∀ program p, other.payload program = some (.program p) →
      store.payload program = some (.program p)) :
    StdioStep array grow ⟨pool, store, none⟩ ⟨next, other, none⟩ := by
  refine .object none step live (fun program p hnone hp => ?_) (fun program p p' hp hset => ?_)
    fun stdio hloaded => ?_
  · rw [same program p hp] at hnone
    cases hnone
  · obtain ⟨o, ho, -⟩ := Option.map_eq_some_iff.mp hp
    have hp' := same program p' (by rw [hset]; exact Store.setPayload_payload (by simp [ho]))
    rw [hp] at hp'
    cases hp'
    exact ⟨rfl, rfl⟩
  · cases hloaded

theorem createObject_programs (outcome : ObjectCreation) {payload : Payload}
    (session : Option SessionRef) (flags : UInt32) (store : Store)
    (hother : payload.type ≠ .program) {program : ObjectRef} {p : Program}
    (hp : (store.createObject outcome payload session flags).2.payload program =
      some (.program p)) : store.payload program = some (.program p) := by
  obtain ⟨o, ho, hpayload⟩ := Option.map_eq_some_iff.mp hp
  rcases createObject_objects outcome payload session flags store ho with
    ⟨-, hcore, -⟩ | ⟨o', ho', hcore⟩
  · have hsame := (congrArg Prod.snd hcore).symm.trans hpayload
    rw [show payload = .program p from hsame] at hother
    exact absurd rfl hother
  · have hsame := (congrArg Prod.snd hcore).symm.trans hpayload
    exact Option.map_eq_some_iff.mpr ⟨o', ho', hsame⟩

theorem acquireAll_stdioSteps (holds : List Hold)
    (h : Relation.ReflTransGen (StdioStep array grow) StdioState.init ⟨pool, store, none⟩)
    (hlive : ∀ hold ∈ holds, store.objects.get hold.object ≠ none) :
    Relation.ReflTransGen (StdioStep array grow) StdioState.init
      ⟨holds.reverse ++ pool, acquireAll holds store, none⟩ := by
  induction holds generalizing pool store with
  | nil => exact h
  | cons hold holds ih =>
      have hfirst := hlive hold List.mem_cons_self
      have hclean := (inv_of_stdioSteps h).names.sound.acquireStep array hold hfirst
      have hstep := @ObjectStep.stdioStep array grow pool store _ _ (.acquire pool store hold hfirst)
        hclean.2 fun _ _ hp => (Store.Kept.acquire hold store).payload_of hp
      rw [List.reverse_cons, List.append_assoc]
      refine ih (h.tail hstep) fun next hmem => ?_
      change (hold.acquire store).objects.get next.object ≠ none
      rw [hold.acquire_eq, Store.modifyObject_get_ne_none]
      exact hlive next (List.mem_cons_of_mem _ hmem)

-- A session, the string "." and a list.
def dotStore : Store :=
  (((sessionCreate ⟨true, none, none, none⟩ 10 Store.init).2.createObject ⟨true, none⟩
    (.string ⟨Block.malloc (fun _ => 46) 2, 1, 2⟩) (some 0) OBJECT_CREATE_FLAG_EXTERNAL).2.createObject
    ⟨true, none⟩ (.list []) (some 0) OBJECT_CREATE_FLAG_EXTERNAL).2

theorem dotStore_steps : Relation.ReflTransGen (StdioStep array grow) StdioState.init
    ⟨[], dotStore, none⟩ :=
  ((Relation.ReflTransGen.refl.tail
    (ObjectStep.stdioStep (.sessionCreate [] _ ⟨true, none, none, none⟩ 10)
      (Store.entriesLive_of_cells rfl)
      fun _ _ hp => (Store.KeepsHolds.sessionCreate ⟨true, none, none, none⟩ 10
        Store.init).kept.payload_of hp)).tail
    (ObjectStep.stdioStep (.created [] _ ⟨true, none⟩
      (.string ⟨Block.malloc (fun _ => 46) 2, 1, 2⟩) (some 0) OBJECT_CREATE_FLAG_EXTERNAL 0 rfl
      (fun _ hmem => absurd hmem List.not_mem_nil) rfl) (Store.entriesLive_of_cells rfl)
      fun _ _ hp => createObject_programs _ _ _ _ (by decide) hp)).tail
    (ObjectStep.stdioStep (.created [] _ ⟨true, none⟩ (.list []) (some 0)
      OBJECT_CREATE_FLAG_EXTERNAL 1 rfl (fun _ hmem => absurd hmem List.not_mem_nil) rfl)
      (Store.entriesLive_of_cells rfl) fun _ _ hp => createObject_programs _ _ _ _ (by decide) hp)

def definedProgram : Program where
  identifier := 0
  rootDirectory := 0
  config := .fresh 0 1 1 0
  scheduler := .fresh 0
  noneMessage := 0

def definedStore : Store :=
  ((acquireAll definedProgram.holds.reverse dotStore).createObject ⟨true, none⟩
    (.program definedProgram) (some 0) OBJECT_CREATE_FLAG_EXTERNAL).2

-- The string becomes the file name of stdin.
def redirectedStore : Store :=
  (programSetStdioRedirection .byIndex id ⟨false, 0⟩ none 2 2 1 0 0 0 0 definedStore).2

theorem redirectedStore_steps : Relation.ReflTransGen (StdioStep .byIndex grow) StdioState.init
    ⟨[], redirectedStore, none⟩ := by
  have hacquired := @acquireAll_stdioSteps .byIndex grow [] dotStore definedProgram.holds.reverse
    dotStore_steps (by decide)
  rw [List.reverse_reverse] at hacquired
  exact (hacquired.tail (.create [] _ none ⟨true, none⟩ definedProgram (some 0)
    OBJECT_CREATE_FLAG_EXTERNAL 2 (.define 0 1 1 0) (by decide) rfl
    (Store.entriesLive_of_cells rfl))).tail
    (.redirect [] definedStore none ⟨false, 0⟩ none 2 definedProgram rfl 2 1 0 0 0 0)

end Examples

end RedApid
