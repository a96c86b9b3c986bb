import RedApid.Store.Cleanup

namespace RedApid

open Memory

section Functions

-- `update` is what program_scheduler_update does at the end, `save` is the error of
-- program_config_save.
variable (array : ArrayRemove) (update : Store → Store) (status : ProgramStatus)
  (save : Option APIError) (program : ObjectRef)

def programStdioRedirectionOf (value : UInt8) : Option ProgramStdioRedirection :=
  [.devNull, .pipe, .file, .individualLog, .continuousLog, .stdout][value.toNat]?

def programStartModeOf (value : UInt8) : Option ProgramStartMode :=
  [.never, .always, .interval, .cron][value.toNat]?

def ProgramConfig.commandHolds (config : ProgramConfig) : List Hold :=
  [lockedHold config.executable, lockedHold config.arguments, lockedHold config.environment,
    lockedHold config.workingDirectory]

def ProgramConfig.stdioHolds (config : ProgramConfig) : List Hold :=
  (if config.stdinRedirection = .file then [lockedHold config.stdinFileName] else []) ++
    (if config.stdoutRedirection = .file then [lockedHold config.stdoutFileName] else []) ++
    (if config.stderrRedirection = .file then [lockedHold config.stderrFileName] else [])

def ProgramConfig.scheduleHolds (config : ProgramConfig) : List Hold :=
  if config.startMode = .cron then [lockedHold config.startFields] else []

-- The new config is saved. If this fails the backup is put back, else the objects of the backup
-- that were replaced are released.
def programConfigReplace (p : Program) (config : ProgramConfig) (replaced : List Hold)
    (store : Store) : Except APIE Unit × Store :=
  let store := store.setPayload program (.program { p with config })
  match save with
  | some code => (.error code, store.setPayload program (.program p))
  | none => (.ok (), update (releaseAll array replaced store))

-- A string that is needed only sometimes, it must not be empty.
def acquiringText {α : Type} (needed : Bool) (id : ObjectID) (store : Store)
    (body : Option ObjectRef → Store → Except APIE α × Store) : Except APIE α × Store :=
  if needed then
    acquiring array true (stringGetAcquiredAndLocked id store) fun string store =>
      if store.isEmptyString string then (.error .invalidParameter, store)
      else body (some string) store
  else body none store

def programSetCommand (executableId argumentsId environmentId workingDirectoryId : ObjectID)
    (store : Store) : Except APIE Unit × Store :=
  match store.payload program with
  | some (.program p) =>
      if status.purged then (.error .programIsPurged, store)
      else
        acquiring array true (stringGetAcquiredAndLocked executableId store)
          fun executable store =>
        -- phase 1
        if store.isEmptyString executable then (.error .invalidParameter, store)
        else
          acquiring array true (listGetAcquiredAndLocked argumentsId .string store)
            fun arguments store =>
          -- phase 2
          acquiring array true (listGetAcquiredAndLocked environmentId .string store)
            fun environment store =>
          -- phase 3
          match stringGetAcquiredAndLocked workingDirectoryId store with
          | (.error code, store) => (.error code, store)
          | (.ok workingDirectory, store) =>
              -- this is still phase 3
              if store.isEmptyString workingDirectory then (.error .invalidParameter, store)
              else
                -- phase 4
                Hold.cleanup array (lockedHold workingDirectory)
                  (programConfigReplace array update save program p
                    { p.config with executable, arguments, environment, workingDirectory }
                    p.config.commandHolds store)
  | _ => (.error .internalError, store.faulted)

-- A file name is NULL unless it is needed, here it is left as it is then.
def programSetStdioRedirection (stdinRedirection : UInt8) (stdinFileNameId : ObjectID)
    (stdoutRedirection : UInt8) (stdoutFileNameId : ObjectID) (stderrRedirection : UInt8)
    (stderrFileNameId : ObjectID) (store : Store) : Except APIE Unit × Store :=
  match store.payload program with
  | some (.program p) =>
      if status.purged then (.error .programIsPurged, store)
      else
        match programStdioRedirectionOf stdinRedirection,
          programStdioRedirectionOf stdoutRedirection,
          programStdioRedirectionOf stderrRedirection with
        | some stdinKind, some stdoutKind, some stderrKind =>
            if stdinKind = .individualLog ∨ stdinKind = .continuousLog ∨
                stdinKind = .stdout then
              (.error .invalidParameter, store)
            else if stdoutKind = .pipe ∨ stdoutKind = .stdout then (.error .invalidParameter, store)
            -- stdout and not stderr is compared
            else if stdoutKind = .pipe then (.error .invalidParameter, store)
            else
              acquiringText array (stdinKind = .file) stdinFileNameId store fun stdinFileName store =>
              acquiringText array (stdoutKind = .file) stdoutFileNameId store
                fun stdoutFileName store =>
              acquiringText array (stderrKind = .file) stderrFileNameId store
                fun stderrFileName store =>
              programConfigReplace array update save program p
                { p.config with
                  stdinRedirection := stdinKind
                  stdinFileName := stdinFileName.getD p.config.stdinFileName
                  stdoutRedirection := stdoutKind
                  stdoutFileName := stdoutFileName.getD p.config.stdoutFileName
                  stderrRedirection := stderrKind
                  stderrFileName := stderrFileName.getD p.config.stderrFileName }
                p.config.stdioHolds store
        | _, _, _ => (.error .invalidParameter, store)
  | _ => (.error .internalError, store.faulted)

def programSetSchedule (startMode : UInt8) (continueAfterError : UInt8) (startInterval : UInt32)
    (startFieldsId : ObjectID) (store : Store) : Except APIE Unit × Store :=
  match store.payload program with
  | some (.program p) =>
      if status.purged then (.error .programIsPurged, store)
      else
        match programStartModeOf startMode with
        | none => (.error .invalidParameter, store)
        | some startMode =>
            if startInterval < 1 then (.error .invalidParameter, store)
            else
              acquiringText array (startMode = .cron) startFieldsId store fun startFields store =>
              programConfigReplace array update save program p
                { p.config with
                  startMode
                  continueAfterError := continueAfterError ≠ 0
                  startInterval
                  startFields := startFields.getD p.config.startFields }
                p.config.scheduleHolds store
  | _ => (.error .internalError, store.faulted)

end Functions

section Texts

variable {α : Type} {array : ArrayRemove} {pool : List Hold} {store other : Store} {needed : Bool}
  {id : ObjectID} {body : Option ObjectRef → Store → Except APIE α × Store}

-- The string that was acquired if it is needed.
def TextFound (needed : Bool) (id : ObjectID) (store : Store) (text : Option ObjectRef) : Prop :=
  (needed = true → ∃ string, text = some string ∧
    inventoryGetObject [.string] id store = .ok string) ∧ (needed = false → text = none)

theorem UnchangedOnError.acquiringText (h : Sound pool store)
    (hbody : ∀ text pool acquired, Sound pool acquired → store.SameShape acquired →
      UnchangedOnError acquired (body text acquired)) :
    UnchangedOnError store (acquiringText array needed id store body) := by
  unfold RedApid.acquiringText
  split
  · refine .acquiring h (h.stringGetAcquiredAndLocked id) fun string _ _ hsound => ?_
    split
    · exact .error _ (by decide)
    · exact hbody (some string) _ _ hsound (.acquire store _)
  · exact hbody none pool store h (.refl store)

theorem acquiringText_eq_ok {a : α} (h : Sound pool store)
    (hok : acquiringText array needed id store body = (.ok a, other)) :
    ∃ text acquired, TextFound needed id store text ∧
      (∀ string, text = some string → acquired.isEmptyString string = false) ∧
      Sound (text.toList.map lockedHold ++ pool) acquired ∧ store.SameShape acquired ∧
      body text acquired = (.ok a, other) := by
  unfold acquiringText at hok
  cases needed with
  | true =>
      obtain ⟨string, hfound, hsound, hbody⟩ :=
        acquiring_eq_ok h (h.stringGetAcquiredAndLocked id) hok
      split at hbody
      · cases hbody
      · rename_i hempty
        refine ⟨some string, _, ⟨fun _ => ⟨string, rfl, hfound⟩, nofun⟩, ?_, hsound,
          .acquire store _, hbody⟩
        rintro _ ⟨⟩
        exact Bool.eq_false_iff.mpr hempty
  | false => exact ⟨none, store, ⟨nofun, fun _ => rfl⟩, nofun, h, .refl store, hok⟩

end Texts

section Setters

variable {array : ArrayRemove} {update : Store → Store} {save : Option APIError}
  {pool : List Hold} {store other : Store} {program : ObjectRef} {p : Program}
  {config : ProgramConfig} {replaced new : List Hold}

theorem programConfigReplace_unchanged (hp : store.payload program = some (.program p)) :
    UnchangedOnError store
      (programConfigReplace array update save program p config replaced store) := by
  unfold programConfigReplace
  cases save with
  | none => exact fun _ herror => (nomatch herror)
  | some code =>
      rintro _ ⟨⟩
      refine ⟨code.property, ?_⟩
      obtain ⟨o, ho, hpayload⟩ := Option.map_eq_some_iff.mp hp
      simp only [Store.setPayload, Store.modifyObject_modifyObject]
      have hback : store.modifyObject program (fun o => { o with payload := .program p }) =
          store.modifyObject program id := by
        refine Store.modifyObject_congr fun o' ho' => ?_
        rw [ho] at ho'
        cases ho'
        rw [← hpayload]
        rfl
      rw [hback, Store.modifyObject_of_get ho, Heap.modify_id]

theorem programConfigReplace_eq_ok (h : store.Accounted ownHolds pool) {acquired : Store}
    (hacquired : acquired.Accounted ownHolds (new ++ pool)) (hsame : store.SameShape acquired)
    (hp : store.payload program = some (.program p))
    (hperm : (config.holds ++ replaced).Perm (p.config.holds ++ new))
    (hok : programConfigReplace array update save program p config replaced acquired =
      (.ok (), other)) :
    ∃ last, other = update last ∧
      Swapped pool program (.program { p with config }) replaced new store last := by
  unfold programConfigReplace at hok
  cases save with
  | some code => cases hok
  | none =>
      cases hok
      obtain ⟨o, ho, hpayload⟩ := Option.map_eq_some_iff.mp hp
      refine ⟨_, rfl, .of_acquired h hacquired hsame ho ?_⟩
      rw [hpayload]
      change ((p.scheduler.holds ++ config.holds ++ _) ++ replaced).Perm
        ((p.scheduler.holds ++ p.config.holds ++ _) ++ new)
      refine List.perm_iff_count.mpr fun hold => ?_
      have hcount := hperm.count_eq hold
      simp only [List.count_append] at hcount ⊢
      omega

theorem ProgramConfig.command_perm (config : ProgramConfig)
    (executable arguments environment workingDirectory : ObjectRef) :
    let config' := { config with executable, arguments, environment, workingDirectory }
    (config'.holds ++ config.commandHolds).Perm (config.holds ++ config'.commandHolds) := by
  refine List.perm_iff_count.mpr fun hold => ?_
  simp only [holds, commandHolds, List.count_append, List.count_cons, List.count_nil]
  omega

theorem ProgramConfig.stdio_perm (config : ProgramConfig)
    (stdinRedirection stdoutRedirection stderrRedirection : ProgramStdioRedirection)
    (stdinFileName stdoutFileName stderrFileName : ObjectRef) :
    let config' := { config with
      stdinRedirection, stdinFileName, stdoutRedirection, stdoutFileName, stderrRedirection,
      stderrFileName }
    (config'.holds ++ config.stdioHolds).Perm (config.holds ++ config'.stdioHolds) := by
  refine List.perm_iff_count.mpr fun hold => ?_
  simp only [holds, stdioHolds, List.count_append]
  omega

theorem ProgramConfig.schedule_perm (config : ProgramConfig) (startMode : ProgramStartMode)
    (continueAfterError : Bool) (startInterval : UInt32) (startFields : ObjectRef) :
    let config' := { config with startMode, continueAfterError, startInterval, startFields }
    (config'.holds ++ config.scheduleHolds).Perm (config.holds ++ config'.scheduleHolds) := by
  refine List.perm_iff_count.mpr fun hold => ?_
  simp only [holds, scheduleHolds, List.count_append]
  omega

-- A setter that fails changes nothing. One that succeeds does what it has to do before the
-- scheduler is updated.
structure SetterExact (update : Store → Store) (store : Store) (result : Except APIE Unit × Store)
    (replaces : Store → Prop) : Prop where
  unchanged : UnchangedOnError store result
  replaced : result.1 = .ok () → ∃ last, result.2 = update last ∧ replaces last

-- The string of the config is the one with this ID if one is needed, and stays else.
def TextReplaced (needed : Bool) (id : ObjectID) (store : Store) (text former : ObjectRef) : Prop :=
  if needed then inventoryGetObject [.string] id store = .ok text else text = former

theorem TextFound.textReplaced {needed : Bool} {id : ObjectID} {text : Option ObjectRef}
    (h : TextFound needed id store text) (former : ObjectRef) :
    TextReplaced needed id store (text.getD former) former ∧
      text.toList.map lockedHold = if needed then [lockedHold (text.getD former)] else [] := by
  cases needed with
  | true =>
      obtain ⟨string, rfl, hfound⟩ := h.1 rfl
      exact ⟨hfound, rfl⟩
  | false =>
      rw [h.2 rfl]
      exact ⟨rfl, rfl⟩

-- What program_set_schedule has to do.
def ScheduleReplaced (pool : List Hold) (program : ObjectRef) (p : Program) (startMode : UInt8)
    (continueAfterError : UInt8) (startInterval : UInt32) (startFieldsId : ObjectID)
    (store other : Store) : Prop :=
  ∃ mode startFields, programStartModeOf startMode = some mode ∧
    TextReplaced (mode = .cron) startFieldsId store startFields p.config.startFields ∧
    let config := { p.config with
      startMode := mode
      continueAfterError := continueAfterError ≠ 0
      startInterval
      startFields }
    Swapped pool program (.program { p with config }) p.config.scheduleHolds config.scheduleHolds
      store other

theorem Sound.programSetSchedule (h : Sound pool store)
    (hp : store.payload program = some (.program p)) (status : ProgramStatus)
    (startMode continueAfterError : UInt8) (startInterval : UInt32) (startFieldsId : ObjectID) :
    SetterExact update store (programSetSchedule array update status save program startMode
      continueAfterError startInterval startFieldsId store)
      (ScheduleReplaced pool program p startMode continueAfterError startInterval startFieldsId
        store) := by
  unfold RedApid.programSetSchedule
  simp only [hp]
  by_cases hpurged : status.purged = true
  · rw [if_pos hpurged]
    exact ⟨.error store (by decide), fun hok => (nomatch hok)⟩
  rw [if_neg hpurged]
  cases hmode : programStartModeOf startMode with
  | none => exact ⟨.error store (by decide), fun hok => (nomatch hok)⟩
  | some mode =>
      simp only
      by_cases hinterval : startInterval < 1
      · rw [if_pos hinterval]
        exact ⟨.error store (by decide), fun hok => (nomatch hok)⟩
      rw [if_neg hinterval]
      refine ⟨.acquiringText h fun text pool acquired _ hsame =>
        programConfigReplace_unchanged ((hsame.payload program).trans hp), fun hok => ?_⟩
      obtain ⟨text, acquired, hfound, -, hsound, hsame, hbody⟩ :=
        acquiringText_eq_ok h (Prod.ext hok rfl)
      obtain ⟨hreplaced, hnew⟩ := hfound.textReplaced p.config.startFields
      simp only [decide_eq_true_eq] at hnew
      have haccounted := hsound.holding.accounted
      rw [hnew] at haccounted
      obtain ⟨last, hlast, hswapped⟩ := programConfigReplace_eq_ok h.holding.accounted haccounted
        hsame hp (p.config.schedule_perm mode _ startInterval _) hbody
      exact ⟨last, hlast, mode, _, hmode, hreplaced, hswapped⟩

-- What program_set_stdio_redirection has to do.
def StdioReplaced (pool : List Hold) (program : ObjectRef) (p : Program)
    (stdinRedirection : UInt8) (stdinFileNameId : ObjectID) (stdoutRedirection : UInt8)
    (stdoutFileNameId : ObjectID) (stderrRedirection : UInt8) (stderrFileNameId : ObjectID)
    (store other : Store) : Prop :=
  ∃ stdinKind stdoutKind stderrKind stdinFileName stdoutFileName stderrFileName,
    programStdioRedirectionOf stdinRedirection = some stdinKind ∧
    programStdioRedirectionOf stdoutRedirection = some stdoutKind ∧
    programStdioRedirectionOf stderrRedirection = some stderrKind ∧
    TextReplaced (stdinKind = .file) stdinFileNameId store stdinFileName
      p.config.stdinFileName ∧
    TextReplaced (stdoutKind = .file) stdoutFileNameId store stdoutFileName
      p.config.stdoutFileName ∧
    TextReplaced (stderrKind = .file) stderrFileNameId store stderrFileName
      p.config.stderrFileName ∧
    let config := { p.config with
      stdinRedirection := stdinKind
      stdinFileName
      stdoutRedirection := stdoutKind
      stdoutFileName
      stderrRedirection := stderrKind
      stderrFileName }
    Swapped pool program (.program { p with config }) p.config.stdioHolds config.stdioHolds
      store other

theorem TextFound.of_sameShape {needed : Bool} {id : ObjectID} {text : Option ObjectRef}
    {acquired : Store} (h : TextFound needed id acquired text) (hsame : store.SameShape acquired) :
    TextFound needed id store text := by
  unfold TextFound at h ⊢
  rwa [hsame.inventoryGetObject] at h

-- What program_set_stdio_redirection has acquired when it replaces the config.
structure StdioAcquired (pool : List Hold) (store : Store)
    (stdinKind : ProgramStdioRedirection) (stdinFileNameId : ObjectID)
    (stdoutKind : ProgramStdioRedirection) (stdoutFileNameId : ObjectID)
    (stderrKind : ProgramStdioRedirection) (stderrFileNameId : ObjectID)
    (stdin stdout stderr : Option ObjectRef) (acquired : Store) : Prop where
  stdinFound : TextFound (stdinKind = .file) stdinFileNameId store stdin
  stdoutFound : TextFound (stdoutKind = .file) stdoutFileNameId store stdout
  stderrFound : TextFound (stderrKind = .file) stderrFileNameId store stderr
  texts : ∀ name ∈ stdin.toList ++ stdout.toList ++ stderr.toList,
    acquired.isEmptyString name = false
  sound : Sound ((stdin.toList ++ stdout.toList ++ stderr.toList).map lockedHold ++ pool) acquired
  same : store.SameShape acquired

theorem StdioAcquired.holds {stdinKind stdoutKind stderrKind : ProgramStdioRedirection}
    {stdinFileNameId stdoutFileNameId stderrFileNameId : ObjectID}
    {stdin stdout stderr : Option ObjectRef} {acquired : Store}
    (h : StdioAcquired pool store stdinKind stdinFileNameId stdoutKind stdoutFileNameId stderrKind
      stderrFileNameId stdin stdout stderr acquired) (config : ProgramConfig) :
    (stdin.toList ++ stdout.toList ++ stderr.toList).map lockedHold =
      { config with
        stdinRedirection := stdinKind
        stdinFileName := stdin.getD config.stdinFileName
        stdoutRedirection := stdoutKind
        stdoutFileName := stdout.getD config.stdoutFileName
        stderrRedirection := stderrKind
        stderrFileName := stderr.getD config.stderrFileName : ProgramConfig }.stdioHolds := by
  have hstdin := (h.stdinFound.textReplaced config.stdinFileName).2
  have hstdout := (h.stdoutFound.textReplaced config.stdoutFileName).2
  have hstderr := (h.stderrFound.textReplaced config.stderrFileName).2
  simp only [decide_eq_true_eq] at hstdin hstdout hstderr
  rw [List.map_append, List.map_append, hstdin, hstdout, hstderr]
  rfl

-- A request that succeeds gets as far as this.
theorem programSetStdioRedirection_eq_ok (h : Sound pool store)
    (hp : store.payload program = some (.program p)) {status : ProgramStatus}
    {stdinRedirection : UInt8} {stdinFileNameId : ObjectID} {stdoutRedirection : UInt8}
    {stdoutFileNameId : ObjectID} {stderrRedirection : UInt8} {stderrFileNameId : ObjectID}
    (hok : programSetStdioRedirection array update status save program stdinRedirection
      stdinFileNameId stdoutRedirection stdoutFileNameId stderrRedirection stderrFileNameId store =
        (.ok (), other)) :
    ∃ stdinKind stdoutKind stderrKind stdin stdout stderr acquired,
      programStdioRedirectionOf stdinRedirection = some stdinKind ∧
      programStdioRedirectionOf stdoutRedirection = some stdoutKind ∧
      programStdioRedirectionOf stderrRedirection = some stderrKind ∧
      StdioAcquired pool store stdinKind stdinFileNameId stdoutKind stdoutFileNameId stderrKind
        stderrFileNameId stdin stdout stderr acquired ∧
      programConfigReplace array update save program p
        { p.config with
          stdinRedirection := stdinKind
          stdinFileName := stdin.getD p.config.stdinFileName
          stdoutRedirection := stdoutKind
          stdoutFileName := stdout.getD p.config.stdoutFileName
          stderrRedirection := stderrKind
          stderrFileName := stderr.getD p.config.stderrFileName }
        p.config.stdioHolds acquired = (.ok (), other) := by
  have herror : ∀ {code : APIE} {last : Store},
      ((.error code, last) : Except APIE Unit × Store) ≠ (.ok (), other) := nofun
  unfold programSetStdioRedirection at hok
  simp only [hp] at hok
  split at hok
  · exact absurd hok herror
  cases hstdin : programStdioRedirectionOf stdinRedirection with
  | none =>
      rw [hstdin] at hok
      exact absurd hok herror
  | some stdinKind =>
  cases hstdout : programStdioRedirectionOf stdoutRedirection with
  | none =>
      rw [hstdin, hstdout] at hok
      exact absurd hok herror
  | some stdoutKind =>
  cases hstderr : programStdioRedirectionOf stderrRedirection with
  | none =>
      rw [hstdin, hstdout, hstderr] at hok
      exact absurd hok herror
  | some stderrKind =>
  rw [hstdin, hstdout, hstderr] at hok
  simp only at hok
  split at hok
  · exact absurd hok herror
  split at hok
  · exact absurd hok herror
  split at hok
  · exact absurd hok herror
  obtain ⟨stdin, s₁, hfound₁, htext₁, h₁, hsame₁, hbody₁⟩ := acquiringText_eq_ok h hok
  obtain ⟨stdout, s₂, hfound₂, htext₂, h₂, hsame₂, hbody₂⟩ := acquiringText_eq_ok h₁ hbody₁
  obtain ⟨stderr, s₃, hfound₃, htext₃, h₃, hsame₃, hbody₃⟩ := acquiringText_eq_ok h₂ hbody₂
  refine ⟨stdinKind, stdoutKind, stderrKind, stdin, stdout, stderr, s₃, rfl, rfl, rfl,
    ⟨hfound₁, hfound₂.of_sameShape hsame₁, hfound₃.of_sameShape (hsame₁.trans hsame₂),
      fun name hmem => ?_, ?_, (hsame₁.trans hsame₂).trans hsame₃⟩, hbody₃⟩
  · -- the three strings are there until the end
    simp only [List.mem_append, Option.mem_toList] at hmem
    rcases hmem with (hmem | hmem) | hmem
    · exact ((hsame₂.trans hsame₃).isEmptyString name).trans (htext₁ name hmem)
    · exact (hsame₃.isEmptyString name).trans (htext₂ name hmem)
    · exact htext₃ name hmem
  · refine h₃.perm (List.perm_iff_count.mpr fun hold => ?_)
    simp only [List.map_append, List.count_append]
    omega

theorem Sound.programSetStdioRedirection (h : Sound pool store)
    (hp : store.payload program = some (.program p)) (status : ProgramStatus)
    (stdinRedirection : UInt8) (stdinFileNameId : ObjectID) (stdoutRedirection : UInt8)
    (stdoutFileNameId : ObjectID) (stderrRedirection : UInt8) (stderrFileNameId : ObjectID) :
    SetterExact update store (programSetStdioRedirection array update status save program
      stdinRedirection stdinFileNameId stdoutRedirection stdoutFileNameId stderrRedirection
      stderrFileNameId store)
      (StdioReplaced pool program p stdinRedirection stdinFileNameId stdoutRedirection
        stdoutFileNameId stderrRedirection stderrFileNameId store) := by
  refine ⟨?_, fun hok => ?_⟩
  · have herror : ∀ code : APIE, code ≠ .success →
        UnchangedOnError store ((.error code, store) : Except APIE Unit × Store) :=
      fun _ hcode => .error store hcode
    unfold RedApid.programSetStdioRedirection
    simp only [hp]
    split
    · exact herror _ (by decide)
    split
    · split
      · exact herror _ (by decide)
      split
      · exact herror _ (by decide)
      split
      · exact herror _ (by decide)
      refine .acquiringText h fun stdin _ s₁ h₁ hsame₁ => .acquiringText h₁ fun stdout _ s₂ h₂ hsame₂ =>
        .acquiringText h₂ fun stderr _ s₃ _ hsame₃ => programConfigReplace_unchanged ?_
      rw [((hsame₁.trans hsame₂).trans hsame₃).payload, hp]
    · exact herror _ (by decide)
  · obtain ⟨stdinKind, stdoutKind, stderrKind, stdin, stdout, stderr, acquired, hstdin, hstdout,
      hstderr, hacquired, hbody⟩ := programSetStdioRedirection_eq_ok h hp (Prod.ext hok rfl)
    have haccounted := hacquired.sound.holding.accounted
    rw [hacquired.holds p.config] at haccounted
    obtain ⟨last, hlast, hswapped⟩ := programConfigReplace_eq_ok h.holding.accounted haccounted
      hacquired.same hp (p.config.stdio_perm stdinKind stdoutKind stderrKind _ _ _) hbody
    exact ⟨last, hlast, stdinKind, stdoutKind, stderrKind, _, _, _, hstdin, hstdout, hstderr,
      (hacquired.stdinFound.textReplaced _).1, (hacquired.stdoutFound.textReplaced _).1,
      (hacquired.stderrFound.textReplaced _).1, hswapped⟩

section Command

variable {executableId argumentsId environmentId workingDirectoryId : ObjectID}

-- What program_set_command has to do.
def CommandReplaced (pool : List Hold) (program : ObjectRef) (p : Program)
    (executableId argumentsId environmentId workingDirectoryId : ObjectID)
    (store other : Store) : Prop :=
  ∃ executable arguments environment workingDirectory,
    inventoryGetObject [.string] executableId store = .ok executable ∧
    inventoryGetObject [.list] argumentsId store = .ok arguments ∧
    inventoryGetObject [.list] environmentId store = .ok environment ∧
    inventoryGetObject [.string] workingDirectoryId store = .ok workingDirectory ∧
    let config := { p.config with executable, arguments, environment, workingDirectory }
    Swapped pool program (.program { p with config }) p.config.commandHolds config.commandHolds
      store other

-- Everything is accepted up to the working directory, which is there but empty.
def WorkingDirectoryEmpty (status : ProgramStatus)
    (executableId argumentsId environmentId workingDirectoryId : ObjectID) (store : Store) : Prop :=
  status.purged = false ∧ ∃ executable arguments environment workingDirectory,
    inventoryGetObject [.string] executableId store = .ok executable ∧
    store.isEmptyString executable = false ∧
    inventoryGetObject [.list] argumentsId store = .ok arguments ∧
    listEnsureItemType arguments .string store = .success ∧
    inventoryGetObject [.list] environmentId store = .ok environment ∧
    listEnsureItemType environment .string store = .success ∧
    inventoryGetObject [.string] workingDirectoryId store = .ok workingDirectory ∧
    store.isEmptyString workingDirectory = true

theorem stringGetAcquiredAndLocked_ok {id : ObjectID} {string : ObjectRef}
    (h : inventoryGetObject [.string] id store = .ok string) :
    stringGetAcquiredAndLocked id store = (.ok string, (lockedHold string).acquire store) := by
  simp only [stringGetAcquiredAndLocked, h]

theorem listGetAcquiredAndLocked_ok {id : ObjectID} {type : ObjectType} {list : ObjectRef}
    (h : inventoryGetObject [.list] id store = .ok list)
    (hitems : listEnsureItemType list type store = .success) :
    listGetAcquiredAndLocked id type store = (.ok list, (lockedHold list).acquire store) := by
  simp only [listGetAcquiredAndLocked, h, hitems]

theorem listGetAcquiredAndLocked_eq_ok {id : ObjectID} {type : ObjectType} {list : ObjectRef}
    (h : listGetAcquiredAndLocked id type store = (.ok list, other)) :
    inventoryGetObject [.list] id store = .ok list ∧
      listEnsureItemType list type store = .success := by
  unfold listGetAcquiredAndLocked at h
  cases hfound : inventoryGetObject [.list] id store with
  | error code =>
      rw [hfound] at h
      cases h
  | ok found =>
      rw [hfound] at h
      simp only at h
      cases hitems : listEnsureItemType found type store with
      | success =>
          rw [hitems] at h
          cases h
          exact ⟨rfl, hitems⟩
      | _ =>
          rw [hitems] at h
          cases h

-- The reference to the working directory is left.
theorem Sound.programSetCommand_leak (h : Sound pool store)
    (hp : store.payload program = some (.program p)) {status : ProgramStatus}
    (hempty : WorkingDirectoryEmpty status executableId argumentsId environmentId
      workingDirectoryId store) :
    ∃ workingDirectory last,
      programSetCommand array update status save program executableId argumentsId environmentId
        workingDirectoryId store = (.error .invalidParameter, last) ∧
      last.Accounted ownHolds (lockedHold workingDirectory :: pool) := by
  obtain ⟨hpurged, executable, arguments, environment, workingDirectory, hexecutable, hnonempty,
    harguments, hargumentItems, henvironment, henvironmentItems, hworkingDirectory, hempty⟩ := hempty
  have hsame₁ := Store.SameShape.acquire store (lockedHold executable)
  have hsame₂ := hsame₁.trans (.acquire _ (lockedHold arguments))
  have hsame₃ := hsame₂.trans (.acquire _ (lockedHold environment))
  have hlive : ∀ {types id object} {other : Store}, inventoryGetObject types id store = .ok object →
      store.SameShape other → other.objects.get object ≠ none := by
    intro types id object other hfound hsame
    obtain ⟨o, ho, -⟩ := h.found hfound
    obtain ⟨o', ho', -⟩ := hsame.get_eq ho
    simp [ho']
  have haccounted := (((h.holding.accounted.acquire (lockedHold executable)
    (hlive hexecutable (.refl store))).acquire (lockedHold arguments)
    (hlive harguments hsame₁)).acquire (lockedHold environment)
    (hlive henvironment hsame₂)).acquire (lockedHold workingDirectory)
    (hlive hworkingDirectory hsame₃)
  -- the environment, the arguments and the executable are given back
  have hperm : ∀ a b c d : Hold, (d :: c :: b :: a :: pool).Perm (c :: b :: a :: d :: pool) := by
    intro a b c d
    refine List.perm_iff_count.mpr fun hold => ?_
    simp only [List.count_cons]
    omega
  refine ⟨workingDirectory, _, ?_, @Store.Accounted.releaseAll array (lockedHold workingDirectory ::
    pool) [lockedHold environment, lockedHold arguments, lockedHold executable] _
    (haccounted.perm (hperm _ _ _ _))⟩
  have hstring := stringGetAcquiredAndLocked_ok ((hsame₃.inventoryGetObject _ _).trans
    hworkingDirectory)
  have hlist₂ := listGetAcquiredAndLocked_ok ((hsame₂.inventoryGetObject _ _).trans henvironment)
    ((hsame₂.listEnsureItemType _ _).trans henvironmentItems)
  have hlist₁ := listGetAcquiredAndLocked_ok ((hsame₁.inventoryGetObject _ _).trans harguments)
    ((hsame₁.listEnsureItemType _ _).trans hargumentItems)
  have hempty₄ := ((hsame₃.trans (.acquire _ (lockedHold workingDirectory))).isEmptyString
    workingDirectory).trans hempty
  have hnonempty₁ := (hsame₁.isEmptyString executable).trans hnonempty
  simp only [programSetCommand, hp, hpurged, stringGetAcquiredAndLocked_ok hexecutable, acquiring,
    hnonempty₁, hlist₁, hlist₂, hstring, hempty₄, if_true, Bool.false_eq_true, if_false,
    Hold.cleanup]
  simp only [releaseAll, List.foldl_cons, List.foldl_nil, lockedHold]

theorem Sound.programSetCommand_iff (h : Sound pool store)
    (hp : store.payload program = some (.program p)) (status : ProgramStatus) :
    SetterExact update store (programSetCommand array update status save program executableId
        argumentsId environmentId workingDirectoryId store)
        (CommandReplaced pool program p executableId argumentsId environmentId workingDirectoryId
          store) ↔
      ¬ WorkingDirectoryEmpty status executableId argumentsId environmentId workingDirectoryId
        store := by
  constructor
  · intro hexact hempty
    obtain ⟨workingDirectory, last, hresult, haccounted⟩ :=
      @Sound.programSetCommand_leak array update save pool store program p executableId argumentsId
        environmentId workingDirectoryId h hp status hempty
    obtain ⟨-, hsame⟩ := hexact.unchanged .invalidParameter (by rw [hresult])
    rw [hresult] at hsame
    change last = store at hsame
    rw [hsame] at haccounted
    obtain ⟨o, ho, -⟩ := haccounted.count_pos
    have hmore := haccounted.locks _ o ho
    have hlocks := h.holding.accounted.locks _ o ho
    rw [Store.claims_cons] at hmore
    change o.lockCount = _ + if lockedHold workingDirectory = lockedHold workingDirectory then 1
      else 0 at hmore
    rw [if_pos rfl] at hmore
    omega
  · intro hnot
    unfold programSetCommand
    simp only [hp]
    by_cases hpurged : status.purged = true
    · rw [if_pos hpurged]
      exact ⟨.error store (by decide), fun hok => (nomatch hok)⟩
    rw [if_neg hpurged]
    refine ⟨?_, fun hok => ?_⟩
    · refine .acquiring h (h.stringGetAcquiredAndLocked _) fun executable hexecutable _ h₁ => ?_
      have hsame₁ := Store.SameShape.acquire store (lockedHold executable)
      split
      · exact .error _ (by decide)
      · rename_i hnonempty
        refine .acquiring h₁ (h₁.listGetAcquiredAndLocked _ _) fun arguments _ harguments h₂ => ?_
        have hsame₂ := hsame₁.trans (.acquire _ (lockedHold arguments))
        refine .acquiring h₂ (h₂.listGetAcquiredAndLocked _ _)
          fun environment _ henvironment h₃ => ?_
        have hsame₃ := hsame₂.trans (.acquire _ (lockedHold environment))
        rcases h₃.stringGetAcquiredAndLocked workingDirectoryId with
          ⟨code, hcode, hresult⟩ | ⟨workingDirectory, o, hfound, ho, hreferenced, hresult⟩
        · rw [hresult]
          exact .error _ hcode
        · rw [hresult]
          have hsame₄ := hsame₃.trans (.acquire _ (lockedHold workingDirectory))
          simp only
          split
          · rename_i hempty
            obtain ⟨harguments, hargumentItems⟩ := listGetAcquiredAndLocked_eq_ok harguments
            obtain ⟨henvironment, henvironmentItems⟩ :=
              listGetAcquiredAndLocked_eq_ok henvironment
            refine absurd ⟨Bool.eq_false_iff.mpr hpurged, executable, arguments, environment,
              workingDirectory, hexecutable, ?_, ?_, ?_, ?_, ?_, ?_, ?_⟩ hnot
            · exact (hsame₁.isEmptyString executable).symm.trans (Bool.eq_false_iff.mpr hnonempty)
            · exact (hsame₁.inventoryGetObject _ _).symm.trans harguments
            · exact (hsame₁.listEnsureItemType _ _).symm.trans hargumentItems
            · exact (hsame₂.inventoryGetObject _ _).symm.trans henvironment
            · exact (hsame₂.listEnsureItemType _ _).symm.trans henvironmentItems
            · exact (hsame₃.inventoryGetObject _ _).symm.trans hfound
            · exact (hsame₄.isEmptyString workingDirectory).symm.trans hempty
          · exact (programConfigReplace_unchanged ((hsame₄.payload program).trans hp)).cleanup ho
              hreferenced
    · obtain ⟨executable, hexecutable, h₁, hbody₁⟩ :=
        acquiring_eq_ok h (h.stringGetAcquiredAndLocked _) (Prod.ext hok rfl)
      have hsame₁ := Store.SameShape.acquire store (lockedHold executable)
      split at hbody₁
      · cases hbody₁
      obtain ⟨arguments, harguments, h₂, hbody₂⟩ :=
        acquiring_eq_ok h₁ (h₁.listGetAcquiredAndLocked _ _) hbody₁
      have hsame₂ := hsame₁.trans (.acquire _ (lockedHold arguments))
      obtain ⟨environment, henvironment, h₃, hbody₃⟩ :=
        acquiring_eq_ok h₂ (h₂.listGetAcquiredAndLocked _ _) hbody₂
      have hsame₃ := hsame₂.trans (.acquire _ (lockedHold environment))
      rcases h₃.stringGetAcquiredAndLocked workingDirectoryId with
        ⟨code, -, hresult⟩ | ⟨workingDirectory, o, hfound, ho, -, hresult⟩
      · rw [hresult] at hbody₃
        cases hbody₃
      · rw [hresult] at hbody₃
        simp only at hbody₃
        split at hbody₃
        · cases hbody₃
        have hsame₄ := hsame₃.trans (.acquire _ (lockedHold workingDirectory))
        have haccounted := h₃.holding.accounted.acquire (lockedHold workingDirectory)
          (by simp [lockedHold, ho])
        have hperm : ∀ a b c d : Hold, (d :: c :: b :: a :: pool).Perm ([a, b, c, d] ++ pool) := by
          intro a b c d
          refine List.perm_iff_count.mpr fun hold => ?_
          simp only [List.count_append, List.count_cons, List.count_nil]
          omega
        obtain ⟨last, hlast, hswapped⟩ := programConfigReplace_eq_ok h.holding.accounted
          (haccounted.perm (hperm _ _ _ _)) hsame₄ hp
          (p.config.command_perm executable arguments environment workingDirectory)
          (Hold.cleanup_eq_ok hbody₃)
        exact ⟨last, hlast, executable, arguments, environment, workingDirectory, hexecutable,
          (hsame₁.inventoryGetObject _ _).symm.trans harguments,
          (hsame₂.inventoryGetObject _ _).symm.trans henvironment,
          (hsame₃.inventoryGetObject _ _).symm.trans hfound, hswapped⟩

end Command

end Setters

section Runs

variable {pool : List Hold} {store : Store} {program : ObjectRef} {p : Program}

-- The setters change everything or nothing, except that program_set_command keeps the reference
-- to a working directory that is empty.
theorem program_setters_exact_iff (array : ArrayRemove) (update : Store → Store)
    (h : Relation.ReflTransGen (CleanStep array) ([], Store.init) (pool, store))
    (hp : store.payload program = some (.program p)) (status : ProgramStatus)
    (save : Option APIError) :
    (∀ executableId argumentsId environmentId workingDirectoryId,
      SetterExact update store (programSetCommand array update status save program executableId
          argumentsId environmentId workingDirectoryId store)
          (CommandReplaced pool program p executableId argumentsId environmentId
            workingDirectoryId store) ↔
        ¬ WorkingDirectoryEmpty status executableId argumentsId environmentId
          workingDirectoryId store) ∧
    (∀ stdinRedirection stdinFileNameId stdoutRedirection stdoutFileNameId stderrRedirection
        stderrFileNameId,
      SetterExact update store (programSetStdioRedirection array update status save program
        stdinRedirection stdinFileNameId stdoutRedirection stdoutFileNameId stderrRedirection
        stderrFileNameId store)
        (StdioReplaced pool program p stdinRedirection stdinFileNameId stdoutRedirection
          stdoutFileNameId stderrRedirection stderrFileNameId store)) ∧
    ∀ startMode continueAfterError startInterval startFieldsId,
      SetterExact update store (programSetSchedule array update status save program startMode
        continueAfterError startInterval startFieldsId store)
        (ScheduleReplaced pool program p startMode continueAfterError startInterval
          startFieldsId store) := by
  have hsound := sound_of_steps h
  refine ⟨fun _ _ _ _ => hsound.programSetCommand_iff hp status,
    hsound.programSetStdioRedirection hp status, hsound.programSetSchedule hp status⟩

-- A session, a string, a list and an empty string.
def textStore : Store :=
  ((((sessionCreate ⟨true, none, none, none⟩ 10 Store.init).2.createObject ⟨true, none⟩
    (.string ⟨Block.malloc (fun _ => 46) 2, 1, 2⟩) (some 0) OBJECT_CREATE_FLAG_EXTERNAL).2.createObject
    ⟨true, none⟩ (.list []) (some 0) OBJECT_CREATE_FLAG_EXTERNAL).2.createObject ⟨true, none⟩
    (.string ⟨Block.malloc (fun _ => 0) 1, 0, 1⟩) (some 0) OBJECT_CREATE_FLAG_EXTERNAL).2

theorem textStore_steps :
    Relation.ReflTransGen (CleanStep .byIndex) ([], Store.init) ([], textStore) :=
  (((Relation.ReflTransGen.refl.tail
    ⟨.sessionCreate [] _ ⟨true, none, none, none⟩ 10, Store.entriesLive_of_cells rfl⟩).tail
    ⟨.created [] _ ⟨true, none⟩ (.string ⟨Block.malloc (fun _ => 46) 2, 1, 2⟩) (some 0)
      OBJECT_CREATE_FLAG_EXTERNAL 0 rfl nofun rfl, Store.entriesLive_of_cells rfl⟩).tail
    ⟨.created [] _ ⟨true, none⟩ (.list []) (some 0) OBJECT_CREATE_FLAG_EXTERNAL 1 rfl nofun rfl,
      Store.entriesLive_of_cells rfl⟩).tail
    ⟨.created [] _ ⟨true, none⟩ (.string ⟨Block.malloc (fun _ => 0) 1, 0, 1⟩) (some 0)
      OBJECT_CREATE_FLAG_EXTERNAL 2 rfl nofun rfl, Store.entriesLive_of_cells rfl⟩

-- All its strings and lists are the same.
def smallProgram : Program where
  identifier := 0
  rootDirectory := 0
  config := ⟨0, 1, 1, 0, .devNull, 0, .devNull, 0, .devNull, 0, .never, false, 1, 0, []⟩
  scheduler := ⟨none, none, none, none, 0, none, none⟩
  noneMessage := 0

def programStore : Store :=
  ((acquireAll smallProgram.holds.reverse textStore).createObject ⟨true, none⟩
    (.program smallProgram) (some 0) OBJECT_CREATE_FLAG_EXTERNAL).2

theorem programStore_steps :
    Relation.ReflTransGen (CleanStep .byIndex) ([], Store.init) ([], programStore) := by
  have hacquired := acquireAll_steps smallProgram.holds.reverse textStore_steps (by decide)
  rw [List.reverse_reverse] at hacquired
  exact hacquired.tail ⟨.created [] _ ⟨true, none⟩ (.program smallProgram) (some 0)
    OBJECT_CREATE_FLAG_EXTERNAL 3 rfl (by decide) rfl, Store.entriesLive_of_cells rfl⟩

set_option maxRecDepth 4000 in
theorem programStore_set_command :
    SetterExact id programStore (programSetCommand .byIndex id ⟨false, 0⟩ none 3 1 2 2 1 programStore)
      (CommandReplaced [] 3 smallProgram 1 2 2 1 programStore) := by
  refine ((program_setters_exact_iff .byIndex id programStore_steps rfl ⟨false, 0⟩ none).1 1 2 2
    1).mpr ?_
  rintro ⟨-, _, _, _, workingDirectory, -, -, -, -, -, -, hfound, hempty⟩
  have hsame : inventoryGetObject [.string] 1 programStore = .ok 0 := rfl
  rw [hsame] at hfound
  cases hfound
  cases hempty

-- The working directory is empty, its lock is left.
set_option maxRecDepth 4000 in
theorem set_command_keeps_lock :
    Relation.ReflTransGen (CleanStep .byIndex) ([], Store.init) ([], programStore) ∧
      (programSetCommand .byIndex id ⟨false, 0⟩ none 3 1 2 2 3 programStore).1 =
        .error .invalidParameter ∧
      (programStore.objects.get 2).map (·.lockCount) = some 0 ∧
      ((programSetCommand .byIndex id ⟨false, 0⟩ none 3 1 2 2 3 programStore).2.objects.get 2).map
        (·.lockCount) = some 1 :=
  ⟨programStore_steps, rfl, rfl, rfl⟩

end Runs

end RedApid
