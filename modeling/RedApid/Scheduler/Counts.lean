import RedApid.Scheduler.Evolution

namespace RedApid.Scheduling

open Memory

variable {w w' : World} {p : ProgramRef} {program : Program} {c c' : Context}

section References

structure SameReferences (program program' : Program) : Prop where
  purged : program'.purged = program.purged
  internal : program'.internalReferenceCount = program.internalReferenceCount
  external : program'.externalReferenceCount = program.externalReferenceCount
  listed : program'.listed = program.listed

theorem SameReferences.refl (program : Program) : SameReferences program program :=
  ⟨rfl, rfl, rfl, rfl⟩

theorem Moves.sameReferences (h : Moves p c c') : SameReferences c.program c'.program := by
  rw [h.program]
  exact ⟨rfl, rfl, rfl, rfl⟩

theorem SetterCases.sameReferences {request : World.Request} {result : APIE × Context}
    (hcases : SetterCases request p c result) (h : c.Good p) (hlive : c.Live)
    (hconnected : c.daemon.brickdConnected = true) :
    SameReferences c.program result.2.program := by
  cases hcases with
  | kept code hquiet =>
      rw [hquiet.1]
      exact SameReferences.refl _
  | @saved c₁ config tryStart hquiet _ hsame =>
      obtain ⟨-, hdaemon, hlog⟩ := hquiet
      have hgood : Context.Good p { c₁ with program := { c.program with config } } := by
        change Base p _ c₁.daemon c₁.log
        rw [hdaemon, hlog]
        exact h.config config
      have hmoves := (update_moves hgood tryStart fun hneeded => by
        rcases hneeded with htry | ⟨-, hdisconnected⟩
        · obtain ⟨hmode, hinterval⟩ := hsame htry
          exact Live.congr hlive rfl hmode hinterval hdaemon
        · change c₁.daemon.brickdConnected = false at hdisconnected
          rw [hdaemon, hconnected] at hdisconnected
          cases hdisconnected).1
      have hreferences := hmoves.sameReferences
      exact ⟨hreferences.purged, hreferences.internal, hreferences.external, hreferences.listed⟩

end References

section Counted

-- The definition holds one internal reference until it is purged, all others are those of lists.
def Program.Counted (program : Program) : Prop :=
  program.internalReferenceCount = program.listed + if program.purged then 0 else 1

def World.Counted (w : World) : Prop :=
  ∀ p program, w.programs.get p = some program → program.Counted

theorem SameReferences.counted {program' : Program} (h : SameReferences program program')
    (hcounted : program.Counted) : program'.Counted := by
  unfold Program.Counted
  rw [h.internal, h.listed, h.purged]
  exact hcounted

theorem World.Counted.put (h : w.Counted) (hget : w.programs.get p = some program)
    (hcounted : c.program.Counted) : (w.put p c).Counted := by
  intro q other hother
  rcases World.get_put_some hget hother with ⟨rfl, rfl⟩ | ⟨-, hother⟩
  · exact hcounted
  · exact h q other hother

theorem World.Counted.modifyProgram (h : w.Counted) {f : Program → Program}
    (hf : ∀ program, w.programs.get p = some program → (f program).Counted) :
    (w.modifyProgram p f).Counted := by
  cases hget : w.programs.get p with
  | none =>
      have hsame : (w.modifyProgram p f).programs = w.programs := Heap.modify_of_none hget f
      intro q other hother
      rw [hsame] at hother
      exact h q other hother
  | some program =>
      rw [World.modifyProgram_eq hget f .succeed]
      exact h.put hget (hf program hget)

-- A function for one program, as long as it leaves the references to the program alone.
theorem World.Counted.run (h : w.Counted) {f : Context → Context} {outcomes : Outcomes}
    (hf : ∀ program, w.programs.get p = some program →
      SameReferences program (f (w.context program outcomes)).program) :
    (w.run p f outcomes).1.Counted := by
  cases hget : w.programs.get p with
  | none =>
      have hrun : w.run p f outcomes = (w.crash, outcomes) := by
        unfold World.run
        rw [hget]
      rw [hrun]
      exact h
  | some program =>
      rw [World.run_eq hget]
      exact h.put hget ((hf program hget).counted (h p program hget))

theorem World.Counted.runAll {f : ProgramRef → Context → Context}
    (hf : ∀ p c, c.Good p → c.Live → Moves p c (f p c) ∧ (f p c).Lives) (hinv : w.Inv)
    (h : w.Counted) (ps : List ProgramRef) (outcomes : Outcomes) :
    (World.runAll f ps outcomes w).Counted := by
  induction ps generalizing w outcomes with
  | nil => exact h
  | cons p ps ih =>
      unfold World.runAll
      by_cases hcrashed : w.daemon.crashed = true
      · rw [if_pos hcrashed]
        exact h
      rw [if_neg hcrashed]
      cases hget : w.programs.get p with
      | none =>
          have hrun : w.run p (f p) outcomes = (w.crash, outcomes) := by
            unfold World.run
            rw [hget]
          rw [hrun]
          exact ih hinv.core.crash h outcomes
      | some program =>
          have hlively := hinv.lively (by simpa using hcrashed) p program hget
          obtain ⟨hmoves, hlives⟩ := hf p (w.context program outcomes)
            (hinv.core.base p program hget) hlively
          rw [World.run_eq hget]
          exact ih (hinv.put hget hmoves.handled hlives)
            (h.put hget (hmoves.sameReferences.counted (h p program hget))) _

theorem World.Counted.destroyUnreferenced (h : w.Counted) (hcore : w.Core) (outcomes : Outcomes) :
    (w.destroyUnreferenced p outcomes).Counted := by
  rcases World.destroyUnreferenced_cases hcore p outcomes with
    hsame | ⟨program, hget, -, -, hremoved, -⟩
  · rw [hsame]
    exact h
  · rw [hremoved]
    intro q other hother
    exact h q other (World.get_remove_some hget hother).2

theorem World.Counted.createProgram (h : w.Counted) (hinv : w.Inv)
    (hcrashed : w.daemon.crashed = false) {id : ObjectID} (hfree : w.IsFreeId id)
    (identifier rootDirectory : CString) (config : ProgramSettings) (externalReferenceCount : Nat)
    (outcomes : Outcomes) :
    World.Counted
      (w.createProgram id identifier rootDirectory config externalReferenceCount outcomes) := by
  have hcreated : ∀ program : Program, program.id = id → program.Counted →
      program.scheduler = programSchedulerCreate program.config w.daemon →
      ((w.alloc program).run w.programs.next (programSchedulerUpdate w.programs.next true)
        outcomes).1.Counted := by
    rintro program rfl hcounted hscheduler
    have hinv' := hinv.alloc hfree hscheduler
    apply World.Counted.run
    · intro q other hother
      rcases World.get_alloc_some hother with ⟨-, rfl⟩ | ⟨-, hother⟩
      · exact hcounted
      · exact h q other hother
    · intro other hother
      have hgood : ((w.alloc program).context other outcomes).Good w.programs.next :=
        hinv'.core.base _ other hother
      exact (update_moves hgood true fun _ => hinv'.lively hcrashed _ other hother).1.sameReferences
  exact hcreated _ rfl rfl rfl

end Counted

section Purge

-- The directory is renamed within the attempts that are left, and the names of all attempts can be
-- formatted.
def Moved (attempts : Nat) (renames : List RenameResult) (formats : List (Option APIError)) :
    Prop :=
  ∃ k < attempts, renames.getD k .renamed = .renamed ∧
    ∀ i < k, renames.getD i .renamed = .exists ∧ formats.getD i none = none

theorem moved_succ {attempts : Nat} {renames : List RenameResult}
    {formats : List (Option APIError)} :
    Moved (attempts + 1) renames formats ↔ renames.headD .renamed = .renamed ∨
      renames.headD .renamed = .exists ∧ formats.headD none = none ∧
        Moved attempts renames.tail formats.tail := by
  have hrenames : ∀ k, renames.getD (k + 1) .renamed = renames.tail.getD k .renamed := by
    cases renames <;> simp
  have hformats : ∀ k, formats.getD (k + 1) none = formats.tail.getD k none := by
    cases formats <;> simp
  have hfirst : renames.getD 0 .renamed = renames.headD .renamed := by cases renames <;> rfl
  have hformat : formats.getD 0 none = formats.headD none := by cases formats <;> rfl
  constructor
  · rintro ⟨k, hk, hrenamed, hbefore⟩
    cases k with
    | zero => exact Or.inl (hfirst ▸ hrenamed)
    | succ k =>
        have hzero := hbefore 0 (by omega)
        rw [hfirst, hformat] at hzero
        refine Or.inr ⟨hzero.1, hzero.2, k, by omega, ?_, fun i hi => ?_⟩
        · rw [← hrenames]
          exact hrenamed
        · rw [← hrenames, ← hformats]
          exact hbefore (i + 1) (by omega)
  · rintro (hrenamed | ⟨hexists, hformatted, k, hk, hrenamed, hbefore⟩)
    · exact ⟨0, by omega, hfirst ▸ hrenamed, fun i hi => absurd hi (by omega)⟩
    · refine ⟨k + 1, by omega, ?_, fun i hi => ?_⟩
      · rw [hrenames]
        exact hrenamed
      · cases i with
        | zero => exact ⟨hfirst ▸ hexists, hformat ▸ hformatted⟩
        | succ i =>
            rw [hrenames, hformats]
            exact hbefore i (by omega)

-- A purge that does not move the directory changes nothing but the outcomes that are left.
theorem purgeAttempts_cases (attempts : Nat) (renames : List RenameResult) :
    (Moved attempts renames c.outcomes.calls ∧
        (purgeAttempts attempts renames c).1 = .success ∧
        (purgeAttempts attempts renames c).2.program = { c.program with purged := true } ∧
        (purgeAttempts attempts renames c).2.daemon = c.daemon ∧
        (purgeAttempts attempts renames c).2.log = c.log) ∨
      (¬Moved attempts renames c.outcomes.calls ∧
        (purgeAttempts attempts renames c).1 ≠ .success ∧
        Quiet c (purgeAttempts attempts renames c).2) := by
  induction attempts generalizing renames c with
  | zero =>
      refine Or.inr ⟨?_, nofun, rfl, rfl, rfl⟩
      rintro ⟨k, hk, -⟩
      omega
  | succ attempts ih =>
      rw [moved_succ]
      unfold purgeAttempts
      cases renames.headD .renamed with
      | renamed => exact Or.inl ⟨Or.inl rfl, rfl, rfl, rfl, rfl⟩
      | failed code => exact Or.inr ⟨by simp, code.property, rfl, rfl, rfl⟩
      | «exists» =>
          have hcall : c.call = (c.outcomes.calls.headD none, c.call.2) := rfl
          have hcalls : c.call.2.outcomes.calls = c.outcomes.calls.tail := rfl
          rw [hcall]
          cases c.outcomes.calls.headD none with
          | some code => exact Or.inr ⟨by simp, code.property, rfl, rfl, rfl⟩
          | none =>
              have hmoved : ((RenameResult.exists = .renamed) ∨ RenameResult.exists = .exists ∧
                  (none : Option APIError) = none ∧
                    Moved attempts renames.tail c.outcomes.calls.tail) ↔
                  Moved attempts renames.tail c.outcomes.calls.tail := by simp
              rw [hmoved, ← hcalls]
              exact @ih c.call.2 renames.tail

-- The calls that are left behind the shutdown. The message for a timer that cannot be stopped
-- takes one of them.
def callsBehindShutdown (c : Context) : List (Option APIError) :=
  if c.program.scheduler.timerActive ∧ c.outcomes.timerStops.headD none ≠ none then
    c.outcomes.calls.tail
  else c.outcomes.calls

theorem wrapMessage_calls (format : String) (code : Option APIError) :
    (wrapMessage format code c).2.outcomes.calls = c.outcomes.calls.tail := by
  unfold wrapMessage Context.call
  cases c.outcomes.calls.headD none <;> rfl

theorem setState_outcomes (state : ProgramSchedulerState) (message : Option MessageRef) :
    (programSchedulerSetState p state message c).outcomes = c.outcomes := by
  unfold programSchedulerSetState releaseOldMessage
  split_ifs
  · rfl
  · cases c.program.scheduler.message with
    | none => rfl
    | some old =>
        dsimp only
        split_ifs <;> rfl

theorem stop_calls (message : Option MessageRef) :
    (programSchedulerStop p message c).outcomes.calls = callsBehindShutdown c := by
  have hcron : ∀ c : Context, (stopCron c).outcomes = c.outcomes := by
    intro c
    unfold stopCron
    split_ifs <;> rfl
  unfold programSchedulerStop
  rw [setState_outcomes, hcron]
  unfold stopTimer callsBehindShutdown
  by_cases hactive : c.program.scheduler.timerActive = true
  · have hactive' : (programSchedulerAbortObserver p c).program.scheduler.timerActive = true :=
      hactive
    have hstop : (programSchedulerAbortObserver p c).timerStop =
        (c.outcomes.timerStops.headD none, (programSchedulerAbortObserver p c).timerStop.2) := rfl
    rw [if_pos hactive', hstop]
    cases c.outcomes.timerStops.headD none with
    | none => simp [hactive]; rfl
    | some code =>
        rw [if_pos ⟨hactive, nofun⟩]
        exact wrapMessage_calls _ _
  · have hactive' : ¬(programSchedulerAbortObserver p c).program.scheduler.timerActive = true :=
      hactive
    rw [if_neg hactive', if_neg fun hboth => hactive hboth.1]
    rfl

-- The checks in front of the shutdown.
def Purgeable (cookie : UInt32) (program : Program) : Prop :=
  program.purged = false ∧ cookie = purgeCookie program.identifier

-- What follows the shutdown succeeds.
def Movable (renames : List RenameResult) (c : Context) : Prop :=
  let calls := if c.program.scheduler.shutdown then c.outcomes.calls else callsBehindShutdown c
  calls.headD none = none ∧ Moved 1000 renames calls.tail

theorem shutdown_calls : (programSchedulerShutdown p c).outcomes.calls =
    if c.program.scheduler.shutdown then c.outcomes.calls else callsBehindShutdown c := by
  unfold programSchedulerShutdown
  split_ifs with hshutdown
  · rfl
  have hstop := @stop_calls p (c.setScheduler { c.program.scheduler with shutdown := true }) none
  dsimp only
  rw [← show callsBehindShutdown (c.setScheduler { c.program.scheduler with shutdown := true }) =
    callsBehindShutdown c from rfl, ← hstop]
  split
  · rfl
  · split_ifs <;> rfl

inductive PurgeCases (p : ProgramRef) (cookie : UInt32) (renames : List RenameResult)
    (c : Context) : APIE × Context → Prop
  | rejected (code : APIE) (failed : code ≠ .success) (refused : ¬Purgeable cookie c.program) :
      PurgeCases p cookie renames c (code, c)
  | failed {c' : Context} (code : APIE) (failed : code ≠ .success)
      (purgeable : Purgeable cookie c.program) (unmoved : ¬Movable renames c)
      (quiet : Quiet (programSchedulerShutdown p c) c') : PurgeCases p cookie renames c (code, c')
  | purged {c' : Context} (purgeable : Purgeable cookie c.program) (moved : Movable renames c)
      (program : c'.program = { (programSchedulerShutdown p c).program with purged := true })
      (daemon : c'.daemon = (programSchedulerShutdown p c).daemon)
      (log : c'.log = (programSchedulerShutdown p c).log) :
      PurgeCases p cookie renames c (.success, c')

theorem programPurge_cases (cookie : UInt32) (renames : List RenameResult) :
    PurgeCases p cookie renames c (programPurge p cookie renames c) := by
  unfold programPurge
  by_cases hpurged : c.program.purged = true
  · rw [if_pos hpurged]
    refine .rejected _ (by decide) fun hboth => ?_
    rw [hboth.1] at hpurged
    cases hpurged
  by_cases hcookie : cookie ≠ purgeCookie c.program.identifier
  · rw [if_neg hpurged, if_pos hcookie]
    exact .rejected _ (by decide) fun hboth => hcookie hboth.2
  rw [if_neg hpurged, if_neg hcookie]
  have hpurgeable : Purgeable cookie c.program := ⟨by simpa using hpurged, by simpa using hcookie⟩
  have hmovable : Movable renames c ↔
      (programSchedulerShutdown p c).outcomes.calls.headD none = none ∧
        Moved 1000 renames (programSchedulerShutdown p c).outcomes.calls.tail := by
    rw [shutdown_calls]
    exact Iff.rfl
  have hcall : (programSchedulerShutdown p c).call =
      ((programSchedulerShutdown p c).outcomes.calls.headD none,
        (programSchedulerShutdown p c).call.2) := rfl
  rw [hcall]
  cases hfirst : (programSchedulerShutdown p c).outcomes.calls.headD none with
  | some code =>
      refine .failed _ code.property hpurgeable (fun hmoved => ?_) call_quiet
      rw [(hmovable.mp hmoved).1] at hfirst
      cases hfirst
  | none =>
      rcases @purgeAttempts_cases (programSchedulerShutdown p c).call.2 1000 renames with
        ⟨hmoved, hcode, hprogram, hdaemon, hlog⟩ | ⟨hunmoved, hcode, hquiet⟩
      · dsimp only
        generalize purgeAttempts 1000 renames (programSchedulerShutdown p c).call.2 = result at *
        obtain ⟨code, c'⟩ := result
        cases hcode
        exact .purged hpurgeable (hmovable.mpr ⟨hfirst, hmoved⟩) hprogram hdaemon hlog
      · dsimp only
        generalize purgeAttempts 1000 renames (programSchedulerShutdown p c).call.2 = result at *
        obtain ⟨code, c'⟩ := result
        exact .failed _ hcode hpurgeable (fun hmoved => hunmoved (hmovable.mp hmoved).2)
          (call_quiet.trans hquiet)

theorem ShutDown.sameReferences (h : ShutDown p c c') : SameReferences c.program c'.program := by
  rw [h.program]
  exact ⟨rfl, rfl, rfl, rfl⟩

end Purge

section Steps

theorem World.modifyProgram_get (hget : w.programs.get p = some program) (f : Program → Program)
    (q : ProgramRef) :
    (w.modifyProgram p f).programs.get q =
      if q = p then some (f program) else w.programs.get q := by
  rw [World.modifyProgram_eq hget f .succeed, World.get_put hget]

theorem World.get_destroyUnreferenced (hget : w.programs.get p = some program) (outcomes : Outcomes)
    (q : ProgramRef) :
    (w.destroyUnreferenced p outcomes).programs.get q =
      if q = p ∧ program.internalReferenceCount = 0 ∧ program.externalReferenceCount = 0 then none
      else w.programs.get q := by
  unfold World.destroyUnreferenced
  rw [hget]
  by_cases hcounts : program.internalReferenceCount = 0 ∧ program.externalReferenceCount = 0
  · simp only [World.run_eq hget, hcounts, and_true]
    change ((w.put p _).programs.free p).get q = _
    rw [Heap.get_free]
    by_cases hq : q = p
    · rw [if_pos hq, if_pos hq]
    · rw [if_neg hq, if_neg hq, World.get_put hget, if_neg hq]
  · simp only [if_neg hcounts]
    rw [if_neg fun hboth => hcounts hboth.2]

-- The definition gives its reference up.
theorem World.get_removeProgramInternalReference {n : Nat}
    (hget : w.programs.get p = some program) (hcount : program.internalReferenceCount = n + 1)
    (outcomes : Outcomes) (q : ProgramRef) :
    (w.removeProgramInternalReference p outcomes).programs.get q =
      if q = p then
        if n = 0 ∧ program.externalReferenceCount = 0 then none
        else some { program with internalReferenceCount := n }
      else w.programs.get q := by
  have hnonzero : ¬(w.programs.get p).any (·.internalReferenceCount = 0) = true := by
    rw [hget]
    simp [hcount]
  have hget' := World.modifyProgram_get hget (fun program =>
    { program with internalReferenceCount := program.internalReferenceCount - 1 })
  have hself := hget' p
  rw [if_pos rfl] at hself
  unfold World.removeProgramInternalReference
  rw [if_neg hnonzero, World.get_destroyUnreferenced hself, hget' q]
  by_cases hq : q = p
  · rw [if_pos hq, if_pos hq]
    simp [hq, hcount]
  · rw [if_neg hq, if_neg hq, if_neg fun hboth => hq hboth.1]

theorem World.Counted.programPurge (h : w.Counted) (hinv : w.Inv) (p : ProgramRef)
    (cookie : UInt32) (renames : List RenameResult) (outcomes : Outcomes) :
    (w.programPurge outcomes p cookie renames).Counted := by
  cases hget : w.programs.get p with
  | none =>
      unfold World.programPurge
      rw [hget]
      exact h
  | some program =>
      have hgood : (w.context program outcomes).Good p := hinv.core.base p program hget
      have hcounted := h p program hget
      have hshutdown := (shutdown_shutDown hgood).sameReferences
      have hcases := programPurge_cases (p := p) (c := w.context program outcomes) cookie renames
      rw [World.programPurge_eq hget]
      generalize Scheduling.programPurge p cookie renames (w.context program outcomes) = result
        at hcases
      cases hcases with
      | rejected code hfailed _ =>
          rw [if_neg hfailed]
          exact h.put hget hcounted
      | failed code hfailed _ _ hquiet =>
          rw [if_neg hfailed]
          apply h.put hget
          rw [hquiet.1]
          exact hshutdown.counted hcounted
      | @purged c' hpurgeable _ hprogram _ _ =>
          rw [if_pos rfl]
          have hself : (w.put p c').programs.get p = some c'.program :=
            (World.get_put hget c' p).trans (if_pos rfl)
          have hcount : c'.program.internalReferenceCount = program.listed + 1 := by
            rw [hprogram]
            change (programSchedulerShutdown p _).program.internalReferenceCount = _
            rw [hshutdown.internal]
            have hunpurged : program.purged = false := hpurgeable.1
            unfold Program.Counted at hcounted
            rw [hunpurged] at hcounted
            exact hcounted
          intro q other hother
          dsimp only at hother
          rw [World.get_removeProgramInternalReference hself hcount] at hother
          by_cases hq : q = p
          · rw [if_pos hq] at hother
            split_ifs at hother
            cases hother
            change program.listed = c'.program.listed + if c'.program.purged then 0 else 1
            rw [hprogram]
            change program.listed = (programSchedulerShutdown p _).program.listed + 0
            rw [hshutdown.listed]
            rfl
          · rw [if_neg hq, World.get_put hget, if_neg hq] at hother
            exact h q other hother

theorem World.Counted.handleRequest (h : w.Counted) (hinv : w.Inv)
    (hcrashed : w.daemon.crashed = false) (hconnected : w.daemon.brickdConnected = true)
    {outcomes : Outcomes} {request : World.Request}
    (hstep : w.handleRequest outcomes request = some w') : w'.Counted := by
  have hsetter : ∀ {p : ProgramRef} {f : Context → APIE × Context},
      (∀ c, SetterCases request p c (f c)) →
      (w.run p (fun c => (f c).2) outcomes).1.Counted := by
    intro p f hf
    apply h.run
    intro program hget
    exact (hf (w.context program outcomes)).sameReferences (hinv.core.base p program hget)
      (hinv.lively hcrashed p program hget) hconnected
  cases request with
  | programDefine programsDirectory identifier id creation =>
      obtain ⟨hfree, ⟨⟩⟩ := Option.ite_none_right_eq_some.mp hstep
      unfold World.programDefine
      split_ifs
      · exact h.createProgram hinv hcrashed hfree _ _ _ _ _
      · exact h
  | programPurge p cookie renames =>
      obtain ⟨-, ⟨⟩⟩ := Option.ite_none_right_eq_some.mp hstep
      exact h.programPurge hinv p cookie renames outcomes
  | programSetCommand p command =>
      obtain ⟨-, ⟨⟩⟩ := Option.ite_none_right_eq_some.mp hstep
      exact hsetter fun _ => programSetCommand_cases command
  | programSetStdioRedirection p redirections =>
      obtain ⟨-, ⟨⟩⟩ := Option.ite_none_right_eq_some.mp hstep
      exact hsetter fun _ => programSetStdioRedirection_cases redirections
  | programSetSchedule p schedule =>
      obtain ⟨-, ⟨⟩⟩ := Option.ite_none_right_eq_some.mp hstep
      exact hsetter fun _ => programSetSchedule_cases schedule
  | programSetCustomOptions p customOptions =>
      cases hstep
      exact h.modifyProgram fun program hget => h p program hget
  | programContinueSchedule p =>
      obtain ⟨-, ⟨⟩⟩ := Option.ite_none_right_eq_some.mp hstep
      apply h.run
      intro program hget
      have hgood : (w.context program outcomes).Good p := hinv.core.base p program hget
      exact (continue_moves hgood (hinv.lively hcrashed p program hget)).1.sameReferences
  | programStart p =>
      obtain ⟨-, ⟨⟩⟩ := Option.ite_none_right_eq_some.mp hstep
      apply h.run
      intro program hget
      have hgood : (w.context program outcomes).Good p := hinv.core.base p program hget
      exact (spawnProcess_moves hgood).1.sameReferences
  | programGetLastSpawnedProcess p =>
      have hsame : w'.programs = w.programs := by
        unfold World.handleRequest at hstep
        dsimp only at hstep
        cases hget : w.programs.get p with
        | none =>
            rw [hget] at hstep
            cases hstep
        | some program =>
            rw [hget] at hstep
            dsimp only at hstep
            split_ifs at hstep
            · cases hstep
              rfl
            · cases hlast : program.scheduler.lastSpawnedProcess with
              | none =>
                  rw [hlast] at hstep
                  cases hstep
                  rfl
              | some q =>
                  rw [hlast] at hstep
                  cases hstep
                  rfl
      intro q other hother
      rw [hsame] at hother
      exact h q other hother
  | addProgramReference p =>
      cases hstep
      exact h.modifyProgram fun program hget => h p program hget
  | listProgram p =>
      cases hstep
      apply h.modifyProgram
      intro program hget
      have hcounted := h p program hget
      unfold Program.Counted at hcounted ⊢
      dsimp only
      omega
  | addProcessReference q =>
      cases hstep
      exact h
  | listProcess q =>
      cases hstep
      exact h
  | processSpawn =>
      cases hstep
      exact h

theorem World.Counted.processHandleStateChange (h : w.Counted) (hinv : w.Inv)
    (hcrashed : w.daemon.crashed = false) {q : ProcessRef} {found : Process}
    (hget : w.daemon.processes.get q = some found) (halive : found.state.isAlive = true)
    (state : ProcessState) (exitCode : UInt8) (outcomes : Outcomes) :
    (w.processHandleStateChange outcomes q found state exitCode).Counted := by
  have hcore := hinv.core.modifyAlive hget halive state exitCode
  have hdead : (w.modifyProcess q fun process => { process with state, exitCode }).Counted := h
  have hcalled : ∀ p, ((w.modifyProcess q fun process => { process with state, exitCode }).run p
      (programSchedulerHandleProcessStateChange p) outcomes).1.Counted := by
    intro p
    apply hdead.run
    intro program hprogram
    have hgood : ((w.modifyProcess q fun process => { process with state, exitCode }).context
        program outcomes).Good p := hcore.base p program hprogram
    exact (handleProcessStateChange_moves hgood fun halways =>
      (hinv.lively hcrashed p program hprogram).of_not_always halways _).1.sameReferences
  unfold World.processHandleStateChange
  dsimp only
  split_ifs
  · cases found.stateChanged with
    | none => exact hdead
    | some p => exact hcalled p
  · cases found.stateChanged with
    | none => exact hdead
    | some p => exact hcalled p

theorem World.Counted.step (h : w.Counted) (hinv : w.Inv) (hcrashed : w.daemon.crashed = false)
    {outcomes : Outcomes} {event : World.Event} (hstep : w.step outcomes event = some w') :
    w'.Counted := by
  cases event with
  | programLoad identifier rootDirectory file id creation =>
      obtain ⟨hfree, ⟨⟩⟩ := Option.ite_none_right_eq_some.mp hstep
      unfold World.programLoad
      split_ifs
      · exact h.createProgram hinv hcrashed hfree _ _ _ _ _
      · exact h
  | request request =>
      obtain ⟨hconnected, hrequest⟩ := Option.ite_none_right_eq_some.mp hstep
      exact h.handleRequest hinv hcrashed hconnected hrequest
  | releaseProgram p =>
      obtain ⟨-, ⟨⟩⟩ := Option.ite_none_right_eq_some.mp hstep
      have hunnoticed : Unnoticed fun program =>
          { program with externalReferenceCount := program.externalReferenceCount - 1 } :=
        ⟨fun _ => rfl, fun _ => rfl, fun _ => ⟨_, rfl⟩, fun _ => rfl⟩
      have hcounted : World.Counted (w.modifyProgram p fun program =>
          { program with externalReferenceCount := program.externalReferenceCount - 1 }) :=
        h.modifyProgram fun program hget => h p program hget
      exact hcounted.destroyUnreferenced (hinv.modifyProgram hunnoticed p).core outcomes
  | unlistProgram p =>
      obtain ⟨hlisted, ⟨⟩⟩ := Option.ite_none_right_eq_some.mp hstep
      obtain ⟨program, hget, hpositive⟩ := (Option.any_eq_true _ _).mp hlisted
      have hlisted' : 0 < program.listed := of_decide_eq_true hpositive
      have hcounted := h p program hget
      have hget' := World.modifyProgram_get hget (fun program : Program =>
        { program with listed := program.listed - 1 })
      have hself := hget' p
      rw [if_pos rfl] at hself
      unfold Program.Counted at hcounted
      intro q other hother
      rw [World.get_removeProgramInternalReference
        (n := program.listed - 1 + if program.purged then 0 else 1) hself
        (by dsimp only; omega), hget' q] at hother
      by_cases hq : q = p
      · rw [if_pos hq] at hother
        obtain ⟨-, hsome⟩ := Option.ite_none_left_eq_some.mp hother
        cases hsome
        exact rfl
      · rw [if_neg hq, if_neg hq] at hother
        exact h q other hother
  | releaseProcess q =>
      obtain ⟨-, ⟨⟩⟩ := Option.ite_none_right_eq_some.mp hstep
      have hsame : (w.removeProcessExternalReference q).programs = w.programs := by
        unfold World.removeProcessExternalReference
        cases w.daemon.processes.get q with
        | none => rfl
        | some found =>
            dsimp only
            split_ifs <;> rfl
      intro r other hother
      rw [hsame] at hother
      exact h r other hother
  | unlistProcess q =>
      obtain ⟨-, ⟨⟩⟩ := Option.ite_none_right_eq_some.mp hstep
      exact h
  | processStateChange q state exitCode =>
      cases hget : w.daemon.processes.get q with
      | none =>
          simp only [World.step, hget] at hstep
          cases hstep
      | some found =>
          simp only [World.step, hget] at hstep
          obtain ⟨halive, ⟨⟩⟩ := Option.ite_none_right_eq_some.mp hstep
          exact h.processHandleStateChange hinv hcrashed hget halive state exitCode outcomes
  | timer p =>
      cases hget : w.programs.get p with
      | none =>
          simp only [World.step, hget] at hstep
          cases hstep
      | some program =>
          simp only [World.step, hget] at hstep
          obtain ⟨arming, harming, rfl⟩ := Option.map_eq_some_iff.mp hstep
          have hexpired := Program.expired_handled (hinv.core.base p program hget) harming outcomes
          have hcore := hinv.core.put hget hexpired
          rw [World.handleTimer_eq hget]
          apply World.Counted.run
          · exact h.put hget (h p program hget)
          · intro other hother
            have hsame := (World.get_put hget (w.context (program.expired arming) outcomes) p)
            rw [if_pos rfl] at hsame
            rw [hsame] at hother
            cases hother
            have hgood : ((w.put p (w.context (program.expired arming) outcomes)).context
                (program.expired arming) outcomes).Good p := hcore.base p _ hsame
            exact (handleTimer_moves hgood fun halways => Program.expired_live
              (hinv.lively hcrashed p program hget) harming halways).1.sameReferences
  | cronNotification cookieMatches programId =>
      unfold World.step at hstep
      dsimp only at hstep
      split_ifs at hstep with hmatches
      · cases hstep
        unfold World.cronHandleNotification
        cases hfind : w.daemon.entries.find? fun entry => entry.programId = programId with
        | none => exact h
        | some entry =>
            apply h.run
            intro program hget
            have hgood : (w.context program outcomes).Good entry.notify :=
              hinv.core.base _ program hget
            exact (handleCron_moves hgood
              (hinv.lively hcrashed _ program hget)).1.sameReferences
      · cases hstep
        exact h
  | observationTimer =>
      cases hobservation : w.daemon.observation with
      | none =>
          simp only [World.step, hobservation] at hstep
          cases hstep
      | some observation =>
          simp only [World.step, hobservation] at hstep
          obtain ⟨-, ⟨⟩⟩ := Option.ite_none_right_eq_some.mp hstep
          unfold World.processMonitorUpdateObservation
          dsimp only
          generalize (if outcomes.searches.headD .notFound = .found then 0
            else observation.remainingTimeout - World.SEARCH_INTERVAL) = remainingTimeout
          by_cases hzero : remainingTimeout = 0
          · rw [if_pos hzero]
            apply World.Counted.runAll
            · exact fun p c hgood hlive => informObserver_moves hgood hlive
            · exact hinv.observed hobservation rfl
            · exact h
          · rw [if_neg hzero]
            exact h
  | brickdAccept =>
      unfold World.step at hstep
      dsimp only at hstep
      split_ifs at hstep
      cases hstep
      apply World.Counted.runAll
      · intro p c hgood hlive
        unfold World.handleBrickdConnection
        split_ifs
        · exact update_moves hgood true fun _ => hlive
        · exact ⟨Moves.refl hgood, fun _ => hlive⟩
      · exact hinv.connected true
      · exact h
  | brickdDisconnect =>
      cases hstep
      exact h

theorem World.counted_of_run {x11Enabled : Bool} {events : List (World.Event × Outcomes)}
    (hrun : Trace.run World.next (World.init x11Enabled) events = some w) : w.Counted := by
  have hboth := Trace.of_run (I := fun w => w.Inv ∧ w.Counted) (fun w event w' h hnext => by
    obtain ⟨hcrashed, hstep⟩ := World.next_step hnext
    exact ⟨h.1.next hnext, h.2.step h.1 hcrashed hstep⟩)
    ⟨World.init_inv x11Enabled, fun p program hget => nomatch hget⟩ hrun
  exact hboth.2

end Steps

end RedApid.Scheduling
