import RedApid.Scheduler.Counts
import RedApid.Scheduler.Identity

namespace RedApid.Scheduling.World

open Memory

variable {w w' w'' : World} {p : ProgramRef} {outcomes : Outcomes}

-- A program that is not purged is there to stay.
def Stays (w w' : World) : Prop :=
  ∀ q program, w.programs.get q = some program → program.purged = false →
    ∃ program', w'.programs.get q = some program'

theorem Stays.of_programs (h : w'.programs = w.programs) : w.Stays w' :=
  fun _ program hget _ => ⟨program, by rw [h, hget]⟩

theorem Stays.trans (h : w.Stays w') (hkeeps : w.Keeps w') (h' : w'.Stays w'') : w.Stays w'' := by
  intro q program hget hpurged
  obtain ⟨program', hget'⟩ := h q program hget hpurged
  obtain ⟨other, hother, hsame⟩ := hkeeps q program' hget'
  rw [hget] at hother
  cases hother
  exact h' q program' hget' ((congrArg ProgramIdentity.purged hsame).trans hpurged)

section Functions

theorem modify_stays (p : ProgramRef) (f : Program → Program) (daemon : Daemon)
    (log : List Effect) : w.Stays { programs := w.programs.modify p f, daemon, log } := by
  intro q program hget _
  change ∃ program', (w.programs.modify p f).get q = some program'
  rw [Heap.get_modify, hget]
  split_ifs
  · exact ⟨_, rfl⟩
  · exact ⟨_, rfl⟩

theorem run_stays (p : ProgramRef) (f : Context → Context) (outcomes : Outcomes) :
    w.Stays (w.run p f outcomes).1 := by
  unfold run
  cases w.programs.get p with
  | none => exact .of_programs rfl
  | some program => exact modify_stays p _ _ _

theorem destroyUnreferenced_stays (f : Program → Program) (p : ProgramRef) (outcomes : Outcomes)
    (hf : ∀ program, w.programs.get p = some program → program.purged = false →
      (f program).internalReferenceCount ≠ 0) :
    w.Stays ((w.modifyProgram p f).destroyUnreferenced p outcomes) := by
  cases hp : w.programs.get p with
  | none =>
      have hsame : (w.modifyProgram p f).programs = w.programs := Heap.modify_of_none hp f
      have hunchanged : (w.modifyProgram p f).destroyUnreferenced p outcomes =
          w.modifyProgram p f := by
        unfold destroyUnreferenced
        rw [hsame, hp]
      rw [hunchanged]
      exact .of_programs hsame
  | some other =>
      intro q program hget hpurged
      have hmodified := modifyProgram_get hp f
      have hself := hmodified p
      rw [if_pos rfl] at hself
      rw [get_destroyUnreferenced hself, hmodified q]
      by_cases hq : q = p
      · rw [hq, hp] at hget
        have hsame : other = program := Option.some.inj hget
        rw [if_neg fun hboth => hf other hp (hsame ▸ hpurged) hboth.2.1, if_pos hq]
        exact ⟨_, rfl⟩
      · rw [if_neg fun hboth => hq hboth.1, if_neg hq]
        exact ⟨program, hget⟩

theorem Counted.positive (h : w.Counted) {program : Program} (hget : w.programs.get p = some program)
    (hpurged : program.purged = false) :
    program.internalReferenceCount = program.listed + 1 := by
  have hcount := h p program hget
  unfold Program.Counted at hcount
  rw [hpurged] at hcount
  exact hcount

theorem get_removeProgramInternalReference_other {program : Program}
    (hget : w.programs.get p = some program) (outcomes : Outcomes) {q : ProgramRef} (hq : q ≠ p) :
    (w.removeProgramInternalReference p outcomes).programs.get q = w.programs.get q := by
  unfold removeProgramInternalReference
  split_ifs
  · rfl
  · have hmodified := modifyProgram_get hget fun program =>
      { program with internalReferenceCount := program.internalReferenceCount - 1 }
    rw [get_destroyUnreferenced ((hmodified p).trans (if_pos rfl)), if_neg fun hboth => hq hboth.1]
    exact (hmodified q).trans (if_neg hq)

-- A client or a list gives its reference up.
theorem release_stays (h : w.Counted) (p : ProgramRef) (outcomes : Outcomes) :
    w.Stays (w.removeProgramExternalReference p outcomes) := by
  refine destroyUnreferenced_stays _ p outcomes fun program hget hpurged => ?_
  have hcount := h.positive hget hpurged
  change program.internalReferenceCount ≠ 0
  omega

theorem unlist_stays (h : w.Counted) {p : ProgramRef}
    (hlisted : (w.programs.get p).any (0 < ·.listed) = true) (outcomes : Outcomes) :
    w.Stays ((w.modifyProgram p fun program => { program with listed := program.listed - 1 })
      |>.removeProgramInternalReference p outcomes) := by
  have hmodified : w.Stays
      (w.modifyProgram p fun program => { program with listed := program.listed - 1 }) :=
    modify_stays p _ _ _
  unfold removeProgramInternalReference
  split_ifs
  · exact hmodified
  · refine hmodified.trans (modifyProgram_identity p fun _ => ?_)
      (destroyUnreferenced_stays _ p outcomes fun program hget hpurged => ?_)
    · rfl
    · obtain ⟨found, hfound, hpositive⟩ := (Option.any_eq_true _ _).mp hlisted
      have hlt := of_decide_eq_true hpositive
      rw [modifyProgram_get hfound, if_pos rfl] at hget
      cases hget
      have hcount := h.positive hfound hpurged
      change found.internalReferenceCount - 1 ≠ 0
      omega

end Functions

section Steps

-- What the functions of the schedulers leave of the programs.
structure Continues (w w' : World) : Prop where
  keeps : w.Keeps w'
  stays : w.Stays w'

theorem Continues.of_programs (h : w'.programs = w.programs) : w.Continues w' :=
  ⟨.of_programs h, .of_programs h⟩

theorem Continues.refl (w : World) : w.Continues w := .of_programs rfl

theorem Continues.trans (h : w.Continues w') (h' : w'.Continues w'') : w.Continues w'' :=
  ⟨h.keeps.trans h'.keeps, h.stays.trans h.keeps h'.stays⟩

theorem Continues.after (h : w'.Continues w'') (hsame : w'.programs = w.programs) :
    w.Continues w'' :=
  (of_programs hsame).trans h

theorem run_continues {f : Context → Context} (hf : ∀ c : Context, c.Keeps (f c)) (p : ProgramRef)
    (outcomes : Outcomes) : w.Continues (w.run p f outcomes).1 :=
  ⟨run_identity hf p outcomes, run_stays p f outcomes⟩

theorem runAll_continues {f : ProgramRef → Context → Context}
    (hf : ∀ p (c : Context), c.Keeps (f p c)) (ps : List ProgramRef) (outcomes : Outcomes)
    (w : World) : w.Continues (runAll f ps outcomes w) := by
  induction ps generalizing outcomes w with
  | nil => exact .refl w
  | cons p ps ih =>
      unfold runAll
      split_ifs
      · exact .refl w
      · exact (run_continues (hf p) p outcomes).trans (ih _ _)

theorem processHandleStateChange_continues (process : ProcessRef) (found : Process)
    (state : ProcessState) (exitCode : UInt8) :
    w.Continues (w.processHandleStateChange outcomes process found state exitCode) := by
  unfold processHandleStateChange
  extract_lets modified changed
  have hchanged : w.Continues changed := by
    dsimp only [changed]
    cases found.stateChanged with
    | none => exact .of_programs rfl
    | some p =>
        exact (run_continues (fun c => handleProcessStateChange_identity) p outcomes).after rfl
  split_ifs
  · exact hchanged.trans (.of_programs rfl)
  · exact hchanged

-- The requests that have to do with the directory of a program.
def Request.stores : Request → Bool
  | .programDefine _ _ _ _ | .programPurge _ _ _ | .programSetCommand _ _
  | .programSetStdioRedirection _ _ | .programSetSchedule _ _ | .programSetCustomOptions _ _ => true
  | _ => false

theorem handleRequest_continues {request : Request} (hplain : request.stores = false)
    (hstep : w.handleRequest outcomes request = some w') : w.Continues w' := by
  cases request with
  | programDefine | programPurge | programSetCommand | programSetStdioRedirection
  | programSetSchedule | programSetCustomOptions => cases hplain
  | programContinueSchedule p =>
      obtain ⟨-, ⟨⟩⟩ := Option.ite_none_right_eq_some.mp hstep
      exact run_continues (fun _ => @continue_identity p _) p outcomes
  | programStart p =>
      obtain ⟨-, ⟨⟩⟩ := Option.ite_none_right_eq_some.mp hstep
      exact run_continues (fun _ => @spawnProcess_identity p _) p outcomes
  | programGetLastSpawnedProcess p =>
      unfold handleRequest at hstep
      dsimp only at hstep
      cases hget : w.programs.get p with
      | none =>
          rw [hget] at hstep
          cases hstep
      | some program =>
          rw [hget] at hstep
          dsimp only at hstep
          split_ifs at hstep
          · cases hstep
            exact .refl w
          · cases hlast : program.scheduler.lastSpawnedProcess with
            | none =>
                rw [hlast] at hstep
                cases hstep
                exact .refl w
            | some process =>
                rw [hlast] at hstep
                cases hstep
                exact .of_programs rfl
  | addProgramReference p | listProgram p =>
      cases hstep
      exact ⟨modifyProgram_identity p fun _ => rfl, modify_stays p _ _ _⟩
  | addProcessReference process | listProcess process | processSpawn =>
      cases hstep
      exact .of_programs rfl

-- An event that is no such request. A program that is given up goes only if nobody counts on it.
theorem step_continues {event : Event}
    (hload : ∀ identifier rootDirectory file id creation,
      event ≠ .programLoad identifier rootDirectory file id creation)
    (hplain : ∀ request, event = .request request → request.stores = false)
    (hstep : w.step outcomes event = some w') : w.Keeps w' ∧ (w.Counted → w.Stays w') := by
  have hcontinues : w.Continues w' → w.Keeps w' ∧ (w.Counted → w.Stays w') :=
    fun h => ⟨h.keeps, fun _ => h.stays⟩
  cases event with
  | programLoad identifier rootDirectory file id creation => exact absurd rfl (hload _ _ _ _ _)
  | request request =>
      obtain ⟨-, hrequest⟩ := Option.ite_none_right_eq_some.mp hstep
      exact hcontinues (handleRequest_continues (hplain request rfl) hrequest)
  | releaseProgram p =>
      obtain ⟨-, ⟨⟩⟩ := Option.ite_none_right_eq_some.mp hstep
      refine ⟨Keeps.trans (modifyProgram_identity p fun _ => ?_)
        (destroyUnreferenced_identity p outcomes), fun h => release_stays h p outcomes⟩
      rfl
  | unlistProgram p =>
      obtain ⟨hlisted, ⟨⟩⟩ := Option.ite_none_right_eq_some.mp hstep
      refine ⟨Keeps.trans (modifyProgram_identity p fun _ => ?_)
        (removeProgramInternalReference_identity p outcomes), fun h => unlist_stays h hlisted outcomes⟩
      rfl
  | releaseProcess process =>
      obtain ⟨-, ⟨⟩⟩ := Option.ite_none_right_eq_some.mp hstep
      exact hcontinues (.of_programs (removeProcessExternalReference_programs process))
  | unlistProcess process =>
      obtain ⟨-, ⟨⟩⟩ := Option.ite_none_right_eq_some.mp hstep
      exact hcontinues (.of_programs rfl)
  | processStateChange process state exitCode =>
      cases hget : w.daemon.processes.get process with
      | none =>
          simp only [step, hget] at hstep
          cases hstep
      | some found =>
          simp only [step, hget] at hstep
          obtain ⟨-, ⟨⟩⟩ := Option.ite_none_right_eq_some.mp hstep
          exact hcontinues (processHandleStateChange_continues process found state exitCode)
  | timer p =>
      cases hget : w.programs.get p with
      | none =>
          simp only [step, hget] at hstep
          cases hstep
      | some program =>
          simp only [step, hget] at hstep
          obtain ⟨arming, -, rfl⟩ := Option.map_eq_some_iff.mp hstep
          refine hcontinues (Continues.trans
            ⟨replaceProgram_identity hget ?_ _ _, modify_stays p _ _ _⟩
            (run_continues (fun _ => @handleTimer_identity p _) p outcomes))
          rfl
  | cronNotification cookieMatches programId =>
      unfold step at hstep
      dsimp only at hstep
      split_ifs at hstep
      · cases hstep
        refine hcontinues ?_
        unfold cronHandleNotification
        cases w.daemon.entries.find? fun entry => entry.programId = programId with
        | none => exact .refl w
        | some entry => exact run_continues (fun _ => @handleCron_identity entry.notify _) _ outcomes
      · cases hstep
        exact hcontinues (.refl w)
  | observationTimer =>
      cases hobservation : w.daemon.observation with
      | none =>
          simp only [step, hobservation] at hstep
          cases hstep
      | some observation =>
          simp only [step, hobservation] at hstep
          obtain ⟨-, ⟨⟩⟩ := Option.ite_none_right_eq_some.mp hstep
          refine hcontinues ?_
          unfold processMonitorUpdateObservation
          dsimp only
          generalize (if outcomes.searches.headD .notFound = .found then 0
            else observation.remainingTimeout - SEARCH_INTERVAL) = remainingTimeout
          split_ifs
          · exact (runAll_continues (fun p c => @informObserver_identity p c) _ _ _).after rfl
          · exact .of_programs rfl
  | brickdAccept =>
      unfold step at hstep
      dsimp only at hstep
      split_ifs at hstep
      cases hstep
      exact hcontinues ((runAll_continues (fun p c => @handleBrickdConnection_identity p c) _ _ _).after
        rfl)
  | brickdDisconnect =>
      cases hstep
      exact hcontinues (.of_programs rfl)

end Steps

end RedApid.Scheduling.World
