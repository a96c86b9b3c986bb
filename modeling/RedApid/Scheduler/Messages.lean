import RedApid.Scheduler.Parts

namespace RedApid.Scheduling

open Memory

variable {p : ProgramRef} {c c' : Context} {log log' : List Effect} {m : MessageRef}

section Log

-- The effect at a place of the log, counted from the first one.
def effectAt : List Effect → Nat → Option Effect
  | [], _ => none
  | effect :: log, n => if log.length = n then some effect else effectAt log n

theorem effectAt_of_length_le {n : Nat} (h : log.length ≤ n) : effectAt log n = none := by
  induction log with
  | nil => rfl
  | cons effect log ih =>
      rw [List.length_cons] at h
      rw [effectAt, if_neg (by omega), ih (by omega)]

theorem effectAt_grown {n : Nat} (h : log <:+ log') (hn : n < log.length) :
    effectAt log' n = effectAt log n := by
  obtain ⟨new, rfl⟩ := h
  induction new with
  | nil => rfl
  | cons effect new ih =>
      rw [List.cons_append, effectAt, if_neg, ih]
      rw [List.length_append]
      omega

-- A String that program_scheduler_handle_error creates.
def Created (log : List Effect) (m : MessageRef) : Prop :=
  ∃ format code, effectAt log m = some (.wrapMessage format code)

-- The one that nobody gets to see.
def Stray (log : List Effect) (m : MessageRef) : Prop :=
  ∃ code, effectAt log m = some (.wrapMessage "Could not stop timer: %s (%d)" code)

def Effect.issues : Effect → Bool
  | .wrapMessage format _ => format ≠ "Could not stop timer: %s (%d)"
  | _ => false

def issued (m : MessageRef) (log : List Effect) : Nat :=
  if (effectAt log m).any (·.issues) then 1 else 0

def releases (m : MessageRef) (log : List Effect) : Nat := log.count (.releaseMessage m)

theorem issued_cons (effect : Effect) : issued m (effect :: log) =
    issued m log + if log.length = m ∧ effect.issues then 1 else 0 := by
  unfold issued
  rw [effectAt]
  by_cases hm : log.length = m
  · have hnone : effectAt log m = none := effectAt_of_length_le (by omega)
    simp [hm, hnone]
  · simp [hm]

theorem releases_cons_of_ne {effect : Effect} (h : effect ≠ .releaseMessage m) :
    releases m (effect :: log) = releases m log := List.count_cons_of_ne h

-- What is not about messages does not matter.
theorem same_of_silent {new : List Effect} (h : ∀ effect ∈ new, effect.aboutMessage = false) :
    issued m (new ++ log) = issued m log ∧ releases m (new ++ log) = releases m log := by
  induction new with
  | nil => exact ⟨rfl, rfl⟩
  | cons effect new ih =>
      obtain ⟨hissued, hreleases⟩ := ih fun other hother => h other (List.mem_cons_of_mem _ hother)
      have hsilent := h effect List.mem_cons_self
      rw [List.cons_append, issued_cons, hissued, releases_cons_of_ne, hreleases]
      · refine ⟨?_, rfl⟩
        rw [if_neg, Nat.add_zero]
        rintro ⟨-, hissues⟩
        cases effect <;> simp [Effect.issues, Effect.aboutMessage] at hissues hsilent
      · rintro rfl
        cases hsilent

theorem StopLog.same (h : StopLog p log log') :
    issued m log' = issued m log ∧ releases m log' = releases m log := by
  cases h with
  | stopped => exact ⟨rfl, rfl⟩
  | failed =>
      rw [issued_cons, releases_cons_of_ne (by simp)]
      simp [Effect.issues]
  | stray code =>
      rw [issued_cons, issued_cons, releases_cons_of_ne (by simp), releases_cons_of_ne (by simp)]
      simp [Effect.issues]

end Log

section Balance

def Context.holds (c : Context) (m : MessageRef) : Nat :=
  if c.program.scheduler.message = some m then 1 else 0

-- The message was created before, and there is none while the scheduler is running.
structure Owing (c : Context) : Prop where
  known : ∀ m, c.program.scheduler.message = some m → m < c.log.length
  running : c.program.scheduler.state = .running → c.program.scheduler.message = none

-- What is created is held or has been released afterwards.
structure Settles (c c' : Context) : Prop where
  owing : Owing c'
  grown : c.log <:+ c'.log
  balance : ∀ m, c'.holds m + releases m c'.log + issued m c.log =
    c.holds m + releases m c.log + issued m c'.log

theorem Settles.refl (h : Owing c) : Settles c c := ⟨h, List.suffix_rfl, fun _ => rfl⟩

theorem Settles.trans {c'' : Context} (h : Settles c c') (h' : Settles c' c'') : Settles c c'' where
  owing := h'.owing
  grown := h.grown.trans h'.grown
  balance m := by
    have hfirst := h.balance m
    have hsecond := h'.balance m
    omega

theorem releases_record_release (old : MessageRef) :
    releases m (c.record (.releaseMessage old)).log =
      releases m c.log + if old = m then 1 else 0 := by
  change releases m (.releaseMessage old :: c.log) = _
  unfold releases
  rw [List.count_cons]
  simp

-- The new message is going to be held, the old one is released unless it is the same.
theorem releaseOldMessage_balance (message : Option MessageRef) :
    (if message = some m then 1 else 0) + releases m (releaseOldMessage message c).log =
        c.holds m + releases m c.log +
          (if message = some m ∧ c.program.scheduler.message ≠ some m then 1 else 0) ∧
      issued m (releaseOldMessage message c).log = issued m c.log := by
  unfold releaseOldMessage Context.holds
  cases hmessage : c.program.scheduler.message with
  | none =>
      simp only [reduceCtorEq, if_false, ne_eq, not_false_eq_true, and_true]
      omega
  | some old =>
      dsimp only
      by_cases hsame : some old = message
      · subst hsame
        simp
      · rw [if_pos hsame, releases_record_release]
        refine ⟨?_, ?_⟩
        · by_cases hold : old = m
          · subst hold
            have hne : message ≠ some old := fun heq => hsame heq.symm
            simp [hne]
            omega
          · simp [hold]
            omega
        · exact (issued_cons _).trans (by simp [Effect.issues])

theorem setState_balance (state : ProgramSchedulerState) (message : Option MessageRef) :
    (programSchedulerSetState p state message c).holds m +
        releases m (programSchedulerSetState p state message c).log =
        c.holds m + releases m c.log +
          (if message = some m ∧ c.program.scheduler.message ≠ some m then 1 else 0) ∧
      issued m (programSchedulerSetState p state message c).log = issued m c.log := by
  have hholds : (programSchedulerSetState p state message c).holds m =
      if message = some m then 1 else 0 := by rw [Context.holds, setState_program]
  rw [hholds]
  obtain ⟨hbalance, hissued⟩ := @releaseOldMessage_balance c m message
  unfold programSchedulerSetState
  by_cases hsame : c.program.scheduler.state = state ∧ c.program.scheduler.message = message
  · rw [if_pos hsame]
    refine ⟨?_, rfl⟩
    unfold Context.holds
    rw [hsame.2]
    simp
  · rw [if_neg hsame]
    have hchanged : issued m (.stateChanged p state :: (releaseOldMessage message c).log) =
        issued m (releaseOldMessage message c).log := by
      rw [issued_cons]
      simp [Effect.issues]
    exact ⟨hbalance, hchanged.trans hissued⟩

theorem stop_balance (message : Option MessageRef) :
    (programSchedulerStop p message c).holds m +
        releases m (programSchedulerStop p message c).log =
        c.holds m + releases m c.log +
          (if message = some m ∧ c.program.scheduler.message ≠ some m then 1 else 0) ∧
      issued m (programSchedulerStop p message c).log = issued m c.log := by
  have htriggers := @stopTriggers_triggerless p c
  obtain ⟨hissued, hreleases⟩ := @StopLog.same p _ _ m htriggers.log
  obtain ⟨hbalance, hissued'⟩ := @setState_balance p (stopTriggers p c) m .stopped message
  unfold Context.holds at hbalance ⊢
  rw [htriggers.message, hreleases] at hbalance
  rw [hissued] at hissued'
  exact ⟨hbalance, hissued'⟩

theorem stop_owing (message : Option MessageRef)
    (hknown : ∀ m, message = some m → m < c.log.length) : Owing (programSchedulerStop p message c) where
  known m h := by
    unfold programSchedulerStop at h
    rw [setState_program] at h
    exact (hknown m h).trans_le (stop_grown message).length_le
  running h := by
    have hstopped := @stop_state p c message
    rw [h] at hstopped
    cases hstopped

-- Nothing else is given to program_scheduler_stop than a new message, the current one, or none.
theorem stop_settles {message : Option MessageRef} (h : Owing c)
    (hmessage : message = none ∨ message = c.program.scheduler.message) :
    Settles c (programSchedulerStop p message c) where
  owing := by
    refine stop_owing message fun m heq => ?_
    rcases hmessage with hnone | hsame
    · rw [hnone] at heq
      cases heq
    · exact h.known m (hsame ▸ heq)
  grown := stop_grown message
  balance m := by
    obtain ⟨hbalance, hissued⟩ := @stop_balance p c m message
    have hnew : ¬(message = some m ∧ c.program.scheduler.message ≠ some m) := by
      rcases hmessage with hnone | hsame
      · simp [hnone]
      · rw [hsame]
        exact fun hboth => hboth.2 hboth.1
    rw [if_neg hnew] at hbalance
    omega

theorem handleError_settles (h : Owing c) {format : String} (code : Option APIError)
    (hformat : format ≠ "Could not stop timer: %s (%d)") :
    Settles c (programSchedulerHandleError p format code c) := by
  have hcall : c.call = (c.outcomes.calls.headD none, c.call.2) := rfl
  unfold programSchedulerHandleError wrapMessage
  rw [hcall]
  cases c.outcomes.calls.headD none with
  | some _ =>
      have hstop := @stop_settles p c.call.2 none ⟨h.known, h.running⟩ (Or.inl rfl)
      exact ⟨hstop.owing, hstop.grown, hstop.balance⟩
  | none =>
      dsimp only
      have hgrown := @stop_grown p (c.call.2.record (.wrapMessage format code))
        (some c.call.2.log.length)
      refine ⟨stop_owing _ fun m heq => ?_, (List.suffix_cons _ _).trans hgrown, fun m => ?_⟩
      · cases heq
        exact Nat.lt_succ_self _
      · obtain ⟨hbalance, hissued⟩ := @stop_balance p (c.call.2.record (.wrapMessage format code)) m
          (some c.call.2.log.length)
        have hold : issued m (c.call.2.record (.wrapMessage format code)).log =
            issued m c.log + if c.log.length = m then 1 else 0 := by
          refine (issued_cons _).trans ?_
          simp [Effect.issues, hformat, Context.call]
        have hreleases : releases m (c.call.2.record (.wrapMessage format code)).log =
            releases m c.log := releases_cons_of_ne (by simp)
        have hholds : (c.call.2.record (.wrapMessage format code)).holds m = c.holds m := rfl
        have hnew : (some c.call.2.log.length = some m ∧
            (c.call.2.record (.wrapMessage format code)).program.scheduler.message ≠ some m) ↔
            c.log.length = m := by
          constructor
          · exact fun hboth => Option.some.inj hboth.1
          · intro heq
            refine ⟨congrArg some heq, fun hsame => ?_⟩
            exact absurd heq.symm (Nat.ne_of_lt (h.known m hsame))
        rw [if_congr hnew rfl rfl, hreleases, hholds] at hbalance
        rw [hissued, hold]
        omega

theorem Renamed.settles (hrenamed : Renamed c c') (h : Owing c) : Settles c c' := by
  refine ⟨⟨fun m heq => ?_, ?_⟩, by rw [hrenamed.log], fun m => ?_⟩
  · rw [hrenamed.message] at heq
    rw [hrenamed.log]
    exact h.known m heq
  · rw [hrenamed.state, hrenamed.message]
    exact h.running
  · unfold Context.holds
    rw [hrenamed.message, hrenamed.log]

theorem Part.settles (hpart : Part p c c') (h : Owing c) : Settles c c' := by
  cases hpart with
  | apart hapart =>
      obtain ⟨new, hlog, hnew⟩ := hapart.log
      refine ⟨⟨fun m heq => ?_, ?_⟩, ⟨new, hlog.symm⟩, fun m => ?_⟩
      · rw [hapart.message] at heq
        rw [hlog, List.length_append]
        exact (h.known m heq).trans_le (Nat.le_add_left _ _)
      · rw [hapart.state, hapart.message]
        exact h.running
      · obtain ⟨hissued, hreleases⟩ := @same_of_silent c.log m new hnew
        unfold Context.holds
        rw [hapart.message, hlog, hissued, hreleases]
  | error format code hreports => exact handleError_settles h code hreports.timer
  | stop => exact stop_settles h (Or.inl rfl)
  | keep => exact stop_settles h (Or.inr rfl)
  | start =>
      refine ⟨⟨fun m heq => ?_, fun _ => ?_⟩, setState_grown .running none, fun m => ?_⟩
      · rw [setState_program] at heq
        cases heq
      · rw [setState_program]
      · obtain ⟨hbalance, hissued⟩ := @setState_balance p c m .running none
        rw [if_neg fun hboth => nomatch hboth.1] at hbalance
        omega

theorem Parts.settles (hparts : Parts p c c') (h : Owing c) : Settles c c' := by
  induction hparts with
  | refl => exact .refl h
  | tail _ hpart ih => exact ih.trans (hpart.settles ih.owing)

end Balance

section World

variable {w w' : World} {event : World.Event}

-- 1 for a program whose scheduler holds the message.
def messageHold (m : MessageRef) (_ : ProgramRef) (program : Program) : Nat :=
  if program.scheduler.message = some m then 1 else 0

-- Every message that can be seen is held once or has been released once.
structure World.Settled (w : World) : Prop where
  owing : ∀ p program, w.programs.get p = some program → Owing (w.context program .succeed)
  balance : ∀ m, w.programs.total (messageHold m) + releases m w.log = issued m w.log

theorem World.Settled.owing_context (h : w.Settled) {program : Program}
    (hget : w.programs.get p = some program) (outcomes : Outcomes) :
    Owing (w.context program outcomes) := ⟨(h.owing p program hget).known, (h.owing p program hget).running⟩

theorem World.Settled.put (h : w.Settled) {program : Program}
    (hget : w.programs.get p = some program) {outcomes : Outcomes}
    (hsettles : Settles (w.context program outcomes) c) : (w.put p c).Settled where
  owing q other hother := by
    rcases World.get_put_some hget hother with ⟨rfl, rfl⟩ | ⟨-, hother⟩
    · exact ⟨hsettles.owing.known, hsettles.owing.running⟩
    · have hbefore := h.owing q other hother
      exact ⟨fun m heq => (hbefore.known m heq).trans_le hsettles.grown.length_le, hbefore.running⟩
  balance m := by
    have htotal := Heap.total_modify (messageHold m) hget fun _ => c.program
    have hbefore := h.balance m
    have hbalance := hsettles.balance m
    change (w.programs.modify p fun _ => c.program).total (messageHold m) + releases m c.log =
      issued m c.log
    change c.holds m + releases m c.log + issued m w.log =
      messageHold m p program + releases m w.log + issued m c.log at hbalance
    change _ + _ = _ + c.holds m at htotal
    omega

-- Changes behind which the log goes on without messages.
theorem World.Settled.silent (h : w.Settled) (hprograms : w'.programs = w.programs)
    {new : List Effect} (hlog : w'.log = new ++ w.log)
    (hnew : ∀ effect ∈ new, effect.aboutMessage = false) : w'.Settled where
  owing q other hother := by
    rw [hprograms] at hother
    have hbefore := h.owing q other hother
    refine ⟨fun m heq => (hbefore.known m heq).trans_le ?_, hbefore.running⟩
    change w.log.length ≤ w'.log.length
    rw [hlog, List.length_append]
    exact Nat.le_add_left _ _
  balance m := by
    obtain ⟨hissued, hreleases⟩ := @same_of_silent w.log m new hnew
    rw [hprograms, hlog, hissued, hreleases]
    exact h.balance m

theorem World.Settled.alloc (h : w.Settled) {program : Program}
    (hmessage : program.scheduler.message = none) : (w.alloc program).Settled where
  owing q other hother := by
    rcases World.get_alloc_some hother with ⟨-, rfl⟩ | ⟨-, hother⟩
    · refine ⟨fun m heq => ?_, fun _ => hmessage⟩
      rw [World.context, hmessage] at heq
      cases heq
    · have hbefore := h.owing q other hother
      exact ⟨hbefore.known, hbefore.running⟩
  balance m := by
    change (w.programs.alloc program).total (messageHold m) + releases m w.log = issued m w.log
    rw [Heap.total_alloc, messageHold, hmessage]
    exact h.balance m

-- The scheduler of a destroyed program gives its message back.
theorem destroy_balance (h : Owing c) :
    c.log <:+ (programSchedulerDestroy p c).log ∧
      ∀ m, releases m (programSchedulerDestroy p c).log + issued m c.log =
        c.holds m + releases m c.log + issued m (programSchedulerDestroy p c).log := by
  have hshutdown := (@shutdown_parts p c).settles h
  unfold programSchedulerDestroy
  generalize programSchedulerShutdown p c = c₁ at hshutdown
  obtain ⟨⟨files, hlog⟩, -⟩ := @releaseLastProcess_removed c₁
  have hsame := fun m => @same_of_silent c₁.log m _
    fun effect heffect => (releaseFiles_silent files effect heffect).1
  have hgrown : c.log <:+ (releaseLastProcess c₁).2 := by
    rw [hlog]
    exact hshutdown.grown.trans (List.suffix_append _ _)
  dsimp only
  rw [← hlog] at hsame
  cases hmessage : c₁.program.scheduler.message with
  | none =>
      refine ⟨hgrown, fun m => ?_⟩
      obtain ⟨hissued, hreleases⟩ := hsame m
      have hbalance := hshutdown.balance m
      rw [Context.holds, hmessage, if_neg (by simp)] at hbalance
      dsimp only
      omega
  | some message =>
      refine ⟨hgrown.trans (List.suffix_cons _ _), fun m => ?_⟩
      obtain ⟨hissued, hreleases⟩ := hsame m
      have hbalance := hshutdown.balance m
      have hrelease : releases m (.releaseMessage message :: (releaseLastProcess c₁).2) =
          releases m (releaseLastProcess c₁).2 + if some message = some m then 1 else 0 := by
        unfold releases
        rw [List.count_cons]
        simp
      have hissue : issued m (.releaseMessage message :: (releaseLastProcess c₁).2) =
          issued m (releaseLastProcess c₁).2 := by
        rw [issued_cons]
        simp [Effect.issues]
      rw [Context.holds, hmessage] at hbalance
      dsimp only
      omega

theorem World.Settled.remove (h : w.Settled) {program : Program}
    (hget : w.programs.get p = some program) {outcomes : Outcomes} {c : Context}
    (hgrown : w.log <:+ c.log)
    (hbalance : ∀ m, releases m c.log + issued m w.log =
      (w.context program outcomes).holds m + releases m w.log + issued m c.log) :
    (w.remove p c).Settled where
  owing q other hother := by
    obtain ⟨-, hother⟩ := World.get_remove_some hget hother
    have hbefore := h.owing q other hother
    exact ⟨fun m heq => (hbefore.known m heq).trans_le hgrown.length_le, hbefore.running⟩
  balance m := by
    have hmodified := Heap.total_modify (messageHold m) hget fun _ => c.program
    have hget' : (w.programs.modify p fun _ => c.program).get p = some c.program := by
      rw [Heap.get_modify_self, hget]
      rfl
    have hfreed := Heap.total_free (messageHold m) hget'
    have hbefore := h.balance m
    have hafter := hbalance m
    change ((w.programs.modify p fun _ => c.program).free p).total (messageHold m) +
      releases m c.log = issued m c.log
    change _ = messageHold m p program + releases m w.log + issued m c.log at hafter
    omega

-- The scheduler of the program has the same state and the same message.
theorem World.Settled.put_same (h : w.Settled) {program program' : Program}
    (hget : w.programs.get p = some program)
    (hscheduler : program'.scheduler.state = program.scheduler.state ∧
      program'.scheduler.message = program.scheduler.message) (outcomes : Outcomes) :
    (w.put p (w.context program' outcomes)).Settled := by
  obtain ⟨hstate, hmessage⟩ := hscheduler
  have howing := h.owing_context hget outcomes
  refine @World.Settled.put p _ w h program hget outcomes
    ⟨⟨fun m heq => ?_, fun hrunning => ?_⟩, List.suffix_rfl, fun m => ?_⟩
  · exact howing.known m (hmessage.symm.trans heq)
  · exact hmessage.trans (howing.running (hstate.symm.trans hrunning))
  · change (if program'.scheduler.message = some m then 1 else 0) + _ + _ =
      (if program.scheduler.message = some m then 1 else 0) + _ + _
    rw [hmessage]
    rfl

theorem World.Does.settled (hdoes : World.Does event w w') (h : w.Settled) :
    w'.Settled ∧ w.log <:+ w'.log := by
  have hnone : ∀ effect ∈ ([] : List Effect), effect.aboutMessage = false :=
    fun _ hmem => absurd hmem List.not_mem_nil
  cases hdoes with
  | called hget _ hcalled =>
      obtain ⟨c₀, hrenamed, hparts⟩ := hcalled.parts
      have hrenames := hrenamed.settles (h.owing_context hget _)
      have hsettles := hrenames.trans (hparts.settles hrenames.owing)
      exact ⟨h.put hget hsettles, hsettles.grown⟩
  | @died p program q found state exitCode outcomes _ _ _ _ hget _ =>
      have hmodified : (w.modifyProcess q fun process => { process with state, exitCode }).Settled :=
        @World.Settled.silent _ _ h rfl [] rfl hnone
      have hsettles := (@handleProcessStateChange_parts p _).settles
        (hmodified.owing_context hget outcomes)
      exact ⟨hmodified.put hget hsettles, hsettles.grown⟩
  | orphaned => exact ⟨@World.Settled.silent _ _ h rfl [] rfl hnone, List.suffix_rfl⟩
  | @expired p program arming outcomes _ hget _ _ =>
      have hexpired : (w.put p (w.context (program.expired arming) outcomes)).Settled :=
        @World.Settled.put_same p w h program (program.expired arming) hget ⟨rfl, rfl⟩ outcomes
      have hget' : (w.put p (w.context (program.expired arming) outcomes)).programs.get p =
          some (program.expired arming) := (World.get_put hget _ p).trans (if_pos rfl)
      have hsettles := (@handleTimer_parts p _).settles (hexpired.owing_context hget' outcomes)
      exact ⟨hexpired.put hget' hsettles, hsettles.grown⟩
  | @noted f hunnoticed p =>
      refine ⟨?_, List.suffix_rfl⟩
      cases hget : w.programs.get p with
      | none =>
          refine @World.Settled.silent _ _ h ?_ [] rfl hnone
          exact Heap.modify_of_none hget f
      | some program =>
          rw [World.modifyProgram_eq hget f .succeed]
          apply h.put_same hget
          rw [hunnoticed.scheduler program]
          exact ⟨rfl, rfl⟩
  | adjusted hadjusted =>
      obtain ⟨processes, files, rfl, -, -⟩ := hadjusted
      have hsilent := fun effect heffect => (releaseFiles_silent files effect heffect).1
      exact ⟨h.silent rfl rfl hsilent, List.suffix_append _ _⟩
  | observed => exact ⟨@World.Settled.silent _ _ h rfl [] rfl hnone, List.suffix_rfl⟩
  | connected => exact ⟨@World.Settled.silent _ _ h rfl [] rfl hnone, List.suffix_rfl⟩
  | created _ _ hscheduler =>
      refine ⟨h.alloc ?_, List.suffix_rfl⟩
      rw [hscheduler]
      rfl
  | destroyed _ hget _ =>
      obtain ⟨hgrown, hbalance⟩ := destroy_balance (h.owing_context hget _)
      exact ⟨h.remove hget hgrown hbalance, hgrown⟩

theorem World.DoesAll.settled (hdoes : World.DoesAll event w w') (h : w.Settled) :
    w'.Settled ∧ w.log <:+ w'.log := by
  induction hdoes with
  | refl => exact ⟨h, List.suffix_rfl⟩
  | tail _ hdoes ih =>
      obtain ⟨hsettled, hgrown⟩ := hdoes.settled ih.1
      exact ⟨hsettled, ih.2.trans hgrown⟩

theorem World.init_settled (x11Enabled : Bool) : (World.init x11Enabled).Settled where
  owing p program hget := by
    change Heap.empty.get p = some program at hget
    rw [Heap.get_empty] at hget
    cases hget
  balance m := by
    change Heap.empty.total (messageHold m) + 0 = 0
    rfl

theorem World.settled_of_run {x11Enabled : Bool} {events : List (World.Event × Outcomes)}
    (h : Trace.run World.next (World.init x11Enabled) events = some w) : w.Settled := by
  have hboth := Trace.of_run (I := fun w => w.Inv ∧ w.Settled)
    (fun _ _ _ hs hnext => ⟨hs.1.next hnext, ((hs.1.next_does hnext).settled hs.2).1⟩)
    ⟨World.init_inv x11Enabled, World.init_settled x11Enabled⟩ h
  exact hboth.2

end World

section Ownership

variable {w w' : World}

-- The current message of one scheduler, which has never been given back.
def World.Current (w : World) (m : MessageRef) : Prop :=
  (∃ p program, w.programs.get p = some program ∧ program.scheduler.message = some m ∧
    ∀ q other, w.programs.get q = some other → other.scheduler.message = some m → q = p) ∧
    .releaseMessage m ∉ w.log

-- No scheduler has it any more, and it has been unlocked and released once.
def World.Disposed (w : World) (m : MessageRef) : Prop :=
  (∀ p program, w.programs.get p = some program → program.scheduler.message ≠ some m) ∧
    w.log.count (.releaseMessage m) = 1

structure World.OwnsMessages (w : World) : Prop where
  created : ∀ m, Created w.log m → w.Current m ∨ w.Disposed m
  current : ∀ p program m, w.programs.get p = some program →
    program.scheduler.message = some m → Created w.log m
  running : ∀ p program, w.programs.get p = some program →
    program.scheduler.state = .running → program.scheduler.message = none

theorem issued_eq_one_iff : issued m log = 1 ↔ Created log m ∧ ¬Stray log m := by
  unfold issued Created Stray
  cases effectAt log m with
  | none => simp
  | some effect => cases effect <;> simp [Effect.issues]

theorem World.Settled.current (h : w.Settled) (hissued : issued m w.log = 1)
    (hheld : w.programs.total (messageHold m) ≠ 0) : w.Current m := by
  have hbalance := h.balance m
  obtain ⟨p, program, hget, hpositive⟩ := Heap.exists_of_total_pos (messageHold m)
    (Nat.pos_of_ne_zero hheld)
  have hhold : ∀ q other, other.scheduler.message = some m → messageHold m q other = 1 :=
    fun q other heq => if_pos heq
  have hmessage : program.scheduler.message = some m := by
    by_contra hne
    rw [messageHold, if_neg hne] at hpositive
    omega
  refine ⟨⟨p, program, hget, hmessage, fun q other hother heq => ?_⟩, ?_⟩
  · by_contra hne
    have hboth := Heap.add_le_total (messageHold m) hget hother hne
    rw [hhold q other heq, hhold p program hmessage] at hboth
    omega
  · rw [← List.count_eq_zero]
    change releases m w.log = 0
    omega

theorem World.Settled.unheld (h : w.programs.total (messageHold m) = 0) {program : Program}
    (hget : w.programs.get p = some program) : program.scheduler.message ≠ some m := by
  intro heq
  have hle := Heap.le_total (messageHold m) hget
  rw [h, messageHold, if_pos heq] at hle
  omega

theorem World.Settled.ownsMessages_iff (h : w.Settled) :
    w.OwnsMessages ↔ ∀ m, ¬Stray w.log m := by
  constructor
  · rintro howns m ⟨code, hstray⟩
    have hissued : issued m w.log = 0 := by
      unfold issued
      rw [hstray]
      rfl
    have hbalance := h.balance m
    have htotal : w.programs.total (messageHold m) = 0 := by omega
    rcases howns.created m ⟨_, code, hstray⟩ with hcurrent | hdisposed
    · obtain ⟨⟨p, program, hget, hmessage, -⟩, -⟩ := hcurrent
      exact World.Settled.unheld htotal hget hmessage
    · have hone : releases m w.log = 1 := hdisposed.2
      omega
  · intro hstray
    refine ⟨fun m hcreated => ?_, fun p program m hget hmessage => ?_,
      fun p program hget => (h.owing p program hget).running⟩
    · have hissued := issued_eq_one_iff.mpr ⟨hcreated, hstray m⟩
      have hbalance := h.balance m
      by_cases hheld : w.programs.total (messageHold m) = 0
      · refine Or.inr ⟨fun p program hget => World.Settled.unheld hheld hget, ?_⟩
        change releases m w.log = 1
        omega
      · exact Or.inl (h.current hissued hheld)
    · have hbalance := h.balance m
      have hle := Heap.le_total (messageHold m) hget
      rw [messageHold, if_pos hmessage] at hle
      have hissued : issued m w.log = 1 := by
        have hbound : issued m w.log ≤ 1 := by
          unfold issued
          split_ifs
          · exact Nat.le_refl 1
          · exact Nat.zero_le 1
        omega
      exact (issued_eq_one_iff.mp hissued).1

-- A message about the timer was not there before.
def StraysFrom (log log' : List Effect) : Prop := ∃ m, log.length ≤ m ∧ Stray log' m

-- In the step a timer cannot be stopped, and there is memory for the message about it.
def World.Strays (w w' : World) : Prop := StraysFrom w.log w'.log

theorem stray_grown_iff (h : log <:+ log') :
    (∀ m, ¬Stray log' m) ↔ (∀ m, ¬Stray log m) ∧ ∀ m, log.length ≤ m → ¬Stray log' m := by
  have hold : ∀ m, m < log.length → (Stray log' m ↔ Stray log m) := by
    intro m hm
    unfold Stray
    rw [effectAt_grown h hm]
  constructor
  · intro hnone
    refine ⟨fun m hstray => ?_, fun m _ => hnone m⟩
    by_cases hm : m < log.length
    · exact hnone m ((hold m hm).mpr hstray)
    · obtain ⟨code, hstray⟩ := hstray
      rw [effectAt_of_length_le (Nat.le_of_not_lt hm)] at hstray
      cases hstray
  · rintro ⟨hbefore, hnew⟩ m hstray
    by_cases hm : m < log.length
    · exact hbefore m ((hold m hm).mp hstray)
    · exact hnew m (Nat.le_of_not_lt hm) hstray

-- A scheduler keeps its message if it is stopped with the same one.
theorem stop_survives {message : MessageRef} (h : c.program.scheduler.message = some message) :
    (programSchedulerStop p (some message) c).program.scheduler.message = some message ∧
      (programSchedulerStop p (some message) c).log.count (.releaseMessage message) =
        c.log.count (.releaseMessage message) := by
  have hmessage : (programSchedulerStop p (some message) c).program.scheduler.message =
      some message := by
    unfold programSchedulerStop
    rw [setState_program]
  refine ⟨hmessage, ?_⟩
  obtain ⟨hbalance, -⟩ := @stop_balance p c message (some message)
  unfold Context.holds releases at hbalance
  rw [hmessage, h, if_pos rfl, if_neg fun hboth => hboth.2 rfl] at hbalance
  omega

-- An active timer cannot be stopped, and there is memory for the message about it.
def Context.FailsToStop (c : Context) : Prop :=
  c.program.scheduler.timerActive = true ∧ c.outcomes.timerStops.headD none ≠ none ∧
    c.outcomes.calls.headD none = none

theorem straysFrom_refl (log : List Effect) : ¬StraysFrom log log := by
  rintro ⟨m, hm, code, hstray⟩
  rw [effectAt_of_length_le hm] at hstray
  cases hstray

theorem straysFrom_cons_iff {effect : Effect} (h : effect.message = none) :
    StraysFrom log (effect :: log') ↔ StraysFrom log log' := by
  refine exists_congr fun m => and_congr_right fun hm => exists_congr fun code => ?_
  rw [effectAt]
  split_ifs with hlast
  · rw [effectAt_of_length_le (Nat.le_of_eq hlast)]
    refine iff_of_false (fun heq => ?_) fun heq => by cases heq
    rw [Option.some.inj heq] at h
    cases h
  · exact Iff.rfl

theorem straysFrom_setState_iff (state : ProgramSchedulerState) (message : Option MessageRef) :
    StraysFrom log (programSchedulerSetState p state message c).log ↔ StraysFrom log c.log := by
  unfold programSchedulerSetState releaseOldMessage
  split_ifs
  · exact Iff.rfl
  · cases c.program.scheduler.message with
    | none => exact straysFrom_cons_iff rfl
    | some old =>
        dsimp only
        split_ifs
        · have hchanged : StraysFrom log (.stateChanged p state :: .releaseMessage old :: c.log) ↔
              StraysFrom log (.releaseMessage old :: c.log) := straysFrom_cons_iff rfl
          exact hchanged.trans (straysFrom_cons_iff rfl)
        · exact straysFrom_cons_iff rfl

theorem straysFrom_stopTimer_iff : StraysFrom c.log (stopTimer p c).log ↔ c.FailsToStop := by
  unfold stopTimer Context.FailsToStop
  split_ifs with hactive
  · rw [and_iff_right hactive]
    have hstop : c.timerStop = (c.outcomes.timerStops.headD none, c.timerStop.2) := rfl
    rw [hstop]
    cases c.outcomes.timerStops.headD none with
    | none => exact iff_of_false (straysFrom_refl c.log) fun h => h.1 rfl
    | some code =>
        rw [and_iff_right (Option.some_ne_none code)]
        have hcall : (c.timerStop.2.record (.timerStopFailed p)).call =
            (c.outcomes.calls.headD none, (c.timerStop.2.record (.timerStopFailed p)).call.2) := rfl
        unfold wrapMessage
        dsimp only
        rw [hcall]
        cases c.outcomes.calls.headD none with
        | some _ =>
            have hfailed : StraysFrom c.log (.timerStopFailed p :: c.log) ↔
                StraysFrom c.log c.log := straysFrom_cons_iff rfl
            exact iff_of_false (fun h => straysFrom_refl c.log (hfailed.mp h)) fun h => by cases h
        | none =>
            refine iff_of_true ⟨c.log.length + 1, Nat.le_succ _, some code, ?_⟩ rfl
            exact if_pos rfl
  · exact iff_of_false (straysFrom_refl c.log) fun h => hactive h.1

-- This message is there if and only if the timer and the outcomes are such before the stop.
theorem straysFrom_stop_iff (message : Option MessageRef) :
    StraysFrom c.log (programSchedulerStop p message c).log ↔ c.FailsToStop := by
  unfold programSchedulerStop
  rw [straysFrom_setState_iff, stopCron_log]
  exact @straysFrom_stopTimer_iff p (programSchedulerAbortObserver p c)

theorem scheduler_messages_owned_iff (x11Enabled : Bool)
    (events : List (World.Event × Outcomes)) :
    (Trace.Always World.next World.OwnsMessages (World.init x11Enabled) events ↔
      Trace.Along World.next (fun w _ w' => ¬w.Strays w') (World.init x11Enabled) events) ∧
    (∀ (p : ProgramRef) (c : Context) (message : Option MessageRef),
      StraysFrom c.log (programSchedulerStop p message c).log ↔ c.FailsToStop) ∧
    ∀ (p : ProgramRef) (c : Context) (message : MessageRef),
      c.program.scheduler.message = some message →
      (programSchedulerStop p (some message) c).program.scheduler.message = some message ∧
        (programSchedulerStop p (some message) c).log.count (.releaseMessage message) =
          c.log.count (.releaseMessage message) := by
  refine ⟨?_, fun p c message => straysFrom_stop_iff message, fun p c message h => stop_survives h⟩
  have hinit := World.init_settled x11Enabled
  apply Trace.always_iff_along (I := fun w => w.Inv ∧ w.Settled)
  · rintro w event w' ⟨hinv, hsettled⟩ hnext
    exact ⟨hinv.next hnext, ((hinv.next_does hnext).settled hsettled).1⟩
  · rintro w event w' ⟨hinv, hsettled⟩ howns hnext
    obtain ⟨hsettled', hgrown⟩ := (hinv.next_does hnext).settled hsettled
    rw [hsettled'.ownsMessages_iff, stray_grown_iff hgrown]
    unfold World.Strays StraysFrom
    simp only [not_exists, not_and]
    exact and_iff_right (hsettled.ownsMessages_iff.mp howns)
  · exact ⟨World.init_inv x11Enabled, hinit⟩
  · rw [hinit.ownsMessages_iff]
    rintro m ⟨code, hstray⟩
    cases hstray

-- A program is stopped whose timer cannot be stopped.
def strayEvents : List (World.Event × Outcomes) :=
  [(.brickdAccept, .succeed), loadGreeter (greeterFile (ascii "interval") (ascii "1")),
    (.request (.programSetSchedule 0 ⟨0, 0, 1, .ok []⟩),
      { Outcomes.succeed with timerStops := [some ⟨.internalError, nofun⟩] })]

-- The message about the timer is neither kept nor released.
theorem strayEvents_not_owned :
    ¬Trace.Always World.next World.OwnsMessages (World.init false) strayEvents := by
  intro h
  obtain ⟨w, hrun, hstray⟩ : ∃ w,
      Trace.run World.next (World.init false) strayEvents = some w ∧ Stray w.log 2 :=
    ⟨_, rfl, _, rfl⟩
  exact (World.settled_of_run hrun).ownsMessages_iff.mp (h.of_run hrun) 2 hstray

end Ownership

end RedApid.Scheduling
