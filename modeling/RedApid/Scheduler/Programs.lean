import RedApid.Scheduler.Requests
import RedApid.Scheduler.World

namespace RedApid.Scheduling

open Memory

variable {w : World} {p : ProgramRef}

section Core

-- What holds of all programs, also after a crash.
structure World.Core (w : World) : Prop where
  base : ∀ p program, w.programs.get p = some program → Base p program w.daemon w.log
  ids : ∀ p q program other, w.programs.get p = some program → w.programs.get q = some other →
    program.id = other.id → p = q
  entries : ∀ entry ∈ w.daemon.entries, ∃ program, w.programs.get entry.notify = some program
  observers : ∀ p ∈ w.daemon.observers, ∃ program, w.programs.get p = some program
  process : ∀ q process p, w.daemon.processes.get q = some process →
    process.stateChanged = some p → p < w.programs.next ∧ process.releaseOnDeath = false ∧
      process.listed ≤ process.internalReferenceCount
  alive : ∀ q q' process process' p, w.daemon.processes.get q = some process →
    w.daemon.processes.get q' = some process' → process.stateChanged = some p →
    process'.stateChanged = some p → process.state.isAlive = true →
    process'.state.isAlive = true → q = q'
  sound : ∀ effect ∈ w.log, effect.Sound
  logged : ∀ effect ∈ w.log, ∀ p, effect.program = some p → p < w.programs.next

-- Between two handlers the triggers are live as well, all of them or those of the other programs.
def World.Lively (w : World) : Prop :=
  ∀ p program, w.programs.get p = some program → Live program w.daemon

def World.LivelyBut (w : World) (p : ProgramRef) : Prop :=
  ∀ q program, q ≠ p → w.programs.get q = some program → Live program w.daemon

structure World.Inv (w : World) : Prop where
  core : w.Core
  lively : w.daemon.crashed = false → w.Lively

end Core

section Frame

-- The other programs do not notice what is done for one of them.
theorem Base.frame {q : ProgramRef} {program : Program} {daemon daemon' : Daemon}
    {log log' : List Effect} (h : Base q program daemon log) (hframe : Frame p daemon daemon')
    (hlogs : Logs p log log') (hne : q ≠ p)
    (hids : ∀ entry ∈ daemon'.entries, entry.notify = p → entry.programId ≠ program.id) :
    Base q program daemon' log' := by
  have hpq : some q ≠ some p := fun heq => hne (Option.some.inj heq)
  exact
    { h with
      inert := fun hstopped hactive => hlogs.mem (h.inert hstopped hactive)
      observers := by rw [hframe.observers q hne]; exact h.observers
      entries := fun entry hentry => by
        by_cases hnotify : entry.notify = p
        · have hnq : entry.notify ≠ q := fun heq => hne (heq.symm.trans hnotify)
          exact ⟨iff_of_false (hids entry hentry hnotify) hnq, fun heq => absurd heq hnq⟩
        · have hmem : entry ∈ daemon'.entries.filter (·.notify ≠ p) :=
            List.mem_filter.mpr ⟨hentry, decide_eq_true hnotify⟩
          rw [hframe.entries] at hmem
          exact h.entries entry (List.mem_filter.mp hmem).1
      entry := by
        have hcount : ∀ entries : List CronEntry, entries.countP (·.notify = q) =
            (entries.filter (·.notify ≠ p)).countP (·.notify = q) := by
          intro entries
          rw [List.countP_filter]
          refine List.countP_congr fun entry _ => ?_
          simp only [decide_eq_true_eq, Bool.and_eq_true, ne_eq]
          exact ⟨fun heq => ⟨heq, fun heq' => hne (heq.symm.trans heq')⟩, fun hboth => hboth.1⟩
        rw [hcount, hframe.entries, ← hcount]
        exact h.entry
      last := fun r hr => by
        obtain ⟨process, hprocess, hchanged⟩ := h.last r hr
        exact ⟨process, (hframe.processes r process (by rw [hchanged]; exact hpq)).mpr hprocess,
          hchanged⟩
      process := fun r process hprocess hchanged =>
        h.process r process
          ((hframe.processes r process (by rw [hchanged]; exact hpq)).mp hprocess) hchanged }

theorem Live.frame {q : ProgramRef} {program : Program} {daemon daemon' : Daemon}
    {log : List Effect} (h : Live program daemon) (hbase : Base q program daemon log)
    (hframe : Frame p daemon daemon') (hne : q ≠ p) : Live program daemon' := by
  have halive : program.scheduler.lastSpawnedProcess.any daemon'.isAlive =
      program.scheduler.lastSpawnedProcess.any daemon.isAlive := by
    cases hlast : program.scheduler.lastSpawnedProcess with
    | none => rfl
    | some r =>
        obtain ⟨process, hprocess, hchanged⟩ := hbase.last r hlast
        have hpq : process.stateChanged ≠ some p := by
          rw [hchanged]
          exact fun heq => hne (Option.some.inj heq)
        have hprocess' := (hframe.processes r process hpq).mpr hprocess
        rw [Option.any_some, Option.any_some, Daemon.isAlive, Daemon.isAlive, hprocess, hprocess']
  intro hrunning
  have htrigger := h hrunning
  rw [halive]
  exact htrigger

end Frame

section Put

-- The program and what is shared after a call for one program.
def World.put (w : World) (p : ProgramRef) (c : Context) : World :=
  { programs := w.programs.modify p fun _ => c.program, daemon := c.daemon, log := c.log }

def World.context (w : World) (program : Program) (outcomes : Outcomes) : Context :=
  ⟨program, w.daemon, w.log, outcomes⟩

theorem World.run_eq {program : Program} (hget : w.programs.get p = some program)
    (f : Context → Context) (outcomes : Outcomes) :
    w.run p f outcomes =
      (w.put p (f (w.context program outcomes)), (f (w.context program outcomes)).outcomes) := by
  unfold World.run
  rw [hget]
  rfl

theorem World.get_put {program : Program} (hget : w.programs.get p = some program) (c : Context)
    (q : ProgramRef) :
    (w.put p c).programs.get q = if q = p then some c.program else w.programs.get q := by
  change (w.programs.modify p fun _ => c.program).get q = _
  rw [Heap.get_modify]
  by_cases hq : q = p
  · subst hq
    rw [if_pos rfl, if_pos rfl, hget]
    rfl
  · rw [if_neg hq, if_neg hq]

theorem World.get_put_some {program other : Program} {q : ProgramRef}
    (hget : w.programs.get p = some program) {c : Context}
    (h : (w.put p c).programs.get q = some other) :
    (q = p ∧ other = c.program) ∨ (q ≠ p ∧ w.programs.get q = some other) := by
  rw [World.get_put hget] at h
  by_cases hq : q = p
  · rw [if_pos hq] at h
    exact Or.inl ⟨hq, (Option.some.inj h).symm⟩
  · rw [if_neg hq] at h
    exact Or.inr ⟨hq, h⟩

theorem World.get_put_isSome {program other : Program} {q : ProgramRef}
    (hget : w.programs.get p = some program) (c : Context)
    (h : w.programs.get q = some other) : ∃ other', (w.put p c).programs.get q = some other' := by
  rw [World.get_put hget]
  by_cases hq : q = p
  · exact ⟨c.program, if_pos hq⟩
  · exact ⟨other, (if_neg hq).trans h⟩

theorem World.Core.put {program : Program} (h : w.Core) (hget : w.programs.get p = some program)
    {outcomes : Outcomes} {c : Context} (hhandled : Handled p (w.context program outcomes) c) :
    (w.put p c).Core := by
  have hframe : Frame p w.daemon c.daemon := hhandled.frame
  have hlogs : Logs p w.log c.log := hhandled.logs
  have hid : c.program.id = program.id := hhandled.id
  have hgood : Base p c.program c.daemon c.log := hhandled.good
  obtain ⟨new, hnew, hallowed⟩ := hlogs
  have hlt := Heap.lt_next_of_get hget
  have hold : ∀ q process r, c.daemon.processes.get q = some process →
      process.stateChanged = some r → r ≠ p → w.daemon.processes.get q = some process := by
    intro q process r hprocess hchanged hr
    refine (hframe.processes q process ?_).mp hprocess
    rw [hchanged]
    exact fun heq => hr (Option.some.inj heq)
  have hsame : ∀ q other, w.programs.get q = some other → q ≠ p →
      ∀ entry ∈ c.daemon.entries, entry.notify = p → entry.programId ≠ other.id := by
    intro q other hother hq entry hentry hnotify heq
    have hprogram := (hgood.entries entry hentry).1.mpr hnotify
    refine hq (h.ids q p other program hother hget ?_)
    rw [← heq, hprogram, hid]
  refine
    { base := ?_, ids := ?_, entries := ?_, observers := ?_, process := ?_, alive := ?_
      sound := ?_, logged := ?_ }
  · intro q other hother
    rcases World.get_put_some hget hother with ⟨rfl, rfl⟩ | ⟨hq, hother⟩
    · exact hgood
    · exact (h.base q other hother).frame hframe hhandled.logs hq (hsame q other hother hq)
  · intro q r other other' hother hother' heq
    rcases World.get_put_some hget hother with ⟨rfl, rfl⟩ | ⟨hq, hq'⟩
    · rcases World.get_put_some hget hother' with ⟨rfl, rfl⟩ | ⟨hr, hr'⟩
      · rfl
      · exact h.ids q r program other' hget hr' (hid ▸ heq)
    · rcases World.get_put_some hget hother' with ⟨rfl, rfl⟩ | ⟨hr, hr'⟩
      · exact h.ids q r other program hq' hget (heq.trans hid)
      · exact h.ids q r other other' hq' hr' heq
  · intro entry hentry
    change entry ∈ c.daemon.entries at hentry
    by_cases hnotify : entry.notify = p
    · rw [hnotify]
      exact World.get_put_isSome hget c hget
    · have hmem : entry ∈ c.daemon.entries.filter (·.notify ≠ p) :=
        List.mem_filter.mpr ⟨hentry, decide_eq_true hnotify⟩
      rw [hframe.entries] at hmem
      obtain ⟨other, hother⟩ := h.entries entry (List.mem_filter.mp hmem).1
      exact World.get_put_isSome hget c hother
  · intro q hq
    change q ∈ c.daemon.observers at hq
    by_cases hqp : q = p
    · rw [hqp]
      exact World.get_put_isSome hget c hget
    · rw [← List.count_pos_iff, hframe.observers q hqp, List.count_pos_iff] at hq
      obtain ⟨other, hother⟩ := h.observers q hq
      exact World.get_put_isSome hget c hother
  · intro q process r hprocess hchanged
    change c.daemon.processes.get q = some process at hprocess
    have hnext : (w.put p c).programs.next = w.programs.next := Heap.next_modify _ _ _
    rw [hnext]
    by_cases hr : r = p
    · subst hr
      obtain ⟨-, hrelease, hcount⟩ := hgood.process q process hprocess hchanged
      exact ⟨hlt, hrelease, by omega⟩
    · exact h.process q process r (hold q process r hprocess hchanged hr) hchanged
  · intro q q' process process' r hprocess hprocess' hchanged hchanged' halive halive'
    change c.daemon.processes.get q = some process at hprocess
    change c.daemon.processes.get q' = some process' at hprocess'
    by_cases hr : r = p
    · subst hr
      have hlast := (hgood.process q process hprocess hchanged).1 halive
      have hlast' := (hgood.process q' process' hprocess' hchanged').1 halive'
      rw [hlast] at hlast'
      exact Option.some.inj hlast'
    · exact h.alive q q' process process' r (hold q process r hprocess hchanged hr)
        (hold q' process' r hprocess' hchanged' hr) hchanged hchanged' halive halive'
  · intro effect heffect
    change effect ∈ c.log at heffect
    rw [hnew] at heffect
    rcases List.mem_append.mp heffect with heffect | heffect
    · exact (hallowed effect heffect).2
    · exact h.sound effect heffect
  · intro effect heffect r hr
    change effect ∈ c.log at heffect
    have hnext : (w.put p c).programs.next = w.programs.next := Heap.next_modify _ _ _
    rw [hnext]
    rw [hnew] at heffect
    rcases List.mem_append.mp heffect with heffect | heffect
    · rw [(hallowed effect heffect).1 r hr]
      exact hlt
    · exact h.logged effect heffect r hr

theorem World.LivelyBut.put {program : Program} (h : w.LivelyBut p) (hcore : w.Core)
    (hget : w.programs.get p = some program) {outcomes : Outcomes} {c : Context}
    (hhandled : Handled p (w.context program outcomes) c) (hlive : c.Live) :
    (w.put p c).Lively := by
  intro q other hother
  rcases World.get_put_some hget hother with ⟨rfl, rfl⟩ | ⟨hq, hother⟩
  · exact hlive
  · exact (h q other hq hother).frame (hcore.base q other hother) hhandled.frame hq

theorem World.Core.inv_put {program : Program} (h : w.Core)
    (hlively : w.daemon.crashed = false → w.LivelyBut p) (hget : w.programs.get p = some program)
    {outcomes : Outcomes} {c : Context}
    (hhandled : Handled p (w.context program outcomes) c) (hlives : c.Lives) :
    (w.put p c).Inv where
  core := h.put hget hhandled
  lively hcrashed := by
    have hbefore : w.daemon.crashed = false := by
      by_contra htrue
      have hcrashed' := hhandled.frame.crashed (Bool.eq_true_of_not_eq_false htrue)
      change c.daemon.crashed = false at hcrashed
      rw [hcrashed] at hcrashed'
      cases hcrashed'
    exact (hlively hbefore).put h hget hhandled (hlives hcrashed)

theorem World.Inv.put {program : Program} (h : w.Inv) (hget : w.programs.get p = some program)
    {outcomes : Outcomes} {c : Context}
    (hhandled : Handled p (w.context program outcomes) c) (hlives : c.Lives) :
    (w.put p c).Inv :=
  h.core.inv_put (fun hcrashed q other _ => h.lively hcrashed q other) hget hhandled hlives

end Put

section Creation

theorem World.mem_programRefs {program : Program} (hget : w.programs.get p = some program) :
    p ∈ w.programRefs := by
  unfold World.programRefs
  rw [List.mem_filter, List.mem_range]
  exact ⟨Heap.lt_next_of_get hget, by rw [hget]; rfl⟩

theorem World.get_of_mem_programRefs (hmem : p ∈ w.programRefs) :
    ∃ program, w.programs.get p = some program := by
  unfold World.programRefs at hmem
  exact Option.isSome_iff_exists.mp (List.mem_filter.mp hmem).2

def World.alloc (w : World) (program : Program) : World :=
  { w with programs := w.programs.alloc program }

theorem World.get_alloc_some {program other : Program} {q : ProgramRef}
    (h : (w.alloc program).programs.get q = some other) :
    (q = w.programs.next ∧ other = program) ∨
      (q ≠ w.programs.next ∧ w.programs.get q = some other) := by
  have hget : (w.alloc program).programs.get q = _ := Heap.get_alloc w.programs program q
  rw [hget] at h
  by_cases hq : q = w.programs.next
  · rw [if_pos hq] at h
    exact Or.inl ⟨hq, (Option.some.inj h).symm⟩
  · rw [if_neg hq] at h
    exact Or.inr ⟨hq, h⟩

-- A new program has no trace yet.
theorem World.Core.base_create (h : w.Core) {program : Program} (hfree : w.IsFreeId program.id)
    {config : ProgramSettings}
    (hscheduler : program.scheduler = programSchedulerCreate config w.daemon) :
    Base w.programs.next program w.daemon w.log := by
  have hdead : ∀ other, w.programs.get w.programs.next ≠ some other := by
    intro other hother
    exact absurd (Heap.lt_next_of_get hother) (Nat.lt_irrefl _)
  have hobserver : w.daemon.observers.count w.programs.next = 0 := by
    rw [List.count_eq_zero]
    intro hmem
    obtain ⟨other, hother⟩ := h.observers _ hmem
    exact hdead other hother
  have hnotify : ∀ entry ∈ w.daemon.entries, entry.notify ≠ w.programs.next := by
    intro entry hentry heq
    obtain ⟨other, hother⟩ := h.entries entry hentry
    rw [heq] at hother
    exact hdead other hother
  have hid : ∀ entry ∈ w.daemon.entries, entry.programId ≠ program.id := by
    intro entry hentry heq
    obtain ⟨other, hother⟩ := h.entries entry hentry
    have hsame := ((h.base _ other hother).entries entry hentry).1.mpr rfl
    exact hfree.2 _ (World.mem_programRefs hother) other hother (hsame.symm.trans heq)
  refine
    { timer := ?_, inert := ?_, shutdown := ?_, pending := ?_, observers := ?_, cron := ?_
      entries := ?_, entry := ?_, last := ?_, process := ?_ }
  · rw [hscheduler]
    exact fun hne => absurd rfl hne
  · rw [hscheduler]
    nofun
  · rw [hscheduler]
    nofun
  · rw [hscheduler]
    exact fun _ => ⟨rfl, rfl⟩
  · rw [hobserver, hscheduler, if_neg]
    unfold programSchedulerCreate
    dsimp only
    split_ifs
    · nofun
    · nofun
  · rw [hscheduler]
    nofun
  · intro entry hentry
    exact ⟨iff_of_false (hid entry hentry) (hnotify entry hentry),
      fun heq => absurd heq (hnotify entry hentry)⟩
  · rw [hscheduler]
    refine List.countP_eq_zero.mpr fun entry hentry heq => ?_
    exact hnotify entry hentry (of_decide_eq_true heq)
  · rw [hscheduler]
    nofun
  · intro q process hprocess hchanged
    exact absurd (h.process q process _ hprocess hchanged).1 (Nat.lt_irrefl _)

theorem World.Core.alloc (h : w.Core) {program : Program} (hfree : w.IsFreeId program.id)
    {config : ProgramSettings}
    (hscheduler : program.scheduler = programSchedulerCreate config w.daemon) :
    (w.alloc program).Core := by
  have hkept : ∀ q, (∃ other, w.programs.get q = some other) →
      ∃ other, (w.alloc program).programs.get q = some other := by
    rintro q ⟨other, hother⟩
    exact ⟨other, Heap.get_alloc_of_get hother program⟩
  have hnext : (w.alloc program).programs.next = w.programs.next + 1 := Heap.next_alloc _ _
  refine
    { base := ?_, ids := ?_
      entries := fun entry hentry => hkept _ (h.entries entry hentry)
      observers := fun p hp => hkept p (h.observers p hp)
      process := ?_, alive := h.alive, sound := h.sound, logged := ?_ }
  · intro q other hother
    rcases World.get_alloc_some hother with ⟨rfl, rfl⟩ | ⟨hq, hq'⟩
    · exact h.base_create hfree hscheduler
    · exact h.base q other hq'
  · intro q r other other' hother hother' heq
    have hfresh : ∀ q other, w.programs.get q = some other → other.id ≠ program.id :=
      fun q other hother => hfree.2 q (World.mem_programRefs hother) other hother
    rcases World.get_alloc_some hother with ⟨hq, rfl⟩ | ⟨hq, hq'⟩
    · rcases World.get_alloc_some hother' with ⟨hr, rfl⟩ | ⟨hr, hr'⟩
      · rw [hq, hr]
      · exact absurd heq.symm (hfresh r other' hr')
    · rcases World.get_alloc_some hother' with ⟨hr, rfl⟩ | ⟨hr, hr'⟩
      · exact absurd heq (hfresh q other hq')
      · exact h.ids q r other other' hq' hr' heq
  · intro q process p hprocess hchanged
    obtain ⟨hlt, hrelease⟩ := h.process q process p hprocess hchanged
    rw [hnext]
    exact ⟨Nat.lt_succ_of_lt hlt, hrelease⟩
  · intro effect heffect p hp
    rw [hnext]
    exact Nat.lt_succ_of_lt (h.logged effect heffect p hp)

theorem World.Inv.alloc (h : w.Inv) {program : Program} (hfree : w.IsFreeId program.id)
    {config : ProgramSettings}
    (hscheduler : program.scheduler = programSchedulerCreate config w.daemon) :
    (w.alloc program).Inv where
  core := h.core.alloc hfree hscheduler
  lively hcrashed := by
    intro q other hother
    rcases World.get_alloc_some hother with ⟨-, rfl⟩ | ⟨-, hq'⟩
    · refine Live.of_stopped ?_
      rw [hscheduler]
      rfl
    · exact h.lively hcrashed q other hq'

end Creation

section References

-- A change of a program that its scheduler does not notice. Of the config it only concerns the
-- custom options.
structure Unnoticed (f : Program → Program) : Prop where
  id : ∀ program, (f program).id = program.id
  rootDirectory : ∀ program, (f program).rootDirectory = program.rootDirectory
  config : ∀ program, ∃ customOptions, (f program).config =
    { program.config with customOptions }
  scheduler : ∀ program, (f program).scheduler = program.scheduler

theorem Unnoticed.handled {f : Program → Program} (h : Unnoticed f) {c : Context}
    (hgood : c.Good p) : Handled p c { c with program := f c.program } := by
  have hid := h.id c.program
  have hscheduler := h.scheduler c.program
  generalize f c.program = program at hid hscheduler
  exact
    { good :=
        { timer := by rw [hscheduler]; exact hgood.timer
          inert := by rw [hscheduler]; exact hgood.inert
          shutdown := by rw [hscheduler]; exact hgood.shutdown
          pending := by rw [hscheduler]; exact hgood.pending
          observers := by rw [hscheduler]; exact hgood.observers
          cron := by rw [hscheduler]; exact hgood.cron
          entries := by rw [hid]; exact hgood.entries
          entry := by rw [hscheduler]; exact hgood.entry
          last := by rw [hscheduler]; exact hgood.last
          process := by rw [hscheduler]; exact hgood.process }
      id := hid
      brickd := Or.inl (by rw [hscheduler])
      shutdown := by rw [hscheduler]; exact fun hshutdown => hshutdown
      frame := Frame.refl _
      logs := Logs.refl _ }

theorem Unnoticed.live {f : Program → Program} (h : Unnoticed f) {program : Program}
    {daemon : Daemon} (hlive : Live program daemon) : Live (f program) daemon := by
  obtain ⟨customOptions, hconfig⟩ := h.config program
  unfold Live
  rw [h.scheduler, hconfig]
  exact hlive

theorem World.modifyProgram_eq {program : Program} (hget : w.programs.get p = some program)
    (f : Program → Program) (outcomes : Outcomes) :
    w.modifyProgram p f =
      w.put p { w.context program outcomes with program := f program } := by
  unfold World.modifyProgram World.put
  rw [Heap.modify_congr_of_get (g := fun _ => f program) hget rfl]
  rfl

theorem World.Inv.modifyProgram (h : w.Inv) {f : Program → Program} (hf : Unnoticed f)
    (p : ProgramRef) : (w.modifyProgram p f).Inv := by
  cases hget : w.programs.get p with
  | none =>
      have hsame : w.modifyProgram p f = w := by
        unfold World.modifyProgram
        rw [Heap.modify_of_none hget]
      rw [hsame]
      exact h
  | some program =>
      rw [World.modifyProgram_eq hget f .succeed]
      refine h.put hget (hf.handled (h.core.base p program hget)) fun hcrashed => ?_
      exact hf.live (h.lively hcrashed p program hget)

-- A destroyed program.
def World.remove (w : World) (p : ProgramRef) (c : Context) : World :=
  { w.put p c with programs := (w.put p c).programs.free p }

theorem World.get_remove_some {program other : Program} {q : ProgramRef}
    (hget : w.programs.get p = some program) {c : Context}
    (h : (w.remove p c).programs.get q = some other) :
    q ≠ p ∧ w.programs.get q = some other := by
  change ((w.put p c).programs.free p).get q = some other at h
  rw [Heap.get_free] at h
  split_ifs at h with hq
  rw [World.get_put hget, if_neg hq] at h
  exact ⟨hq, h⟩

theorem World.get_remove_isSome {program other : Program} {q : ProgramRef}
    (hget : w.programs.get p = some program) (c : Context) (hq : q ≠ p)
    (h : w.programs.get q = some other) : (w.remove p c).programs.get q = some other := by
  change ((w.put p c).programs.free p).get q = some other
  rw [Heap.get_free_ne hq, World.get_put hget, if_neg hq, h]

theorem World.next_remove (c : Context) : (w.remove p c).programs.next = w.programs.next := by
  change ((w.put p c).programs.free p).next = _
  rw [Heap.next_free]
  exact Heap.next_modify _ _ _

theorem World.Core.remove {program : Program} (h : w.Core) (hget : w.programs.get p = some program)
    {outcomes : Outcomes} {c : Context} (hdestroyed : Destroyed p (w.context program outcomes) c) :
    (w.remove p c).Core := by
  have hframe : Frame p w.daemon c.daemon := hdestroyed.frame
  obtain ⟨new, hnew, hallowed⟩ := hdestroyed.logs
  change c.log = new ++ w.log at hnew
  have hold : ∀ q process r, c.daemon.processes.get q = some process →
      process.stateChanged = some r → r ≠ p → w.daemon.processes.get q = some process := by
    intro q process r hprocess hchanged hr
    refine (hframe.processes q process ?_).mp hprocess
    rw [hchanged]
    exact fun heq => hr (Option.some.inj heq)
  refine
    { base := ?_, ids := ?_, entries := ?_, observers := ?_, process := ?_, alive := ?_
      sound := ?_, logged := ?_ }
  · intro q other hother
    obtain ⟨hq, hother⟩ := World.get_remove_some hget hother
    refine (h.base q other hother).frame hframe hdestroyed.logs hq fun entry hentry hnotify => ?_
    exact absurd hnotify (hdestroyed.entries entry hentry)
  · intro q r other other' hother hother' heq
    exact h.ids q r other other' (World.get_remove_some hget hother).2
      (World.get_remove_some hget hother').2 heq
  · intro entry hentry
    change entry ∈ c.daemon.entries at hentry
    have hnotify := hdestroyed.entries entry hentry
    have hmem : entry ∈ c.daemon.entries.filter (·.notify ≠ p) :=
      List.mem_filter.mpr ⟨hentry, decide_eq_true hnotify⟩
    rw [hframe.entries] at hmem
    obtain ⟨other, hother⟩ := h.entries entry (List.mem_filter.mp hmem).1
    exact ⟨other, World.get_remove_isSome hget c hnotify hother⟩
  · intro q hq
    change q ∈ c.daemon.observers at hq
    have hqp : q ≠ p := by
      intro heq
      rw [heq] at hq
      exact absurd hdestroyed.observers (Nat.ne_of_gt (List.count_pos_iff.mpr hq))
    rw [← List.count_pos_iff, hframe.observers q hqp, List.count_pos_iff] at hq
    obtain ⟨other, hother⟩ := h.observers q hq
    exact ⟨other, World.get_remove_isSome hget c hqp hother⟩
  · intro q process r hprocess hchanged
    change c.daemon.processes.get q = some process at hprocess
    rw [World.next_remove]
    by_cases hr : r = p
    · subst hr
      exact ⟨Heap.lt_next_of_get hget, (hdestroyed.process q process hprocess hchanged).2⟩
    · exact h.process q process r (hold q process r hprocess hchanged hr) hchanged
  · intro q q' process process' r hprocess hprocess' hchanged hchanged' halive halive'
    change c.daemon.processes.get q = some process at hprocess
    change c.daemon.processes.get q' = some process' at hprocess'
    by_cases hr : r = p
    · subst hr
      have hlast := (hdestroyed.process q process hprocess hchanged).1 halive
      have hlast' := (hdestroyed.process q' process' hprocess' hchanged').1 halive'
      rw [hlast] at hlast'
      exact Option.some.inj hlast'
    · exact h.alive q q' process process' r (hold q process r hprocess hchanged hr)
        (hold q' process' r hprocess' hchanged' hr) hchanged hchanged' halive halive'
  · intro effect heffect
    change effect ∈ c.log at heffect
    rw [hnew] at heffect
    rcases List.mem_append.mp heffect with heffect | heffect
    · exact (hallowed effect heffect).2
    · exact h.sound effect heffect
  · intro effect heffect r hr
    change effect ∈ c.log at heffect
    rw [World.next_remove]
    rw [hnew] at heffect
    rcases List.mem_append.mp heffect with heffect | heffect
    · rw [(hallowed effect heffect).1 r hr]
      exact Heap.lt_next_of_get hget
    · exact h.logged effect heffect r hr

theorem World.Inv.remove {program : Program} (h : w.Inv) (hget : w.programs.get p = some program)
    {outcomes : Outcomes} {c : Context} (hdestroyed : Destroyed p (w.context program outcomes) c) :
    (w.remove p c).Inv where
  core := h.core.remove hget hdestroyed
  lively hcrashed := by
    have hframe : Frame p w.daemon c.daemon := hdestroyed.frame
    have hbefore : w.daemon.crashed = false := by
      by_contra htrue
      have hcrashed' := hframe.crashed (Bool.eq_true_of_not_eq_false htrue)
      change c.daemon.crashed = false at hcrashed
      rw [hcrashed] at hcrashed'
      cases hcrashed'
    intro q other hother
    obtain ⟨hq, hother⟩ := World.get_remove_some hget hother
    exact (h.lively hbefore q other hother).frame (h.core.base q other hother) hframe hq

-- A program is destroyed with its last reference.
theorem World.destroyUnreferenced_cases (h : w.Core) (p : ProgramRef) (outcomes : Outcomes) :
    w.destroyUnreferenced p outcomes = w ∨
      ∃ program, w.programs.get p = some program ∧ program.internalReferenceCount = 0 ∧
        program.externalReferenceCount = 0 ∧
        w.destroyUnreferenced p outcomes =
          w.remove p (programSchedulerDestroy p (w.context program outcomes)) ∧
        Destroyed p (w.context program outcomes)
          (programSchedulerDestroy p (w.context program outcomes)) := by
  unfold World.destroyUnreferenced
  cases hget : w.programs.get p with
  | none => exact Or.inl rfl
  | some program =>
      by_cases hcounts : program.internalReferenceCount = 0 ∧ program.externalReferenceCount = 0
      · refine Or.inr ⟨program, rfl, hcounts.1, hcounts.2, ?_,
          destroy_destroyed (h.base p program hget)⟩
        simp only [if_pos hcounts, World.run_eq hget]
        rfl
      · exact Or.inl (if_neg hcounts)

end References

end RedApid.Scheduling
