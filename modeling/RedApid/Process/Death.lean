import RedApid.Process.StateChange

namespace RedApid.Waiting

open Scheduling (ProcessState)

variable {waitpid : List WaitpidResult} {onDeath : Bool} {s s' : System} {killed : KillResult}
  {change : ProcessStateChange}

section References

-- The references, what was sent to the child process, and its number.
structure Counted (onDeath : Bool) (s : System) : Prop where
  count : s.process.internalReferenceCount = s.held + if s.process.releaseOnDeath then 1 else 0
  released : s.log.count .releasedOnDeath + (if s.process.releaseOnDeath then 1 else 0) =
    if onDeath then 1 else 0
  kill : ∀ pid signal, .kill pid signal ∈ s.log → pid ≠ 0
  pid : s.process.pid = 0 ↔ s.process.state.isAlive = false

structure References (onDeath : Bool) (s : System) : Prop extends Counted onDeath s where
  destroyed : s.process.destroyed = true ↔
    s.process.internalReferenceCount = 0 ∧ s.process.externalReferences = []
  freed : s.process.freed = true → s.process.destroyed = true ∧ s.process.state.isAlive = true

theorem References.live (h : References onDeath s) (hlive : s.process.destroyed = false) :
    s.process.freed = false := by
  by_contra hfreed
  rw [Bool.not_eq_false] at hfreed
  rw [(h.freed hfreed).1] at hlive
  cases hlive

-- The reference that the process has of its own keeps it.
theorem References.not_destroyed (h : References onDeath s)
    (hown : s.process.releaseOnDeath = true) : s.process.destroyed = false := by
  by_contra hdestroyed
  rw [Bool.not_eq_false] at hdestroyed
  have hnone := (h.destroyed.mp hdestroyed).1
  have hcount := h.count
  rw [if_pos hown] at hcount
  omega

theorem Counted.logKill (h : Counted onDeath s) (halive : s.process.state.isAlive = true)
    (signal : UInt8) : Counted onDeath { s with log := .kill s.process.pid signal :: s.log } where
  count := h.count
  released := by
    rw [List.count_cons_of_ne (by exact fun hsame => nomatch hsame)]
    exact h.released
  kill pid other hmem := by
    rcases List.mem_cons.mp hmem with hfirst | hmem
    · cases hfirst
      intro hzero
      rw [h.pid.mp hzero] at halive
      cases halive
    · exact h.kill pid other hmem
  pid := h.pid

theorem Counted.destroyUnreferenced (h : Counted onDeath s)
    (hlive : s.process.destroyed = false) (hfreed : s.process.freed = false)
    (killed : KillResult) : References onDeath (destroyUnreferenced killed s) := by
  unfold Waiting.destroyUnreferenced
  by_cases hnone : s.process.internalReferenceCount = 0 ∧ s.process.externalReferences = []
  · rw [if_pos hnone]
    unfold processDestroy
    by_cases halive : s.process.state.isAlive = true
    · rw [if_pos halive]
      have hlog := h.logKill halive SIGKILL
      exact ⟨⟨hlog.count, hlog.released, hlog.kill, hlog.pid⟩, iff_of_true rfl hnone,
        fun _ => ⟨rfl, halive⟩⟩
    · rw [if_neg halive]
      refine ⟨⟨h.count, h.released, h.kill, h.pid⟩, iff_of_true rfl hnone, fun hstuck => ?_⟩
      exact absurd (hfreed.symm.trans hstuck) Bool.false_ne_true
  · rw [if_neg hnone]
    refine ⟨h, iff_of_false ?_ hnone, fun hstuck => ?_⟩
    · rw [hlive]
      exact Bool.false_ne_true
    · exact absurd (hfreed.symm.trans hstuck) Bool.false_ne_true

-- What only the two parties change.
structure Kept (s s' : System) : Prop where
  thread : s'.thread = s.thread
  waitpid : s'.waitpid = s.waitpid
  pipe : s'.pipe = s.pipe
  taken : s'.taken = s.taken
  undefined : s'.undefined = s.undefined
  state : s'.process.state = s.process.state
  timestamp : s'.process.timestamp = s.process.timestamp
  exitCode : s'.process.exitCode = s.process.exitCode

theorem Kept.refl (s : System) : Kept s s := ⟨rfl, rfl, rfl, rfl, rfl, rfl, rfl, rfl⟩

theorem Kept.trans {s'' : System} (h : Kept s s') (h' : Kept s' s'') : Kept s s'' where
  thread := h'.thread.trans h.thread
  waitpid := h'.waitpid.trans h.waitpid
  pipe := h'.pipe.trans h.pipe
  taken := h'.taken.trans h.taken
  undefined := h'.undefined.trans h.undefined
  state := h'.state.trans h.state
  timestamp := h'.timestamp.trans h.timestamp
  exitCode := h'.exitCode.trans h.exitCode

-- What requests do not touch.
structure Leaves (s s' : System) : Prop extends Kept s s' where
  releaseOnDeath : s'.process.releaseOnDeath = s.process.releaseOnDeath

theorem Leaves.refl (s : System) : Leaves s s := ⟨Kept.refl s, rfl⟩

theorem Leaves.trans {s'' : System} (h : Leaves s s') (h' : Leaves s' s'') : Leaves s s'' :=
  ⟨h.toKept.trans h'.toKept, h'.releaseOnDeath.trans h.releaseOnDeath⟩

theorem destroyUnreferenced_leaves (killed : KillResult) (s : System) :
    Leaves s (destroyUnreferenced killed s) := by
  unfold destroyUnreferenced processDestroy
  split_ifs <;> exact ⟨⟨rfl, rfl, rfl, rfl, rfl, rfl, rfl, rfl⟩, rfl⟩

theorem objectRemoveInternalReference_leaves (killed : KillResult) (s : System) :
    Leaves s (objectRemoveInternalReference killed s) := by
  unfold objectRemoveInternalReference
  split_ifs
  · exact Leaves.refl s
  · refine Leaves.trans ?_ (destroyUnreferenced_leaves killed _)
    exact ⟨⟨rfl, rfl, rfl, rfl, rfl, rfl, rfl, rfl⟩, rfl⟩

theorem Request.perform_leaves (request : Request) (s : System) : Leaves s (request.perform s) := by
  cases request with
  | addInternalReference => exact ⟨⟨rfl, rfl, rfl, rfl, rfl, rfl, rfl, rfl⟩, rfl⟩
  | removeInternalReference killed =>
      simp only [Request.perform]
      split_ifs
      · exact Leaves.refl s
      · refine Leaves.trans ?_ (objectRemoveInternalReference_leaves killed _)
        exact ⟨⟨rfl, rfl, rfl, rfl, rfl, rfl, rfl, rfl⟩, rfl⟩
  | addExternalReference session calloc =>
      simp only [Request.perform, objectAddExternalReference]
      split_ifs <;> exact ⟨⟨rfl, rfl, rfl, rfl, rfl, rfl, rfl, rfl⟩, rfl⟩
  | release session killed =>
      simp only [Request.perform, objectRelease]
      split_ifs
      · refine Leaves.trans ?_ (destroyUnreferenced_leaves killed _)
        exact ⟨⟨rfl, rfl, rfl, rfl, rfl, rfl, rfl, rfl⟩, rfl⟩
      · exact Leaves.refl s
  | kill signal =>
      simp only [Request.perform, processKill]
      split_ifs <;> exact ⟨⟨rfl, rfl, rfl, rfl, rfl, rfl, rfl, rfl⟩, rfl⟩

theorem Request.run_leaves (request : Request) (s : System) : Leaves s (request.run s) := by
  unfold Request.run
  split_ifs
  · exact Leaves.refl s
  · exact request.perform_leaves s

theorem References.run (h : References onDeath s) (request : Request) :
    References onDeath (request.run s) := by
  unfold Request.run
  by_cases hdestroyed : s.process.destroyed = true
  · rwa [if_pos hdestroyed]
  rw [if_neg hdestroyed]
  rw [Bool.not_eq_true] at hdestroyed
  have hfreed := h.live hdestroyed
  cases request with
  | addInternalReference =>
      have hcount := h.count
      simp only [Request.perform]
      refine ⟨⟨by dsimp only; omega, h.released, h.kill, h.pid⟩, iff_of_false ?_ ?_, fun hstuck => ?_⟩
      · exact Bool.eq_false_iff.mp hdestroyed
      · rintro ⟨hzero, -⟩
        cases hzero
      · exact absurd (hfreed.symm.trans hstuck) Bool.false_ne_true
  | removeInternalReference killed =>
      simp only [Request.perform]
      by_cases hheld : s.held = 0
      · rwa [if_pos hheld]
      rw [if_neg hheld]
      have hcount := h.count
      have hsome : s.process.internalReferenceCount ≠ 0 := by omega
      unfold objectRemoveInternalReference
      rw [if_neg hsome]
      refine Counted.destroyUnreferenced ?_ ?_ ?_ killed
      · exact ⟨by dsimp only; omega, h.released, h.kill, h.pid⟩
      · exact hdestroyed
      · exact hfreed
  | addExternalReference session calloc =>
      simp only [Request.perform, objectAddExternalReference]
      by_cases hadded : session ∈ s.process.externalReferences ∨ calloc = true
      · rw [if_pos hadded]
        refine ⟨⟨h.count, h.released, h.kill, h.pid⟩, iff_of_false ?_ ?_, fun hstuck => ?_⟩
        · exact Bool.eq_false_iff.mp hdestroyed
        · rintro ⟨-, hnil⟩
          cases hnil
        · exact absurd (hfreed.symm.trans hstuck) Bool.false_ne_true
      · rwa [if_neg hadded]
  | release session killed =>
      simp only [Request.perform, objectRelease]
      by_cases hfound : session ∈ s.process.externalReferences
      · rw [if_pos hfound]
        refine Counted.destroyUnreferenced ?_ ?_ ?_ killed
        · exact ⟨h.count, h.released, h.kill, h.pid⟩
        · exact hdestroyed
        · exact hfreed
      · rwa [if_neg hfound]
  | kill signal =>
      simp only [Request.perform, processKill]
      by_cases halive : s.process.state.isAlive = true
      · rw [if_pos halive]
        have hlog := h.logKill halive signal
        exact ⟨⟨hlog.count, hlog.released, hlog.kill, hlog.pid⟩, h.destroyed, h.freed⟩
      · rwa [if_neg halive]

theorem foldl_leaves (requests : List Request) (s : System) :
    Leaves s (requests.foldl Request.run s) := by
  induction requests generalizing s with
  | nil => exact Leaves.refl s
  | cons request requests ih => exact (request.run_leaves s).trans (ih (request.run s))

theorem References.foldl (h : References onDeath s) (requests : List Request) :
    References onDeath (requests.foldl Request.run s) := by
  induction requests generalizing s with
  | nil => exact h
  | cons request requests ih => exact ih (h.run request)

end References

section Handler

-- The reference of the process itself is there as long as it is alive.
structure Invariant (waitpid : List WaitpidResult) (onDeath : Bool) (s : System) : Prop where
  references : References onDeath s
  flight : Fifo.InFlight ProcessStateChange.isDead (decoded waitpid) s.taken s.pipe
    (decoded s.waitpid) s.thread
  state : s.process.state = (s.taken.getLast?.map (·.state)).getD .running
  own : s.process.releaseOnDeath = (onDeath && s.process.state.isAlive)
  defined : onDeath = true → s.undefined = false

theorem Invariant.dead_iff (h : Invariant waitpid onDeath s) :
    s.process.state.isAlive = false ↔ ∃ change ∈ s.taken, change.isDead = true := by
  rw [h.state]
  constructor
  · intro hdead
    cases hlast : s.taken.getLast? with
    | none =>
        rw [hlast] at hdead
        cases hdead
    | some change =>
        rw [hlast] at hdead
        refine ⟨change, List.mem_of_getLast? hlast, ?_⟩
        unfold ProcessStateChange.isDead
        rw [show change.state.isAlive = false from hdead]
        rfl
  · rintro ⟨change, hmem, hdead⟩
    obtain ⟨front, back, hsplit⟩ := List.append_of_mem hmem
    have hleading := h.flight.leading
    rw [hsplit, List.append_assoc, List.cons_append] at hleading
    have hback := (List.append_eq_nil_iff.mp (Fifo.stop_last hleading hdead)).1
    rw [hsplit, hback, List.getLast?_concat]
    unfold ProcessStateChange.isDead at hdead
    rwa [Bool.not_eq_true'] at hdead

theorem Invariant.countP (h : Invariant waitpid onDeath s) :
    s.taken.countP ProcessStateChange.isDead + (if s.process.state.isAlive then 1 else 0) = 1 := by
  have hle := h.flight.countP_le_one
  cases halive : s.process.state.isAlive with
  | false =>
      have hpos := List.countP_pos_iff.mpr (h.dead_iff.mp halive)
      rw [if_neg Bool.false_ne_true]
      omega
  | true =>
      have hzero : s.taken.countP ProcessStateChange.isDead = 0 := by
        rw [List.countP_eq_zero]
        intro change hmem hdead
        rw [h.dead_iff.mpr ⟨change, hmem, hdead⟩] at halive
        cases halive
      rw [hzero, if_pos rfl]

-- The step of the handler in which a state change is read.
theorem Invariant.takeStateChange {pipe : List ProcessStateChange}
    (h : Invariant waitpid onDeath s) (hpipe : s.pipe = change :: pipe)
    (hlive : s.process.destroyed = false) :
    References onDeath (takeStateChange change { s with pipe }) ∧
      s.process.state.isAlive = true := by
  have halive : s.process.state.isAlive = true := by
    by_contra hdead
    rw [Bool.not_eq_true] at hdead
    obtain ⟨last, hmem, hstop⟩ := h.dead_iff.mp hdead
    have hnil := (h.flight.stopped hmem hstop).1
    rw [hpipe] at hnil
    cases hnil
  refine ⟨⟨⟨h.references.count, h.references.released, h.references.kill, ?_⟩,
    h.references.destroyed, fun hstuck => ?_⟩, halive⟩
  · unfold Waiting.takeStateChange
    simp only
    cases hchange : change.state.isAlive with
    | false => simp
    | true =>
        rw [if_pos rfl]
        exact iff_of_false (fun hzero => by
          rw [h.references.pid.mp hzero] at halive
          cases halive) Bool.true_eq_false.mp
  · exact absurd ((h.references.live hlive).symm.trans hstuck) Bool.false_ne_true

-- What the release on death does not touch.
structure Releases (s s' : System) : Prop extends Kept s s' where
  own : s'.process.releaseOnDeath = (s.process.releaseOnDeath && s.process.state.isAlive)

theorem References.releaseOnDeath (h : References onDeath s)
    (hlive : s.process.destroyed = false) (killed : KillResult) :
    References onDeath (releaseOnDeath killed s) ∧ Releases s (releaseOnDeath killed s) := by
  unfold Waiting.releaseOnDeath
  by_cases hnow : s.process.releaseOnDeath = true ∧ ¬s.process.state.isAlive = true
  · rw [if_pos hnow]
    obtain ⟨hown, hdead⟩ := hnow
    have hcount := h.count
    rw [if_pos hown] at hcount
    have hreleased := h.released
    rw [if_pos hown] at hreleased
    have hsome : s.process.internalReferenceCount ≠ 0 := by omega
    constructor
    · unfold objectRemoveInternalReference
      rw [if_neg hsome]
      refine Counted.destroyUnreferenced ?_ ?_ ?_ killed
      · refine ⟨?_, ?_, fun pid signal hmem => ?_, h.pid⟩
        · simp only [Bool.false_eq_true, if_false]
          omega
        · simp only [Bool.false_eq_true, if_false, List.count_cons_self]
          exact hreleased
        · rcases List.mem_cons.mp hmem with hfirst | hmem
          · cases hfirst
          · exact h.kill pid signal hmem
      · exact hlive
      · exact h.live hlive
    · have hleaves := objectRemoveInternalReference_leaves killed
        { s with
          process := { s.process with releaseOnDeath := false }
          log := .releasedOnDeath :: s.log }
      refine ⟨?_, hleaves.releaseOnDeath.trans ?_⟩
      · refine Kept.trans ?_ hleaves.toKept
        exact ⟨rfl, rfl, rfl, rfl, rfl, rfl, rfl, rfl⟩
      rw [hown, Bool.eq_false_iff.mpr hdead]
      rfl
  · rw [if_neg hnow]
    refine ⟨h, Kept.refl s, ?_⟩
    rw [not_and, not_not] at hnow
    cases hown : s.process.releaseOnDeath with
    | false => rfl
    | true =>
        rw [hnow hown]
        rfl

theorem References.stateChangedCallback (h : References onDeath s) (change : ProcessStateChange) :
    References onDeath { s with log := .stateChangedCallback change :: s.log } where
  count := h.count
  released := by
    rw [List.count_cons_of_ne (by exact fun hsame => nomatch hsame)]
    exact h.released
  kill pid signal hmem := by
    rcases List.mem_cons.mp hmem with hfirst | hmem
    · cases hfirst
    · exact h.kill pid signal hmem
  pid := h.pid
  destroyed := h.destroyed
  freed := h.freed

theorem Invariant.processHandleStateChange {pipe : List ProcessStateChange}
    (h : Invariant waitpid onDeath s) (hpipe : s.pipe = change :: pipe)
    (hlive : s.process.destroyed = false) (callback : List Request) (killed : KillResult) :
    Invariant waitpid onDeath
      (processHandleStateChange change callback killed { s with pipe }) := by
  obtain ⟨htaken, halive⟩ := h.takeStateChange hpipe hlive
  have hown : s.process.releaseOnDeath = onDeath := by
    rw [h.own, halive, Bool.and_true]
  have hflight := h.flight
  rw [hpipe] at hflight
  unfold Waiting.processHandleStateChange
  extract_lets s₀ s₁ s₂
  obtain ⟨hreferences, hleaves⟩ : References onDeath s₁ ∧ Leaves s₀ s₁ := by
    by_cases hcallback : s₀.process.stateChanged = true
    · rw [show s₁ = callback.foldl Request.run s₀ from if_pos hcallback]
      exact ⟨htaken.foldl callback, foldl_leaves callback s₀⟩
    · rw [show s₁ = s₀ from if_neg hcallback]
      exact ⟨htaken, Leaves.refl s₀⟩
  have hstate : s₁.process.state = change.state := hleaves.state
  have htaken₁ : s₁.taken = s.taken ++ [change] := hleaves.taken
  have hlast : change.state = (s₁.taken.getLast?.map (·.state)).getD .running := by
    rw [htaken₁, List.getLast?_concat]
    rfl
  have hflight₁ : Fifo.InFlight ProcessStateChange.isDead (decoded waitpid) s₁.taken s₁.pipe
      (decoded s₁.waitpid) s₁.thread := by
    rw [hleaves.thread, hleaves.waitpid, hleaves.pipe, hleaves.taken]
    exact hflight.take
  by_cases hdestroyed : s₁.process.destroyed = true
  · rw [if_pos hdestroyed]
    -- a process that still has its own reference is not destroyed here
    have hfalse : onDeath = false := by
      by_contra hdeath
      rw [Bool.not_eq_false] at hdeath
      have hnot := hreferences.not_destroyed (hleaves.releaseOnDeath.trans (hown.trans hdeath))
      rw [hnot] at hdestroyed
      cases hdestroyed
    refine ⟨⟨⟨hreferences.count, hreferences.released, hreferences.kill, hreferences.pid⟩,
      hreferences.destroyed, hreferences.freed⟩, hflight₁, hstate.trans hlast, ?_, ?_⟩
    · rw [show _ = s.process.releaseOnDeath from hleaves.releaseOnDeath, hown, hfalse]
      rfl
    · rw [hfalse]
      exact fun hdeath => absurd hdeath Bool.false_ne_true
  · rw [if_neg hdestroyed]
    rw [Bool.not_eq_true] at hdestroyed
    have hreferences₂ : References onDeath s₂ := by
      by_cases hnone : s₁.process.externalReferences = []
      · rwa [show s₂ = s₁ from if_pos hnone]
      · rw [show s₂ = _ from if_neg hnone]
        exact hreferences.stateChangedCallback change
    have hsame : Leaves s₁ s₂ ∧ s₂.process.destroyed = false := by
      by_cases hnone : s₁.process.externalReferences = []
      · rw [show s₂ = s₁ from if_pos hnone]
        exact ⟨Leaves.refl s₁, hdestroyed⟩
      · rw [show s₂ = _ from if_neg hnone]
        exact ⟨⟨⟨rfl, rfl, rfl, rfl, rfl, rfl, rfl, rfl⟩, rfl⟩, hdestroyed⟩
    obtain ⟨hleaves₂, hlive₂⟩ := hsame
    obtain ⟨hresult, hreleases⟩ := hreferences₂.releaseOnDeath hlive₂ killed
    refine ⟨hresult, ?_, ?_, ?_, fun hdeath => ?_⟩
    · rwa [hreleases.thread, hreleases.waitpid, hreleases.pipe, hreleases.taken, hleaves₂.thread,
        hleaves₂.waitpid, hleaves₂.pipe, hleaves₂.taken]
    · rw [hreleases.state, hreleases.taken, hleaves₂.state, hleaves₂.taken, hstate]
      exact hlast
    · rw [hreleases.own, hreleases.state, hleaves₂.state, hleaves₂.releaseOnDeath,
        hleaves.releaseOnDeath]
      exact congrArg (· && s₁.process.state.isAlive) hown
    · rw [hreleases.undefined, hleaves₂.undefined, hleaves.undefined]
      exact h.defined hdeath

end Handler

section Runs

-- A thread that was not joined can only be left by a process that does not own itself.
theorem Invariant.useAfterFree (h : Invariant waitpid onDeath s)
    (hfreed : s.process.freed = true) :
    Invariant waitpid onDeath { s with undefined := true } := by
  obtain ⟨hdestroyed, halive⟩ := h.references.freed hfreed
  refine ⟨⟨⟨h.references.count, h.references.released, h.references.kill, h.references.pid⟩,
    h.references.destroyed, h.references.freed⟩, h.flight, h.state, h.own, fun hdeath => ?_⟩
  have hown := h.own
  rw [hdeath, halive] at hown
  rw [h.references.not_destroyed hown] at hdestroyed
  cases hdestroyed

theorem Invariant.processWait {results : List WaitpidResult} (h : Invariant waitpid onDeath s)
    (hthread : s.thread = .waiting) (hresults : s.waitpid = results) :
    Invariant waitpid onDeath (processWait s results) := by
  have hflight := h.flight
  rw [hthread, hresults] at hflight
  have hkeep : ∀ (thread : Producer ProcessStateChange) (rest : List WaitpidResult),
      Fifo.InFlight ProcessStateChange.isDead (decoded waitpid) s.taken s.pipe (decoded rest)
        thread → Invariant waitpid onDeath { s with waitpid := rest, thread } :=
    fun thread rest hflight => ⟨⟨⟨h.references.count, h.references.released, h.references.kill,
      h.references.pid⟩, h.references.destroyed, h.references.freed⟩, hflight, h.state, h.own,
      h.defined⟩
  cases results with
  | nil => exact h
  | cons result results =>
      cases result with
      | interrupted =>
          have hsame := hkeep .waiting results hflight
          rw [← hthread] at hsame
          exact hsame
      | failed => exact hkeep .ended results hflight.finish
      | status word timestamp => exact hkeep (.holding (decode word timestamp)) results hflight.hold

theorem Invariant.processWrite (h : Invariant waitpid onDeath s)
    (hthread : s.thread = .holding change) (written : Bool) :
    Invariant waitpid onDeath (processWrite written change s) := by
  have hflight := h.flight
  rw [hthread] at hflight
  unfold Waiting.processWrite
  cases written with
  | false =>
      exact ⟨⟨⟨h.references.count, h.references.released, h.references.kill, h.references.pid⟩,
        h.references.destroyed, h.references.freed⟩, hflight.finish, h.state, h.own, h.defined⟩
  | true =>
      exact ⟨⟨⟨h.references.count, h.references.released, h.references.kill, h.references.pid⟩,
        h.references.destroyed, h.references.freed⟩, hflight.put, h.state, h.own, h.defined⟩

theorem Invariant.run (h : Invariant waitpid onDeath s) (request : Request) :
    Invariant waitpid onDeath (request.run s) := by
  have hleaves := request.run_leaves s
  refine ⟨h.references.run request, ?_, ?_, ?_, fun hdeath => ?_⟩
  · rw [hleaves.thread, hleaves.waitpid, hleaves.pipe, hleaves.taken]
    exact h.flight
  · rw [hleaves.state, hleaves.taken]
    exact h.state
  · rw [hleaves.state, hleaves.releaseOnDeath]
    exact h.own
  · rw [hleaves.undefined]
    exact h.defined hdeath

theorem Invariant.next (h : Invariant waitpid onDeath s) {event : Event}
    (hnext : next s event = some s') : Invariant waitpid onDeath s' := by
  cases event with
  | waitpid =>
      simp only [Waiting.next] at hnext
      split_ifs at hnext with hcannot hfreed
      · cases hnext
        exact h.useAfterFree hfreed
      · cases hnext
        rw [not_or, not_or, not_not] at hcannot
        exact h.processWait hcannot.2.1 rfl
  | write written =>
      simp only [Waiting.next] at hnext
      cases hthread : s.thread with
      | holding change =>
          rw [hthread] at hnext
          simp only at hnext
          split_ifs at hnext with hcannot hfreed
          · cases hnext
            have hundefined := h.useAfterFree hfreed
            rwa [hthread] at hundefined
          · cases hnext
            exact h.processWrite hthread written
      | _ =>
          rw [hthread] at hnext
          cases hnext
  | read received callback killed =>
      simp only [Waiting.next] at hnext
      by_cases hcannot : s.undefined = true ∨ s.process.destroyed = true
      · rw [if_pos hcannot] at hnext
        cases hnext
      rw [if_neg hcannot] at hnext
      rw [not_or, Bool.not_eq_true, Bool.not_eq_true] at hcannot
      cases hpipe : s.pipe with
      | nil =>
          rw [hpipe] at hnext
          cases hnext
          exact h
      | cons change pipe =>
          rw [hpipe] at hnext
          simp only at hnext
          split_ifs at hnext
          · cases hnext
            exact h.processHandleStateChange hpipe hcannot.2 callback killed
          · cases hnext
            exact h
  | request request =>
      simp only [Waiting.next] at hnext
      split_ifs at hnext
      cases hnext
      exact h.run request

theorem spawned_invariant (waitpid : List WaitpidResult) (pid : { pid : Nat // pid ≠ 0 })
    (onDeath stateChanged : Bool) (externalReferences : List SessionRef) (timestamp : UInt64) :
    Invariant waitpid onDeath
      (spawned waitpid pid onDeath stateChanged externalReferences timestamp) where
  references :=
    { count := by cases onDeath <;> rfl
      released := by cases onDeath <;> rfl
      kill := fun _ _ hmem => absurd hmem List.not_mem_nil
      pid := iff_of_false pid.property Bool.true_eq_false.mp
      destroyed := iff_of_false Bool.false_ne_true fun hnone => nomatch hnone.1
      freed := fun hfreed => absurd hfreed Bool.false_ne_true }
  flight := ⟨rfl, fun _ hmem => absurd hmem List.not_mem_nil⟩
  state := rfl
  own := (Bool.and_true onDeath).symm
  defined _ := rfl

theorem Invariant.exact (h : Invariant waitpid onDeath s) :
    StateChangesExact waitpid onDeath s where
  taken := (List.prefix_append s.taken s.pipe).trans h.flight.leading
  state := h.state
  nothing_lost hthread := by
    have hflight := h.flight
    rw [hthread] at hflight
    exact hflight.1
  pid_eq_zero := h.references.pid
  kill := h.references.kill
  released_once hdeath := by
    have hreleased := h.references.released
    have hcount := h.countP
    rw [h.own, hdeath, Bool.true_and, if_pos rfl] at hreleased
    omega
  not_released hdeath := by
    have hreleased := h.references.released
    rw [hdeath, if_neg Bool.false_ne_true] at hreleased
    omega
  references hdeath := by
    have hreleased := h.references.released
    have hcount := h.references.count
    rw [hdeath, if_pos rfl] at hreleased
    omega
  destroyed hdeath := by
    have hown := h.own
    rw [hdeath, Bool.true_and] at hown
    have hcount := h.references.count
    rw [hown] at hcount
    rw [h.references.destroyed]
    cases halive : s.process.state.isAlive with
    | false =>
        rw [halive, if_neg Bool.false_ne_true] at hcount
        rw [hcount]
        simp
    | true =>
        rw [halive, if_pos rfl] at hcount
        rw [hcount]
        simp
  defined := h.defined

theorem releaseOnDeath_kept (killed : KillResult) (s : System) : Kept s (releaseOnDeath killed s) := by
  unfold releaseOnDeath
  split_ifs
  · refine Kept.trans ?_ (objectRemoveInternalReference_leaves killed _).toKept
    exact ⟨rfl, rfl, rfl, rfl, rfl, rfl, rfl, rfl⟩
  · exact Kept.refl s

-- The fields of the process are those of the record, whatever the callback does.
theorem processHandleStateChange_moves (change : ProcessStateChange) (callback : List Request)
    (killed : KillResult) (s : System) :
    let s' := processHandleStateChange change callback killed s
    s'.taken = s.taken ++ [change] ∧ s'.pipe = s.pipe ∧ s'.process.state = change.state ∧
      s'.process.timestamp = change.timestamp ∧ s'.process.exitCode = change.exitCode := by
  unfold processHandleStateChange
  extract_lets s₀ s₁ s₂ s'
  have hleaves : Kept s₀ s₁ := by
    by_cases hcallback : s₀.process.stateChanged = true
    · rw [show s₁ = callback.foldl Request.run s₀ from if_pos hcallback]
      exact (foldl_leaves callback s₀).toKept
    · rw [show s₁ = s₀ from if_neg hcallback]
      exact Kept.refl s₀
  have hrest : s'.taken = s₁.taken ∧ s'.pipe = s₁.pipe ∧ s'.process.state = s₁.process.state ∧
      s'.process.timestamp = s₁.process.timestamp ∧ s'.process.exitCode = s₁.process.exitCode := by
    by_cases hdestroyed : s₁.process.destroyed = true
    · rw [show s' = { s₁ with undefined := true } from if_pos hdestroyed]
      exact ⟨rfl, rfl, rfl, rfl, rfl⟩
    · have hcallback : Kept s₁ s₂ := by
        by_cases hnone : s₁.process.externalReferences = []
        · rw [show s₂ = s₁ from if_pos hnone]
          exact Kept.refl s₁
        · rw [show s₂ = _ from if_neg hnone]
          exact ⟨rfl, rfl, rfl, rfl, rfl, rfl, rfl, rfl⟩
      rw [show s' = releaseOnDeath killed s₂ from if_neg hdestroyed]
      have hkept := hcallback.trans (releaseOnDeath_kept killed s₂)
      exact ⟨hkept.taken, hkept.pipe, hkept.state, hkept.timestamp, hkept.exitCode⟩
  obtain ⟨htaken, hpipe, hstate, htimestamp, hexitCode⟩ := hrest
  exact ⟨htaken.trans hleaves.taken, hpipe.trans hleaves.pipe, hstate.trans hleaves.state,
    htimestamp.trans hleaves.timestamp, hexitCode.trans hleaves.exitCode⟩

theorem RecordsMove.still {event : Event} (hreads : event.reads s = [])
    (hwrites : event.writes s = []) (htaken : s'.taken = s.taken) (hpipe : s'.pipe = s.pipe) :
    RecordsMove waitpid s event s' where
  taken := by rw [hreads, List.append_nil, htaken]
  pipe := by rw [hreads, hwrites, hpipe, List.append_nil, List.nil_append]
  process change hmem := by
    rw [hreads] at hmem
    cases hmem
  complete h := by
    unfold Complete
    rw [htaken, hpipe]
    rcases h with hcomplete | ⟨change, hmem, -⟩
    · exact hcomplete
    · rw [hwrites] at hmem
      cases hmem

theorem Invariant.write_moves (h : Invariant waitpid onDeath s)
    (hthread : s.thread = .holding change) (hfreed : ¬s.process.freed = true) (written : Bool) :
    RecordsMove waitpid s (.write written) (Waiting.processWrite written change s) := by
  cases written with
  | false => exact .still rfl rfl rfl rfl
  | true =>
      have hwrites : (Event.write true).writes s = [change] := by
        simp only [Event.writes]
        rw [hthread]
        exact if_neg hfreed
      have hflight := h.flight
      rw [hthread] at hflight
      refine ⟨(List.append_nil _).symm, by rw [hwrites]; rfl, fun _ hmem => ?_, ?_⟩
      · cases hmem
      · rw [hwrites]
        rintro (hcomplete | ⟨last, hmem, hdead⟩)
        · exact absurd hcomplete hflight.incomplete
        · rw [List.mem_singleton.mp hmem] at hdead
          exact hflight.put_last hdead

theorem Invariant.moves (h : Invariant waitpid onDeath s) {event : Event}
    (hnext : Waiting.next s event = some s') : RecordsMove waitpid s event s' := by
  cases event with
  | waitpid =>
      simp only [Waiting.next] at hnext
      split_ifs at hnext with hcannot hfreed
      · cases hnext
        exact .still rfl rfl rfl rfl
      · cases hnext
        have hsame : ∀ results, (Waiting.processWait s results).taken = s.taken ∧
            (Waiting.processWait s results).pipe = s.pipe := by
          intro results
          rcases results with _ | ⟨_ | _ | _, results⟩ <;> exact ⟨rfl, rfl⟩
        exact .still rfl rfl (hsame s.waitpid).1 (hsame s.waitpid).2
  | write written =>
      simp only [Waiting.next] at hnext
      cases hthread : s.thread with
      | holding change =>
          rw [hthread] at hnext
          simp only at hnext
          split_ifs at hnext with hcannot hfreed
          · cases hnext
            refine .still rfl ?_ rfl rfl
            cases written with
            | false => rfl
            | true =>
                simp only [Event.writes]
                rw [hthread]
                exact if_pos hfreed
          · cases hnext
            exact h.write_moves hthread hfreed written
      | _ =>
          rw [hthread] at hnext
          cases hnext
  | read received callback killed =>
      simp only [Waiting.next] at hnext
      by_cases hcannot : s.undefined = true ∨ s.process.destroyed = true
      · rw [if_pos hcannot] at hnext
        cases hnext
      rw [if_neg hcannot] at hnext
      cases received with
      | false =>
          have hsame : s' = s := by
            cases hpipe : s.pipe <;> rw [hpipe] at hnext <;> cases hnext <;> rfl
          rw [hsame]
          exact .still rfl rfl rfl rfl
      | true =>
          cases hpipe : s.pipe with
          | nil =>
              rw [hpipe] at hnext
              cases hnext
              exact .still (by simp only [Event.reads]; rw [hpipe]; rfl) rfl rfl rfl
          | cons change pipe =>
              rw [hpipe] at hnext
              cases hnext
              obtain ⟨htaken, hrest, hprocess⟩ :=
                processHandleStateChange_moves change callback killed { s with pipe }
              have hreads : (Event.read true callback killed).reads s = [change] := by
                simp only [Event.reads]
                rw [hpipe]
                rfl
              refine ⟨by rw [hreads]; exact htaken, ?_, fun other hmem => ?_, ?_⟩
              · rw [hreads, hrest, hpipe]
                exact List.append_nil _
              · rw [hreads] at hmem
                rw [List.mem_singleton.mp hmem]
                exact hprocess
              · rintro (hcomplete | ⟨other, hmem, -⟩)
                · unfold Complete at hcomplete ⊢
                  rw [htaken, hrest, List.append_assoc, ← hcomplete, hpipe]
                  rfl
                · cases hmem
  | request request =>
      simp only [Waiting.next] at hnext
      split_ifs at hnext
      cases hnext
      have hleaves := request.run_leaves s
      exact .still rfl rfl hleaves.taken hleaves.pipe

theorem state_changes_exact (waitpid : List WaitpidResult) (pid : { pid : Nat // pid ≠ 0 })
    (onDeath stateChanged : Bool) (externalReferences : List SessionRef) (timestamp : UInt64)
    (events : List Event) :
    Trace.Always next (StateChangesExact waitpid onDeath)
        (spawned waitpid pid onDeath stateChanged externalReferences timestamp) events ∧
      Trace.Along next (RecordsMove waitpid)
        (spawned waitpid pid onDeath stateChanged externalReferences timestamp) events := by
  have hspawned :=
    spawned_invariant waitpid pid onDeath stateChanged externalReferences timestamp
  exact ⟨Trace.always_of_step (fun _ _ _ h hnext => h.next hnext) (fun _ h => h.exact) hspawned
      events,
    Trace.along_of_step (fun _ _ _ h hnext => h.next hnext) (fun _ _ _ h hnext => h.moves hnext)
      hspawned events⟩

end Runs

end RedApid.Waiting
