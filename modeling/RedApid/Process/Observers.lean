import RedApid.Process.Monitor

namespace RedApid.Monitor

open Scheduling (SearchResult)

variable {s s' : State} {cmdlinePrefix : CString} {observer : ObserverRef}
  {observation : ProcessObservation}

section Counts

variable (s) (cmdlinePrefix) (observer)

theorem adds_record (entry : Entry) : (s.record entry).adds cmdlinePrefix observer =
    s.adds cmdlinePrefix observer + if entry = .added cmdlinePrefix observer then 1 else 0 := by
  simp [State.adds, State.record, List.count_cons]

theorem calls_record (entry : Entry) : (s.record entry).calls cmdlinePrefix observer =
    s.calls cmdlinePrefix observer + if entry = .called cmdlinePrefix observer then 1 else 0 := by
  simp [State.calls, State.record, List.count_cons]

theorem withdrawals_record (entry : Entry) : (s.record entry).withdrawals cmdlinePrefix observer =
    s.withdrawals cmdlinePrefix observer +
      if entry = .withdrawn cmdlinePrefix observer then 1 else 0 := by
  simp [State.withdrawals, State.record, List.count_cons]

theorem ticks_record (entry : Entry) : (s.record entry).ticks cmdlinePrefix =
    s.ticks cmdlinePrefix + if entry = .ticked cmdlinePrefix then 1 else 0 := by
  simp [State.ticks, State.record, List.count_cons]

variable (observation) (other : CString)

theorem adds_set : (s.set other observation).adds cmdlinePrefix observer =
    s.adds cmdlinePrefix observer := rfl

theorem calls_set : (s.set other observation).calls cmdlinePrefix observer =
    s.calls cmdlinePrefix observer := rfl

theorem withdrawals_set : (s.set other observation).withdrawals cmdlinePrefix observer =
    s.withdrawals cmdlinePrefix observer := rfl

theorem ticks_set : (s.set other observation).ticks cmdlinePrefix = s.ticks cmdlinePrefix := rfl

end Counts

section Owed

-- The observers that are still to be called.
def State.owed (s : State) (cmdlinePrefix : CString) : List ObserverRef :=
  match s.observations cmdlinePrefix with
  | none => []
  | some observation => if observation.waiting then observation.observers else []

theorem State.owed_of_some (h : s.observations cmdlinePrefix = some observation) :
    s.owed cmdlinePrefix = if observation.waiting then observation.observers else [] := by
  simp only [State.owed, h]

-- What an observation is like, besides its observers.
structure ProcessObservation.Fits (observation : ProcessObservation) (ticks : Nat) : Prop where
  timer : observation.timer = observation.waiting
  bounded : ticks ≤ maxTicks observation.timeout
  waiting : observation.waiting = true → observation.remainingTimeout =
    observation.timeout - SERACH_INTERVAL * ticks ∧
      (ticks = 0 ∨ 0 < observation.remainingTimeout)

-- `extra` are calls that the loop still has to make.
structure Sound (s : State) (extra : CString → ObserverRef → Nat) : Prop where
  balance : ∀ cmdlinePrefix observer, s.calls cmdlinePrefix observer +
    s.withdrawals cmdlinePrefix observer + (s.owed cmdlinePrefix).count observer +
      extra cmdlinePrefix observer = s.adds cmdlinePrefix observer
  early : ∀ cmdlinePrefix observation, s.observations cmdlinePrefix = some observation →
    observation.waiting = true → ∀ observer, s.calls cmdlinePrefix observer = 0
  unobserved : ∀ cmdlinePrefix, s.observations cmdlinePrefix = none →
    s.ticks cmdlinePrefix = 0 ∧ ∀ observer, s.adds cmdlinePrefix observer = 0
  fits : ∀ cmdlinePrefix observation, s.observations cmdlinePrefix = some observation →
    observation.Fits (s.ticks cmdlinePrefix)
  defined : s.undefined = false

end Owed

section Removal

-- A removal changes the observers of an observation only, and records it if they were waiting.
structure Removes (s s' : State) : Prop where
  adds : ∀ cmdlinePrefix observer, s'.adds cmdlinePrefix observer = s.adds cmdlinePrefix observer
  calls : ∀ cmdlinePrefix observer, s'.calls cmdlinePrefix observer = s.calls cmdlinePrefix observer
  ticks : ∀ cmdlinePrefix, s'.ticks cmdlinePrefix = s.ticks cmdlinePrefix
  owed : ∀ cmdlinePrefix observer, s'.withdrawals cmdlinePrefix observer +
    (s'.owed cmdlinePrefix).count observer =
      s.withdrawals cmdlinePrefix observer + (s.owed cmdlinePrefix).count observer
  none : ∀ cmdlinePrefix, s'.observations cmdlinePrefix = none →
    s.observations cmdlinePrefix = none
  some : ∀ cmdlinePrefix observation', s'.observations cmdlinePrefix = some observation' →
    ∃ observation, s.observations cmdlinePrefix = some observation ∧
      observation' = { observation with observers := observation'.observers }
  undefined : s'.undefined = s.undefined

theorem Removes.refl (s : State) : Removes s s :=
  ⟨fun _ _ => rfl, fun _ _ => rfl, fun _ => rfl, fun _ _ => rfl, fun _ h => h,
    fun _ observation h => ⟨observation, h, rfl⟩, rfl⟩

theorem record_observations (entry : Entry) (s : State) :
    (s.record entry).observations = s.observations := rfl

theorem State.record_owed (entry : Entry) (s : State) (cmdlinePrefix : CString) :
    (s.record entry).owed cmdlinePrefix = s.owed cmdlinePrefix := rfl

theorem set_observations (s : State) (cmdlinePrefix : CString) (observation : ProcessObservation)
    (other : CString) : (s.set cmdlinePrefix observation).observations other =
      if other = cmdlinePrefix then some observation else s.observations other :=
  Function.update_apply _ _ _ _

theorem owed_set (s : State) (cmdlinePrefix : CString) (observation : ProcessObservation)
    (other : CString) : (s.set cmdlinePrefix observation).owed other =
      if other = cmdlinePrefix then if observation.waiting then observation.observers else []
      else s.owed other := by
  unfold State.owed
  rw [set_observations]
  split_ifs <;> simp_all

theorem processMonitorRemoveObserver_removes (cmdlinePrefix : CString) (observer : ObserverRef)
    (s : State) : Removes s (processMonitorRemoveObserver cmdlinePrefix observer s) := by
  unfold processMonitorRemoveObserver
  cases hfound : s.observations cmdlinePrefix with
  | none => exact Removes.refl s
  | some observation =>
      simp only
      by_cases hmem : observer ∈ observation.observers
      · rw [if_pos hmem]
        have hnone : ∀ other, (s.set cmdlinePrefix { observation with
              observers := observation.observers.erase observer }).observations other = none →
            s.observations other = none := by
          intro other hother
          rw [set_observations] at hother
          split_ifs at hother
          exact hother
        have hsome : ∀ other observation', (s.set cmdlinePrefix { observation with
              observers := observation.observers.erase observer }).observations other =
                some observation' →
            ∃ before, s.observations other = some before ∧
              observation' = { before with observers := observation'.observers } := by
          intro other observation' hother
          rw [set_observations] at hother
          split_ifs at hother with hsame
          · cases hother
            exact ⟨observation, by rw [hsame, hfound], rfl⟩
          · exact ⟨observation', hother, rfl⟩
        by_cases hwaiting : observation.waiting = true
        · rw [if_pos hwaiting]
          refine ⟨fun other who => ?_, fun other who => ?_, fun other => ?_, fun other who => ?_,
            hnone, hsome, rfl⟩
          · rw [adds_record, adds_set, if_neg Entry.noConfusion, Nat.add_zero]
          · rw [calls_record, calls_set, if_neg Entry.noConfusion, Nat.add_zero]
          · rw [ticks_record, ticks_set, if_neg Entry.noConfusion, Nat.add_zero]
          · rw [State.record_owed, owed_set, if_pos hwaiting, withdrawals_record, withdrawals_set]
            by_cases hsame : other = cmdlinePrefix
            · rw [if_pos hsame, hsame, State.owed_of_some hfound, if_pos hwaiting, List.count_erase]
              have hpos := List.count_pos_iff.mpr hmem
              by_cases hwho : observer = who
              · subst hwho
                simp only [beq_self_eq_true, if_true]
                omega
              · simp [hwho]
            · simp [hsame, Ne.symm hsame]
        · rw [if_neg hwaiting]
          refine ⟨fun _ _ => rfl, fun _ _ => rfl, fun _ => rfl, fun other who => ?_, hnone, hsome,
            rfl⟩
          rw [owed_set]
          split_ifs with hsame
          · rw [hsame, State.owed_of_some hfound, if_neg hwaiting]
            rfl
          · rfl
      · rw [if_neg hmem]
        exact Removes.refl s

theorem Sound.removes {extra : CString → ObserverRef → Nat} (h : Sound s extra)
    (hremoves : Removes s s') : Sound s' extra where
  balance other who := by
    have hbalance := h.balance other who
    have howed := hremoves.owed other who
    rw [hremoves.calls, hremoves.adds]
    omega
  early other observation' hother hwaiting who := by
    obtain ⟨before, hbefore, hsame⟩ := hremoves.some other observation' hother
    rw [hsame] at hwaiting
    rw [hremoves.calls]
    exact h.early other before hbefore hwaiting who
  unobserved other hother := by
    obtain ⟨hticks, hadds⟩ := h.unobserved other (hremoves.none other hother)
    refine ⟨(hremoves.ticks other).trans hticks, fun who => ?_⟩
    rw [hremoves.adds]
    exact hadds who
  fits other observation' hother := by
    obtain ⟨before, hbefore, hsame⟩ := hremoves.some other observation' hother
    have hfits := h.fits other before hbefore
    rw [hremoves.ticks, hsame]
    exact ⟨hfits.timer, hfits.bounded, hfits.waiting⟩
  defined := hremoves.undefined.trans h.defined

end Removal

section Calls

variable {extra : CString → ObserverRef → Nat}

def pendingAt (cmdlinePrefix : CString) (observers : List ObserverRef) :
    CString → ObserverRef → Nat :=
  fun other observer => if other = cmdlinePrefix then observers.count observer else 0

theorem pendingAt_nil (cmdlinePrefix : CString) : pendingAt cmdlinePrefix [] = fun _ _ => 0 := by
  funext other observer
  unfold pendingAt
  split_ifs <;> rfl

theorem Sound.called (h : Sound s fun other who => extra other who +
      pendingAt cmdlinePrefix [observer] other who)
    (hfound : s.observations cmdlinePrefix = some observation)
    (hdone : observation.waiting = false) :
    Sound (s.record (.called cmdlinePrefix observer)) extra where
  balance other who := by
    have hbalance := h.balance other who
    unfold pendingAt at hbalance
    rw [calls_record, withdrawals_record, adds_record, State.record_owed]
    simp only [reduceCtorEq, if_false, Nat.add_zero]
    by_cases hother : other = cmdlinePrefix
    · subst hother
      rw [if_pos rfl, List.count_singleton] at hbalance
      by_cases hwho : observer = who
      · subst hwho
        simp only [beq_self_eq_true, if_true] at hbalance ⊢
        omega
      · simp only [beq_iff_eq, hwho, if_false] at hbalance
        simp only [Entry.called.injEq, hwho, and_false, if_false]
        omega
    · rw [if_neg hother] at hbalance
      simp only [Entry.called.injEq, Ne.symm hother, false_and, if_false]
      omega
  early other observation' hother hwaiting who := by
    have hne : other ≠ cmdlinePrefix := by
      rintro rfl
      rw [record_observations, hfound] at hother
      cases hother
      rw [hdone] at hwaiting
      cases hwaiting
    rw [calls_record, if_neg (by simp [Ne.symm hne])]
    exact h.early other observation' hother hwaiting who
  unobserved other hother := by
    obtain ⟨hticks, hadds⟩ := h.unobserved other hother
    refine ⟨?_, fun who => ?_⟩
    · rwa [ticks_record, if_neg Entry.noConfusion]
    · rw [adds_record, if_neg Entry.noConfusion]
      exact hadds who
  fits other observation' hother := by
    rw [ticks_record, if_neg Entry.noConfusion]
    exact h.fits other observation' hother
  defined := h.defined

-- The observers of an observation after one of them has been called.
theorem callFunction_observers (hfound : s.observations cmdlinePrefix = some observation)
    (observer : ObserverRef) (removal : Option CString) :
    ∃ observers, (callFunction cmdlinePrefix observer removal s).observations cmdlinePrefix =
        some { observation with observers } ∧
      (observers = observation.observers ∨ observers = observation.observers.erase observer) := by
  unfold callFunction
  cases removal with
  | none => exact ⟨observation.observers, hfound, Or.inl rfl⟩
  | some other =>
      simp only
      unfold processMonitorRemoveObserver
      rw [record_observations]
      by_cases hother : other = cmdlinePrefix
      · subst hother
        rw [hfound]
        simp only
        split_ifs
        · refine ⟨observation.observers.erase observer, ?_, Or.inr rfl⟩
          rw [record_observations, set_observations, if_pos rfl]
        · refine ⟨observation.observers.erase observer, ?_, Or.inr rfl⟩
          rw [set_observations, if_pos rfl]
        · exact ⟨observation.observers, hfound, Or.inl rfl⟩
      · refine ⟨observation.observers, ?_, Or.inl rfl⟩
        cases s.observations other with
        | none => exact hfound
        | some observation' =>
            simp only
            split_ifs
            · rw [record_observations, set_observations, if_neg (Ne.symm hother)]
              exact hfound
            · rw [set_observations, if_neg (Ne.symm hother)]
              exact hfound
            · exact hfound

theorem Sound.callFunction (h : Sound s fun other who => extra other who +
      pendingAt cmdlinePrefix [observer] other who)
    (hfound : s.observations cmdlinePrefix = some observation)
    (hdone : observation.waiting = false) (removal : Option CString) :
    Sound (callFunction cmdlinePrefix observer removal s) extra := by
  have hcalled := h.called hfound hdone
  unfold Monitor.callFunction
  cases removal with
  | none => exact hcalled
  | some other => exact hcalled.removes (processMonitorRemoveObserver_removes other observer _)

theorem take_succ_eq {observers : List ObserverRef} {i : Nat} (h : observers[i]? = some observer) :
    observers.take (i + 1) = observers.take i ++ [observer] := by
  rw [List.take_add_one, h]
  rfl

theorem take_erase {observers : List ObserverRef} {i : Nat} (h : observers[i]? = some observer) :
    (observers.erase observer).take i = (observers.take i ++ [observer]).erase observer := by
  obtain ⟨hi, -⟩ := List.getElem?_eq_some_iff.mp h
  have hmem : observer ∈ observers.take i ++ [observer] :=
    List.mem_append_right _ (List.mem_singleton_self observer)
  have herase : observers.erase observer =
      (observers.take i ++ [observer]).erase observer ++ observers.drop (i + 1) := by
    rw [← List.erase_append_left _ hmem, ← take_succ_eq h, List.take_append_drop]
  have hlength : ((observers.take i ++ [observer]).erase observer).length = i := by
    rw [List.length_erase_of_mem hmem, List.length_append, List.length_take,
      List.length_singleton]
    omega
  rw [herase, List.take_append_of_le_length (Nat.le_of_eq hlength.symm),
    List.take_of_length_le (Nat.le_of_eq hlength)]

-- An element that removes itself, or an equal one in front of it, does not move the ones in front
-- of it away from the loop.
theorem count_take_erase {observers : List ObserverRef} {i : Nat}
    (h : observers[i]? = some observer) (who : ObserverRef) :
    ((observers.erase observer).take i).count who = (observers.take i).count who := by
  rw [take_erase h, List.count_erase, List.count_append, List.count_singleton]
  by_cases hwho : observer = who
  · subst hwho
    simp
  · simp [hwho]

theorem Sound.informObservers {i : Nat} (removals : Nat → Option CString)
    (h : Sound s (pendingAt cmdlinePrefix (observation.observers.take i)))
    (hfound : s.observations cmdlinePrefix = some observation)
    (hdone : observation.waiting = false) (hi : i ≤ observation.observers.length) :
    Sound (informObservers cmdlinePrefix removals i s) fun _ _ => 0 := by
  induction i generalizing s observation with
  | zero =>
      rw [List.take_zero, pendingAt_nil] at h
      exact h
  | succ i ih =>
      unfold Monitor.informObservers
      obtain ⟨observer, hget⟩ : ∃ observer, observation.observers[i]? = some observer :=
        ⟨_, List.getElem?_eq_getElem hi⟩
      rw [hfound, Option.bind_some, hget]
      simp only
      have hcall : Sound s fun other who =>
          pendingAt cmdlinePrefix (observation.observers.take i) other who +
            pendingAt cmdlinePrefix [observer] other who := by
        have hsame : pendingAt cmdlinePrefix (observation.observers.take (i + 1)) =
            fun other who => pendingAt cmdlinePrefix (observation.observers.take i) other who +
              pendingAt cmdlinePrefix [observer] other who := by
          funext other who
          unfold pendingAt
          rw [take_succ_eq hget]
          split_ifs
          · exact List.count_append
          · rfl
        rwa [← hsame]
      have hsound := hcall.callFunction hfound hdone (removals i)
      obtain ⟨observers, hnext, hobservers⟩ :=
        callFunction_observers hfound observer (removals i)
      have hcount : pendingAt cmdlinePrefix (observers.take i) =
          pendingAt cmdlinePrefix (observation.observers.take i) := by
        funext other who
        unfold pendingAt
        rcases hobservers with rfl | rfl
        · rfl
        · rw [count_take_erase hget]
      have hlength : i ≤ observers.length := by
        rcases hobservers with rfl | rfl
        · omega
        · rw [List.length_erase_of_mem (List.mem_of_getElem? hget)]
          omega
      rw [← hcount] at hsound
      exact @ih _ { observation with observers } hsound hnext hdone hlength

end Calls

section Steps

theorem Fits_tick {ticks : Nat} (h : observation.Fits ticks) (hwaiting : observation.waiting = true) :
    ticks + 1 ≤ maxTicks observation.timeout := by
  obtain ⟨hremaining, hfirst⟩ := h.waiting hwaiting
  unfold maxTicks
  unfold SERACH_INTERVAL at *
  omega

theorem Fits_checkProc {ticks : Nat} (h : observation.Fits ticks)
    (hwaiting : observation.waiting = true) (search : SearchResult)
    (hstill : (checkProc search observation).waiting = true) :
    (checkProc search observation).Fits (ticks + 1) := by
  have hbounded := Fits_tick h hwaiting
  obtain ⟨hremaining, hfirst⟩ := h.waiting hwaiting
  have htimer := h.timer
  unfold checkProc decreaseTimeout at hstill ⊢
  cases search with
  | found => cases hstill
  | _ =>
      simp only [ne_eq, decide_eq_true_eq] at hstill ⊢
      refine ⟨?_, hbounded, fun _ => ?_⟩
      · rw [htimer, hwaiting]
        exact (decide_eq_true hstill).symm
      · unfold SERACH_INTERVAL at *
        split_ifs at hstill ⊢ with hmore
        · dsimp only
          omega
        · exact absurd rfl hstill

-- A tick takes the observers over, and they are called if the observation is finished.
theorem Sound.tick (h : Sound s fun _ _ => 0) {after : ProcessObservation}
    (hfound : s.observations cmdlinePrefix = some observation)
    (hwaiting : observation.waiting = true) (hobservers : after.observers = observation.observers)
    (hfits : after.Fits (s.ticks cmdlinePrefix + 1)) :
    Sound ((s.record (.ticked cmdlinePrefix)).set cmdlinePrefix after)
      (pendingAt cmdlinePrefix (if after.waiting then [] else after.observers)) where
  balance other who := by
    have hbalance := h.balance other who
    rw [calls_set, withdrawals_set, adds_set, owed_set, calls_record, withdrawals_record,
      adds_record, State.record_owed]
    simp only [reduceCtorEq, if_false, Nat.add_zero]
    unfold pendingAt
    by_cases hother : other = cmdlinePrefix
    · subst hother
      rw [State.owed_of_some hfound, if_pos hwaiting] at hbalance
      rw [if_pos rfl, if_pos rfl, hobservers]
      split_ifs
      · rw [List.count_nil]
        omega
      · rw [List.count_nil]
        omega
    · rw [if_neg hother, if_neg hother]
      omega
  early other observation' hother hwaiting' who := by
    rw [set_observations] at hother
    rw [calls_set, calls_record, if_neg Entry.noConfusion]
    split_ifs at hother with hsame
    · subst hsame
      exact h.early other observation hfound hwaiting who
    · exact h.early other observation' hother hwaiting' who
  unobserved other hother := by
    rw [set_observations] at hother
    split_ifs at hother with hsame
    obtain ⟨hticks, hadds⟩ := h.unobserved other hother
    refine ⟨?_, fun who => ?_⟩
    · rwa [ticks_set, ticks_record, if_neg (by simp [Ne.symm hsame])]
    · rw [adds_set, adds_record, if_neg Entry.noConfusion]
      exact hadds who
  fits other observation' hother := by
    rw [set_observations] at hother
    rw [ticks_set, ticks_record]
    split_ifs at hother with hsame
    · cases hother
      rw [hsame, if_pos rfl]
      exact hfits
    · rw [if_neg (by simp [Ne.symm hsame])]
      exact h.fits other observation' hother
  defined := h.defined

theorem Sound.processMonitorUpdateObservation (h : Sound s fun _ _ => 0)
    (htimer : (s.observations cmdlinePrefix).any (·.timer) = true) (search : SearchResult)
    (removals : Nat → Option CString) :
    Sound (processMonitorUpdateObservation cmdlinePrefix search removals
      (s.record (.ticked cmdlinePrefix))) fun _ _ => 0 := by
  unfold Monitor.processMonitorUpdateObservation
  rw [record_observations]
  cases hfound : s.observations cmdlinePrefix with
  | none =>
      rw [hfound] at htimer
      cases htimer
  | some observation =>
      rw [hfound, Option.any_some] at htimer
      have hfits := h.fits cmdlinePrefix observation hfound
      have hwaiting : observation.waiting = true := by
        rw [← hfits.timer]
        exact htimer
      simp only
      rw [if_neg (not_not.mpr hwaiting)]
      have hobservers : (checkProc search observation).observers = observation.observers := by
        unfold checkProc
        cases search <;> rfl
      have htimeout : (checkProc search observation).timeout = observation.timeout := by
        unfold checkProc
        cases search <;> rfl
      by_cases hstill : (checkProc search observation).waiting = true
      · rw [if_pos hstill]
        have hsound := h.tick hfound hwaiting hobservers (Fits_checkProc hfits hwaiting search hstill)
        rwa [if_pos hstill, pendingAt_nil] at hsound
      · rw [if_neg hstill]
        have hsound := @Sound.tick s cmdlinePrefix observation h
          { checkProc search observation with timer := false, remainingTimeout := 0 } hfound
          hwaiting hobservers ⟨(Bool.eq_false_iff.mpr hstill).symm,
            by rw [htimeout]; exact Fits_tick hfits hwaiting, fun hagain => absurd hagain hstill⟩
        rw [if_neg hstill, ← List.take_length (l := (checkProc search observation).observers)]
          at hsound
        refine @Sound.informObservers _ cmdlinePrefix
          { checkProc search observation with timer := false, remainingTimeout := 0 } _ removals
          hsound ?_ (Bool.eq_false_iff.mpr hstill) (Nat.le_refl _)
        rw [set_observations, if_pos rfl]

-- An observer that has been added, and is to be called at once if the observation is finished.
theorem Sound.add (h : Sound s fun _ _ => 0) {after : ProcessObservation} (observer : ObserverRef)
    (hfound : s.observations cmdlinePrefix = some observation)
    (hafter : after = { observation with observers := observation.observers ++ [observer] }) :
    Sound ((s.record (.added cmdlinePrefix observer)).set cmdlinePrefix after) fun other who =>
      0 + pendingAt cmdlinePrefix (if after.waiting then [] else [observer]) other who where
  balance other who := by
    have hbalance := h.balance other who
    rw [calls_set, withdrawals_set, adds_set, owed_set, calls_record, withdrawals_record,
      adds_record, State.record_owed]
    simp only [reduceCtorEq, if_false, Nat.add_zero, Entry.added.injEq]
    unfold pendingAt
    by_cases hother : other = cmdlinePrefix
    · subst hother hafter
      rw [State.owed_of_some hfound] at hbalance
      rw [if_pos rfl, if_pos rfl]
      simp only [true_and]
      have hone : [observer].count who = if observer = who then 1 else 0 := by
        rw [List.count_singleton]
        simp
      by_cases hwaiting : observation.waiting = true
      · rw [if_pos hwaiting] at hbalance
        rw [if_pos hwaiting, if_pos hwaiting, List.count_append, hone, List.count_nil]
        omega
      · rw [if_neg hwaiting, List.count_nil] at hbalance
        rw [if_neg hwaiting, if_neg hwaiting, hone, List.count_nil]
        omega
    · rw [if_neg hother, if_neg hother, if_neg (fun hsame => hother hsame.1.symm)]
      omega
  early other observation' hother hwaiting' who := by
    rw [set_observations] at hother
    rw [calls_set, calls_record, if_neg Entry.noConfusion]
    split_ifs at hother with hsame
    · subst hsame
      cases hother
      rw [hafter] at hwaiting'
      exact h.early other observation hfound hwaiting' who
    · exact h.early other observation' hother hwaiting' who
  unobserved other hother := by
    rw [set_observations] at hother
    split_ifs at hother with hsame
    obtain ⟨hticks, hadds⟩ := h.unobserved other hother
    refine ⟨?_, fun who => ?_⟩
    · rwa [ticks_set, ticks_record, if_neg Entry.noConfusion]
    · rw [adds_set, adds_record, if_neg (by simp [Ne.symm hsame])]
      exact hadds who
  fits other observation' hother := by
    rw [set_observations] at hother
    rw [ticks_set, ticks_record, if_neg Entry.noConfusion]
    split_ifs at hother with hsame
    · subst hsame
      cases hother
      have hfits := h.fits other observation hfound
      rw [hafter]
      exact ⟨hfits.timer, hfits.bounded, hfits.waiting⟩
    · exact h.fits other observation' hother
  defined := h.defined

-- An observation that has not been there before is like one without observers.
theorem Sound.open (h : Sound s fun _ _ => 0) (hnone : s.observations cmdlinePrefix = none)
    (hempty : observation.observers = []) (hfits : observation.Fits 0) :
    Sound (s.set cmdlinePrefix observation) fun _ _ => 0 where
  balance other who := by
    have hbalance := h.balance other who
    rw [calls_set, withdrawals_set, adds_set, owed_set, hempty, ite_self]
    split_ifs with hother
    · have hnothing : s.owed other = [] := by
        unfold State.owed
        rw [hother, hnone]
      rwa [hnothing] at hbalance
    · exact hbalance
  early other observation' hother hwaiting who := by
    rw [set_observations] at hother
    rw [calls_set]
    split_ifs at hother with hsame
    · have hbalance := h.balance cmdlinePrefix who
      rw [(h.unobserved cmdlinePrefix hnone).2 who] at hbalance
      rw [hsame]
      omega
    · exact h.early other observation' hother hwaiting who
  unobserved other hother := by
    rw [set_observations] at hother
    split_ifs at hother with hsame
    exact h.unobserved other hother
  fits other observation' hother := by
    rw [set_observations] at hother
    rw [ticks_set]
    split_ifs at hother with hsame
    · cases hother
      rw [hsame, (h.unobserved cmdlinePrefix hnone).1]
      exact hfits
    · exact h.fits other observation' hother
  defined := h.defined

theorem set_set (s : State) (cmdlinePrefix : CString) (observation after : ProcessObservation) :
    (s.set cmdlinePrefix observation).set cmdlinePrefix after = s.set cmdlinePrefix after := by
  unfold State.set
  simp

theorem Fits_created (timeout : Nat) : (⟨true, timeout, true, [], timeout⟩ :
    ProcessObservation).Fits 0 :=
  ⟨rfl, Nat.zero_le _, fun _ => ⟨rfl, Or.inl rfl⟩⟩

theorem Fits_found (timeout : Nat) : (⟨false, 0, false, [], timeout⟩ : ProcessObservation).Fits 0 :=
  ⟨rfl, Nat.zero_le _, fun h => absurd h Bool.false_ne_true⟩

theorem Sound.addObservation (h : Sound s fun _ _ => 0)
    (hnone : s.observations cmdlinePrefix = none) (timeout : Nat) (observer : ObserverRef)
    (outcomes : AddOutcomes) (removal : Option CString) :
    Sound (addObservation cmdlinePrefix timeout observer outcomes removal s).2 fun _ _ => 0 := by
  unfold Monitor.addObservation
  cases hsearch : outcomes.search with
  | error => exact h
  | notFound =>
      simp only
      split_ifs
      · have hopen := h.open hnone rfl (Fits_created timeout)
        have hadd := hopen.add observer (by rw [set_observations, if_pos rfl]) rfl
        rw [if_pos rfl, pendingAt_nil] at hadd
        rwa [show (s.set _ _).record _ = (s.record (.added cmdlinePrefix observer)).set _ _ from rfl,
          set_set] at hadd
      · exact h
  | found =>
      simp only
      split_ifs
      · have hopen := h.open hnone rfl (Fits_found timeout)
        have hadd := hopen.add observer (by rw [set_observations, if_pos rfl]) rfl
        rw [if_neg Bool.false_ne_true,
          show (s.set _ _).record _ = (s.record (.added cmdlinePrefix observer)).set _ _ from rfl,
          set_set] at hadd
        exact hadd.callFunction (by rw [set_observations, if_pos rfl]) rfl removal
      · exact h

theorem Sound.processMonitorAddObserver (h : Sound s fun _ _ => 0) (cmdlinePrefix : CString)
    (timeout : Nat) (observer : ObserverRef) (outcomes : AddOutcomes) (removal : Option CString) :
    Sound (processMonitorAddObserver cmdlinePrefix timeout observer outcomes removal s).2
      fun _ _ => 0 := by
  unfold Monitor.processMonitorAddObserver
  cases hfound : s.observations cmdlinePrefix with
  | none => exact h.addObservation hfound timeout observer outcomes removal
  | some observation =>
      simp only
      have hadd := h.add observer hfound rfl
      split_ifs with happended hwaiting
      · rwa [if_pos hwaiting, pendingAt_nil] at hadd
      · rw [if_neg hwaiting] at hadd
        refine @Sound.callFunction _ _ _
          { observation with observers := observation.observers ++ [observer] } _ hadd ?_
          (Bool.eq_false_iff.mpr hwaiting) removal
        rw [set_observations, if_pos rfl]
      · exact h

theorem Sound.next (h : Sound s fun _ _ => 0) {event : Event} (hnext : next s event = some s') :
    Sound s' fun _ _ => 0 := by
  cases event with
  | add cmdlinePrefix timeout observer outcomes removal =>
      simp only [Monitor.next] at hnext
      split_ifs at hnext
      cases hnext
      exact h.processMonitorAddObserver cmdlinePrefix timeout observer outcomes removal
  | remove cmdlinePrefix observer =>
      simp only [Monitor.next] at hnext
      split_ifs at hnext
      cases hnext
      exact h.removes (processMonitorRemoveObserver_removes cmdlinePrefix observer s)
  | tick cmdlinePrefix search removals =>
      simp only [Monitor.next] at hnext
      split_ifs at hnext with htimer
      cases hnext
      exact h.processMonitorUpdateObservation htimer.2 search removals

theorem init_sound : Sound init fun _ _ => 0 where
  balance _ _ := rfl
  early _ _ hfound := by cases hfound
  unobserved _ _ := ⟨rfl, fun _ => rfl⟩
  fits _ _ hfound := by cases hfound
  defined := rfl

theorem Sound.exact (h : Sound s fun _ _ => 0) : ObserversExact s where
  defined := h.defined
  once other who := by
    have hbalance := h.balance other who
    omega
  observed other who hadds hnone := by
    rw [(h.unobserved other hnone).2 who] at hadds
    exact absurd hadds (Nat.lt_irrefl 0)
  waiting other observation hfound hwaiting who := by
    have hearly := h.early other observation hfound hwaiting who
    have hbalance := h.balance other who
    rw [State.owed_of_some hfound, if_pos hwaiting] at hbalance
    exact ⟨hearly, by omega⟩
  finished other observation hfound hdone who := by
    have hbalance := h.balance other who
    rw [State.owed_of_some hfound, if_neg (by rw [hdone]; exact Bool.false_ne_true),
      List.count_nil] at hbalance
    exact hbalance
  ticks other observation hfound := by
    have hfits := h.fits other observation hfound
    exact ⟨hfits.bounded, fun hwaiting => Fits_tick hfits hwaiting⟩
  timer other observation hfound := (h.fits other observation hfound).timer

end Steps

section Reports

-- What calls of observers change neither, whatever is removed in them.
structure Calls (s s' : State) : Prop where
  adds : ∀ cmdlinePrefix observer, s'.adds cmdlinePrefix observer = s.adds cmdlinePrefix observer
  ticks : ∀ cmdlinePrefix, s'.ticks cmdlinePrefix = s.ticks cmdlinePrefix
  timeout : ∀ cmdlinePrefix after, s'.observations cmdlinePrefix = some after →
    ∃ before, s.observations cmdlinePrefix = some before ∧ after.timeout = before.timeout

theorem Calls.refl (s : State) : Calls s s :=
  ⟨fun _ _ => rfl, fun _ => rfl, fun _ after h => ⟨after, h, rfl⟩⟩

theorem Calls.trans {s'' : State} (h : Calls s s') (h' : Calls s' s'') : Calls s s'' where
  adds cmdlinePrefix observer := (h'.adds cmdlinePrefix observer).trans (h.adds _ _)
  ticks cmdlinePrefix := (h'.ticks cmdlinePrefix).trans (h.ticks _)
  timeout cmdlinePrefix after hafter := by
    obtain ⟨between, hbetween, hsame⟩ := h'.timeout cmdlinePrefix after hafter
    obtain ⟨before, hbefore, hsame'⟩ := h.timeout cmdlinePrefix between hbetween
    exact ⟨before, hbefore, hsame.trans hsame'⟩

theorem Removes.calls_of (h : Removes s s') : Calls s s' where
  adds := h.adds
  ticks := h.ticks
  timeout cmdlinePrefix after hafter := by
    obtain ⟨before, hbefore, hsame⟩ := h.some cmdlinePrefix after hafter
    exact ⟨before, hbefore, by rw [hsame]⟩

theorem callFunction_calls (cmdlinePrefix : CString) (observer : ObserverRef)
    (removal : Option CString) (s : State) :
    Calls s (callFunction cmdlinePrefix observer removal s) := by
  have hcalled : Calls s (s.record (.called cmdlinePrefix observer)) :=
    ⟨fun other who => by rw [adds_record, if_neg Entry.noConfusion, Nat.add_zero],
      fun other => by rw [ticks_record, if_neg Entry.noConfusion, Nat.add_zero],
      fun _ after h => ⟨after, h, rfl⟩⟩
  unfold callFunction
  cases removal with
  | none => exact hcalled
  | some other =>
      exact hcalled.trans (processMonitorRemoveObserver_removes other observer _).calls_of

theorem informObservers_calls (cmdlinePrefix : CString) (removals : Nat → Option CString) (i : Nat)
    (s : State) : Calls s (informObservers cmdlinePrefix removals i s) := by
  induction i generalizing s with
  | zero => exact Calls.refl s
  | succ i ih =>
      unfold informObservers
      cases (s.observations cmdlinePrefix).bind (·.observers[i]?) with
      | none => exact ⟨fun _ _ => rfl, fun _ => rfl, fun _ after h => ⟨after, h, rfl⟩⟩
      | some observer =>
          exact (callFunction_calls cmdlinePrefix observer (removals i) s).trans (ih _)

-- An observer that removes itself from a finished observation is not withdrawn from it.
theorem callFunction_withdrawals {removal : Option CString}
    (hown : removal = none ∨ removal = some cmdlinePrefix)
    (hfound : s.observations cmdlinePrefix = some observation)
    (hdone : observation.waiting = false) (other : CString) (who : ObserverRef) :
    (callFunction cmdlinePrefix observer removal s).withdrawals other who =
      s.withdrawals other who := by
  have hlog : (callFunction cmdlinePrefix observer removal s).log =
      .called cmdlinePrefix observer :: s.log := by
    unfold callFunction
    rcases hown with rfl | rfl
    · rfl
    · simp only
      unfold processMonitorRemoveObserver
      rw [record_observations, hfound]
      simp only [hdone, Bool.false_eq_true, if_false]
      split_ifs <;> rfl
  unfold State.withdrawals
  rw [hlog, List.count_cons_of_ne Entry.noConfusion]

theorem informObservers_withdrawals {removals : Nat → Option CString}
    (hown : ∀ k, removals k = none ∨ removals k = some cmdlinePrefix) {i : Nat}
    (hfound : s.observations cmdlinePrefix = some observation)
    (hdone : observation.waiting = false) (other : CString) (who : ObserverRef) :
    (informObservers cmdlinePrefix removals i s).withdrawals other who =
      s.withdrawals other who := by
  induction i generalizing s observation with
  | zero => rfl
  | succ i ih =>
      unfold informObservers
      cases (s.observations cmdlinePrefix).bind (·.observers[i]?) with
      | none => rfl
      | some observer =>
          obtain ⟨observers, hnext, -⟩ := callFunction_observers hfound observer (removals i)
          exact (@ih _ { observation with observers } hnext hdone).trans
            (callFunction_withdrawals (hown i) hfound hdone other who)

-- The observation that an observer is added to, and the call if it is finished already.
theorem reported_add {timeout : Nat} {outcomes : AddOutcomes} {removal : Option CString}
    {after : ProcessObservation} {stored : State}
    (hadded : (processMonitorAddObserver cmdlinePrefix timeout observer outcomes removal s).1 = true)
    (hstored : (s.record (.added cmdlinePrefix observer)).set cmdlinePrefix after = stored)
    (hstate : s' = stored ∨
      after.waiting = false ∧ s' = callFunction cmdlinePrefix observer removal stored)
    (htimeout : (∃ before, s.observations cmdlinePrefix = some before ∧
        after.timeout = before.timeout) ∨
      s.observations cmdlinePrefix = none ∧ after.timeout = timeout) :
    Reported s (.add cmdlinePrefix timeout observer outcomes removal) s' := by
  have hfound : stored.observations cmdlinePrefix = some after := by
    rw [← hstored, set_observations, if_pos rfl]
  have hcalls : Calls stored s' := by
    rcases hstate with rfl | ⟨-, rfl⟩
    · exact Calls.refl s'
    · exact callFunction_calls cmdlinePrefix observer removal stored
  have hwithdrawals : (removal = none ∨ removal = some cmdlinePrefix) → ∀ other who,
      s'.withdrawals other who = stored.withdrawals other who := by
    intro hown other who
    rcases hstate with rfl | ⟨hdone, rfl⟩
    · rfl
    · exact callFunction_withdrawals hown hfound hdone other who
  refine ⟨fun other who => ?_, fun hown other who => ?_, fun other => ?_, ?_,
    fun other last hlast => ?_⟩
  · rw [hcalls.adds, ← hstored, adds_set, adds_record]
    simp only [Event.adds, hadded, and_true, Entry.added.injEq]
  · rw [hwithdrawals hown, ← hstored, withdrawals_set, withdrawals_record,
      if_neg Entry.noConfusion]
    rfl
  · rw [hcalls.ticks, ← hstored, ticks_set, ticks_record, if_neg Entry.noConfusion]
    rfl
  · intro _ _ _ _ _ hevent _ _ _ _
    cases hevent
    exact hadded
  · obtain ⟨before, hbefore, hsame⟩ := hcalls.timeout other last hlast
    rw [← hstored, set_observations] at hbefore
    split_ifs at hbefore with hother
    · cases hbefore
      rw [hother, hsame]
      refine htimeout.imp id fun hnew => ⟨hnew.1, observer, outcomes, removal, ?_⟩
      rw [hnew.2]
    · exact Or.inl ⟨before, hbefore, hsame⟩

theorem reported_refused {timeout : Nat} {outcomes : AddOutcomes} {removal : Option CString}
    (hrefused :
      (processMonitorAddObserver cmdlinePrefix timeout observer outcomes removal s).1 = false)
    (hfails : ¬(outcomes.search ≠ .error ∧ outcomes.created = true ∧ outcomes.createTimer = true ∧
      outcomes.configureTimer = true)) :
    Reported s (.add cmdlinePrefix timeout observer outcomes removal) s := by
  refine ⟨fun other who => ?_, fun _ _ _ => rfl, fun _ => rfl, ?_,
    fun _ after hafter => Or.inl ⟨after, hafter, rfl⟩⟩
  · simp only [Event.adds, hrefused, Bool.false_eq_true, and_false, if_false, Nat.add_zero]
  · intro _ _ _ _ _ hevent hsearch hcreated htimer hconfigured
    cases hevent
    exact absurd ⟨hsearch, hcreated, htimer, hconfigured⟩ hfails

theorem processMonitorAddObserver_reported (cmdlinePrefix : CString) (timeout : Nat)
    (observer : ObserverRef) (outcomes : AddOutcomes) (removal : Option CString) (s : State) :
    Reported s (.add cmdlinePrefix timeout observer outcomes removal)
      (processMonitorAddObserver cmdlinePrefix timeout observer outcomes removal s).2 := by
  generalize hresult :
    processMonitorAddObserver cmdlinePrefix timeout observer outcomes removal s = result
  have hresult' := hresult
  unfold processMonitorAddObserver at hresult
  cases hfound : s.observations cmdlinePrefix with
  | some observation =>
      rw [hfound] at hresult
      simp only at hresult
      split_ifs at hresult with happended hwaiting
      · subst hresult
        exact reported_add (congrArg Prod.fst hresult') rfl (Or.inl rfl)
          (Or.inl ⟨observation, hfound, rfl⟩)
      · subst hresult
        refine @reported_add _ _ _ _ _ _ _
          { observation with observers := observation.observers ++ [observer] } _
          (congrArg Prod.fst hresult') rfl (Or.inr ⟨?_, rfl⟩) (Or.inl ⟨observation, hfound, rfl⟩)
        exact Bool.eq_false_iff.mpr hwaiting
      · subst hresult
        refine reported_refused (congrArg Prod.fst hresult') fun hall => happended ?_
        have hcreated := hall.2.1
        unfold AddOutcomes.created at hcreated
        exact (of_decide_eq_true hcreated).2.2.2
  | none =>
      rw [hfound] at hresult
      simp only at hresult
      unfold addObservation at hresult
      cases hsearch : outcomes.search with
      | error =>
          rw [hsearch] at hresult
          subst hresult
          exact reported_refused (congrArg Prod.fst hresult') fun hall => hall.1 hsearch
      | notFound =>
          rw [hsearch] at hresult
          simp only at hresult
          split_ifs at hresult with hall
          · subst hresult
            exact reported_add (congrArg Prod.fst hresult') rfl (Or.inl rfl)
              (Or.inr ⟨hfound, rfl⟩)
          · subst hresult
            exact reported_refused (congrArg Prod.fst hresult') fun hsome => hall hsome.2
      | found =>
          rw [hsearch] at hresult
          simp only at hresult
          split_ifs at hresult with hcreated
          · subst hresult
            exact reported_add (congrArg Prod.fst hresult') rfl (Or.inr ⟨rfl, rfl⟩)
              (Or.inr ⟨hfound, rfl⟩)
          · subst hresult
            exact reported_refused (congrArg Prod.fst hresult') fun hall => hcreated hall.2.1

theorem processMonitorRemoveObserver_reported (cmdlinePrefix : CString) (observer : ObserverRef)
    (s : State) : Reported s (.remove cmdlinePrefix observer)
      (processMonitorRemoveObserver cmdlinePrefix observer s) := by
  have hcalls := (processMonitorRemoveObserver_removes cmdlinePrefix observer s).calls_of
  refine ⟨hcalls.adds, fun _ other who => ?_, hcalls.ticks, fun _ _ _ _ _ hevent => (nomatch hevent),
    fun other after hafter => Or.inl (hcalls.timeout other after hafter)⟩
  simp only [Event.withdrawals]
  unfold processMonitorRemoveObserver
  cases hfound : s.observations cmdlinePrefix with
  | none =>
      rw [if_neg, Nat.add_zero]
      rintro ⟨rfl, rfl, hany⟩
      rw [hfound] at hany
      cases hany
  | some observation =>
      simp only
      split_ifs with hmem hwaiting hcounts hcounts hcounts
      · rw [withdrawals_record, withdrawals_set]
        obtain ⟨rfl, rfl, -⟩ := hcounts
        rw [if_pos rfl]
      · rw [withdrawals_record, withdrawals_set, if_neg]
        intro hentry
        cases hentry
        refine hcounts ⟨rfl, rfl, ?_⟩
        rw [hfound]
        exact decide_eq_true ⟨hwaiting, hmem⟩
      · obtain ⟨rfl, rfl, hany⟩ := hcounts
        rw [hfound] at hany
        exact absurd (of_decide_eq_true hany).1 hwaiting
      · rfl
      · obtain ⟨rfl, rfl, hany⟩ := hcounts
        rw [hfound] at hany
        exact absurd (of_decide_eq_true hany).2 hmem
      · rfl

theorem processMonitorUpdateObservation_reported (cmdlinePrefix : CString) (search : SearchResult)
    (removals : Nat → Option CString) (s : State) :
    Reported s (.tick cmdlinePrefix search removals)
      (processMonitorUpdateObservation cmdlinePrefix search removals
        (s.record (.ticked cmdlinePrefix))) := by
  generalize hticked : s.record (.ticked cmdlinePrefix) = ticked
  suffices hcalls : Calls ticked
      (processMonitorUpdateObservation cmdlinePrefix search removals ticked) ∧
      ((Event.tick cmdlinePrefix search removals).Own → ∀ other who,
        (processMonitorUpdateObservation cmdlinePrefix search removals ticked).withdrawals other
          who = ticked.withdrawals other who) by
    obtain ⟨hcalls, hwithdrawals⟩ := hcalls
    refine ⟨fun other who => ?_, fun hown other who => ?_, fun other => ?_,
      fun _ _ _ _ _ hevent => (nomatch hevent), fun other after hafter => Or.inl ?_⟩
    · rw [hcalls.adds, ← hticked, adds_record, if_neg Entry.noConfusion]
      rfl
    · rw [hwithdrawals hown, ← hticked, withdrawals_record, if_neg Entry.noConfusion]
      rfl
    · rw [hcalls.ticks, ← hticked, ticks_record]
      simp only [Event.ticks, Entry.ticked.injEq]
    · obtain ⟨before, hbefore, hsame⟩ := hcalls.timeout other after hafter
      rw [← hticked] at hbefore
      exact ⟨before, hbefore, hsame⟩
  have hset : ∀ observation after : ProcessObservation,
      ticked.observations cmdlinePrefix = some observation → after.timeout = observation.timeout →
        Calls ticked (ticked.set cmdlinePrefix after) := by
    intro observation after hfound htimeout
    refine ⟨fun _ _ => rfl, fun _ => rfl, fun other last hlast => ?_⟩
    rw [set_observations] at hlast
    split_ifs at hlast with hother
    · cases hlast
      exact ⟨observation, by rw [hother, hfound], htimeout⟩
    · exact ⟨last, hlast, rfl⟩
  unfold processMonitorUpdateObservation
  cases hfound : ticked.observations cmdlinePrefix with
  | none => exact ⟨Calls.refl ticked, fun _ _ _ => rfl⟩
  | some observation =>
      have htimeout : (checkProc search observation).timeout = observation.timeout := by
        unfold checkProc
        cases search <;> rfl
      simp only
      by_cases hwaiting : observation.waiting = true
      · rw [if_neg (not_not.mpr hwaiting)]
        by_cases hstill : (checkProc search observation).waiting = true
        · rw [if_pos hstill]
          exact ⟨hset observation _ hfound htimeout, fun _ _ _ => rfl⟩
        · rw [if_neg hstill]
          refine ⟨(hset observation
            { checkProc search observation with timer := false, remainingTimeout := 0 } hfound
            htimeout).trans (informObservers_calls _ _ _ _), fun hown other who => ?_⟩
          refine @informObservers_withdrawals _ cmdlinePrefix
            { checkProc search observation with timer := false, remainingTimeout := 0 } removals hown
            _ ?_ (Bool.eq_false_iff.mpr hstill) other who
          rw [set_observations, if_pos rfl]
      · rw [if_pos hwaiting]
        exact ⟨hset observation _ hfound rfl, fun _ _ _ => rfl⟩

theorem next_reported {event : Event} (hnext : next s event = some s') :
    Reported s event s' := by
  cases event with
  | add cmdlinePrefix timeout observer outcomes removal =>
      simp only [Monitor.next] at hnext
      split_ifs at hnext
      cases hnext
      exact processMonitorAddObserver_reported cmdlinePrefix timeout observer outcomes removal s
  | remove cmdlinePrefix observer =>
      simp only [Monitor.next] at hnext
      split_ifs at hnext
      cases hnext
      exact processMonitorRemoveObserver_reported cmdlinePrefix observer s
  | tick cmdlinePrefix search removals =>
      simp only [Monitor.next] at hnext
      split_ifs at hnext
      cases hnext
      exact processMonitorUpdateObservation_reported cmdlinePrefix search removals s

end Reports

section Programs

open Scheduling

-- Exactly the programs that wait for lxpanel are registered, each of them once.
def WaitersRegistered (w : World) : Prop :=
  ∀ p, w.daemon.observers.count p =
    if (w.programs.get p).any (·.scheduler.observerState = .waiting) then 1 else 0

theorem waitersRegistered_of_inv {w : World} (h : w.Inv) : WaitersRegistered w := by
  intro p
  cases hprogram : w.programs.get p with
  | none =>
      rw [Option.any_none, if_neg Bool.false_ne_true, List.count_eq_zero]
      intro hmem
      obtain ⟨program, hget⟩ := h.core.observers p hmem
      rw [hprogram] at hget
      cases hget
  | some program =>
      rw [(h.core.base p program hprogram).observers, Option.any_some]
      simp

end Programs

theorem observers_exact :
    (∀ events, Trace.Always next ObserversExact init events ∧
      Trace.Along next Reported init events) ∧
      ∀ x11Enabled events, Trace.Always Scheduling.World.next WaitersRegistered
        (Scheduling.World.init x11Enabled) events := by
  constructor
  · intro events
    have hkeeps : ∀ s event s', Sound s (fun _ _ => 0) → next s event = some s' →
        Sound s' fun _ _ => 0 := fun _ _ _ h hnext => h.next hnext
    exact ⟨Trace.always_of_step hkeeps (fun _ h => h.exact) init_sound events,
      Trace.along_of_step hkeeps (fun _ _ _ _ hnext => next_reported hnext) init_sound events⟩
  · intro x11Enabled events
    exact Trace.Always.mono (fun _ h => waitersRegistered_of_inv h)
      (Scheduling.World.always_inv x11Enabled events)

end RedApid.Monitor
