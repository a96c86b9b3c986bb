import RedApid.Files.AsyncRead

namespace RedApid.AsyncRead

open Files

variable {length : UInt64} {s s' : State} {entries : List Entry} {entry : Entry}
  {callback : AsyncFileReadCallback} {errorCode : APIE} {bytes : List UInt8}

section Callbacks

-- The callback has these bytes and nothing else.
structure Carries (errorCode : APIE) (bytes : List UInt8) (callback : AsyncFileReadCallback) :
    Prop where
  errorCode : callback.errorCode = errorCode
  length : callback.lengthRead.toNat = bytes.length
  carried : callback.bytes = bytes
  zeros : ∀ i, bytes.length ≤ i.val → callback.buffer i = 0
  fits : bytes.length ≤ FILE_MAX_READ_ASYNC_BUFFER_LENGTH

theorem memset_memcpy (bytes : List UInt8) (buffer : Buffer)
    {i : Fin FILE_MAX_READ_ASYNC_BUFFER_LENGTH} (hi : i.val < bytes.length) :
    memset bytes.length (memcpy bytes buffer) i = bytes[i.val] := by
  unfold memset memcpy
  rw [if_pos hi, List.getD_eq_getElem?_getD, List.getElem?_eq_getElem hi, Option.getD_some]

theorem send_carries (sender : Sender) (errorCode : APIE)
    (hreferences : 0 < s.file.externalReferenceCount)
    (hfits : bytes.length ≤ FILE_MAX_READ_ASYNC_BUFFER_LENGTH) :
    ∃ callback, Carries errorCode bytes callback ∧
      fileSendAsyncReadCallback sender errorCode bytes s =
        { s with packet := callback.buffer, log := s.log ++ [.readCallback sender callback] } := by
  refine ⟨⟨errorCode, bytes.length.toUInt8, memset bytes.length (memcpy bytes s.packet)⟩, ?_, ?_⟩
  · have hlength : bytes.length.toUInt8.toNat = bytes.length := by
      unfold FILE_MAX_READ_ASYNC_BUFFER_LENGTH at hfits
      rw [Nat.toUInt8, UInt8.toNat_ofNat']
      exact Nat.mod_eq_of_lt (by omega)
    refine ⟨rfl, hlength, ?_, fun i hi => ?_, hfits⟩
    · unfold AsyncFileReadCallback.bytes
      rw [hlength]
      apply List.ext_getElem
      · rw [List.length_take, List.length_ofFn]
        omega
      · intro i hi hi'
        rw [List.getElem_take, List.getElem_ofFn]
        exact memset_memcpy bytes s.packet hi'
    · unfold memset
      exact if_neg (by omega)
  · unfold fileSendAsyncReadCallback apiSendAsyncFileReadCallback State.record
    rw [if_pos hreferences]

end Callbacks

section Logs

-- What comes up in the log of a transfer, besides what the handler does.
inductive Rejection : Entry → Prop where
  | request (callback : AsyncFileReadCallback) : callback.errorCode ≠ .internalError →
      Carries callback.errorCode [] callback → Rejection (.readCallback .request callback)
  | write (errorCode : APIE) (lengthWritten : UInt8) : Rejection (.writeCallback errorCode lengthWritten)

-- The log of a transfer that goes on.
inductive Active (length : UInt64) : List Entry → Prop where
  | nil : Active length []
  | data {entries : List Entry} {bytes : List UInt8} {callback : AsyncFileReadCallback} :
      Active length entries → Carries .success bytes callback → bytes ≠ [] →
      (entries.flatMap Entry.delivered).length + bytes.length < length.toNat →
      Active length (entries ++ [.returned bytes] ++ [.readCallback .handler callback])
  | rejected {entries : List Entry} {entry : Entry} :
      Active length entries → Rejection entry → Active length (entries ++ [entry])

-- The log of a transfer that has ended.
inductive Over (length : UInt64) : List Entry → Prop where
  | finished {entries : List Entry} {bytes : List UInt8} {callback : AsyncFileReadCallback} :
      Active length entries → Carries .success bytes callback →
      (bytes = [] ∨ (entries.flatMap Entry.delivered).length + bytes.length = length.toNat) →
      Over length (entries ++ [.returned bytes] ++ [.readCallback .handler callback])
  | failed {entries : List Entry} {callback : AsyncFileReadCallback} :
      Active length entries → callback.errorCode ≠ .success →
      Carries callback.errorCode [] callback →
      Over length (entries ++ [.readCallback .handler callback])
  | aborted {entries : List Entry} {callback : AsyncFileReadCallback} :
      Active length entries → Carries .operationAborted [] callback →
      Over length (entries ++ [.readCallback .abort callback])
  | after {entries : List Entry} {entry : Entry} :
      Over length entries → Rejection entry ∨ entry = .io → Over length (entries ++ [entry])

-- What holds of a transfer, whether it goes on or not.
structure Sound (length : UInt64) (entries : List Entry) : Prop where
  delivered : entries.flatMap Entry.delivered = entries.flatMap Entry.returnedBytes
  total : (entries.flatMap Entry.delivered).length ≤ length.toNat
  callbacks : ∀ sender callback, .readCallback sender callback ∈ entries →
    callback.lengthRead.toNat ≤ FILE_MAX_READ_ASYNC_BUFFER_LENGTH ∧
      ∀ i, callback.lengthRead.toNat ≤ i.val → callback.buffer i = 0
  goes : ∀ entry ∈ entries, entry.begins = false

theorem Sound.nil (length : UInt64) : Sound length [] :=
  ⟨rfl, Nat.zero_le _, fun _ _ hmem => absurd hmem List.not_mem_nil,
    fun _ hmem => absurd hmem List.not_mem_nil⟩

-- An entry that delivers nothing.
theorem Sound.concat (h : Sound length entries) (hdelivered : entry.delivered = [])
    (hreturned : entry.returnedBytes = []) (hgoes : entry.begins = false)
    (hcallback : ∀ sender callback, entry = .readCallback sender callback →
      Carries callback.errorCode [] callback) : Sound length (entries ++ [entry]) where
  delivered := by
    rw [List.flatMap_append, List.flatMap_append, List.flatMap_singleton, List.flatMap_singleton,
      hdelivered, hreturned, h.delivered]
  total := by
    rw [List.flatMap_append, List.flatMap_singleton, hdelivered, List.append_nil]
    exact h.total
  callbacks sender callback hmem := by
    rcases List.mem_append.mp hmem with hmem | hmem
    · exact h.callbacks sender callback hmem
    · have hcarries := hcallback sender callback (List.mem_singleton.mp hmem).symm
      rw [hcarries.length]
      exact ⟨Nat.zero_le _, hcarries.zeros⟩
  goes other hmem := by
    rcases List.mem_append.mp hmem with hmem | hmem
    · exact h.goes other hmem
    · rwa [List.mem_singleton.mp hmem]

theorem Carries.delivered (h : Carries .success bytes callback) :
    (Entry.readCallback .handler callback).delivered = bytes := by
  simp only [Entry.delivered]
  rw [if_pos h.errorCode, h.carried]

theorem Sound.data (h : Sound length entries) (hcarries : Carries .success bytes callback)
    (htotal : (entries.flatMap Entry.delivered).length + bytes.length ≤ length.toNat) :
    Sound length (entries ++ [.returned bytes] ++ [.readCallback .handler callback]) where
  delivered := by
    simp only [List.flatMap_append, List.flatMap_singleton, hcarries.delivered, h.delivered]
    simp [Entry.delivered, Entry.returnedBytes]
  total := by
    simp only [List.flatMap_append, List.flatMap_singleton, hcarries.delivered]
    simp only [Entry.delivered, List.append_nil, List.length_append]
    exact htotal
  callbacks sender other hmem := by
    rw [List.append_assoc] at hmem
    rcases List.mem_append.mp hmem with hmem | hmem
    · exact h.callbacks sender other hmem
    · rcases List.mem_cons.mp hmem with hfirst | hlast
      · cases hfirst
      · cases List.mem_singleton.mp hlast
        rw [hcarries.length]
        exact ⟨hcarries.fits, hcarries.zeros⟩
  goes other hmem := by
    rw [List.append_assoc] at hmem
    rcases List.mem_append.mp hmem with hmem | hmem
    · exact h.goes other hmem
    · rcases List.mem_cons.mp hmem with rfl | hlast
      · rfl
      · rw [List.mem_singleton.mp hlast]
        rfl

theorem Sound.rejected (h : Sound length entries) (hentry : Rejection entry) :
    Sound length (entries ++ [entry]) := by
  cases hentry with
  | request callback hcode hcarries =>
      refine h.concat rfl rfl ?_ fun sender other hsame => ?_
      · unfold Entry.begins
        exact decide_eq_false hcode
      · cases hsame
        exact hcarries
  | write errorCode lengthWritten => exact h.concat rfl rfl rfl fun _ _ hsame => by cases hsame

theorem ended_concat : Ended length (entries ++ [entry]) ↔
    Ended length entries ∨ Ends length entries entry := by
  constructor
  · rintro ⟨front, other, back, hsplit, hends⟩
    rcases List.eq_nil_or_concat back with rfl | ⟨init, last, rfl⟩
    · obtain ⟨rfl, hlast⟩ := List.append_inj' hsplit rfl
      rw [List.singleton_inj.mp hlast]
      exact Or.inr hends
    · rw [List.concat_eq_append, ← List.cons_append, ← List.append_assoc] at hsplit
      exact Or.inl ⟨front, other, init, (List.append_inj' hsplit rfl).1, hends⟩
  · rintro (⟨front, other, back, rfl, hends⟩ | hends)
    · exact ⟨front, other, back ++ [entry], by simp, hends⟩
    · exact ⟨entries, entry, [], rfl, hends⟩

theorem Rejection.not_ends (h : Rejection entry) (length : UInt64) (entries : List Entry) :
    ¬Ends length entries entry := by
  cases h with
  | request callback hcode hcarries => exact not_false
  | write errorCode lengthWritten => exact not_false

theorem Active.sound (h : Active length entries) : Sound length entries := by
  induction h with
  | nil => exact Sound.nil length
  | data _ hcarries _ htotal ih => exact ih.data hcarries (Nat.le_of_lt htotal)
  | rejected _ hentry ih => exact ih.rejected hentry

theorem Active.not_ended (h : Active length entries) : ¬Ended length entries := by
  induction h with
  | nil =>
      rintro ⟨front, other, back, hsplit, -⟩
      exact absurd hsplit.symm (List.append_ne_nil_of_right_ne_nil _ (List.cons_ne_nil _ _))
  | @data entries bytes callback hactive hcarries hne htotal ih =>
      rw [ended_concat, ended_concat]
      rintro ((hended | hends) | hends)
      · exact ih hended
      · exact hends
      · rcases hends with hcode | hzero | hreached
        · exact hcode hcarries.errorCode
        · have hlength := hcarries.length
          rw [hzero] at hlength
          exact hne (List.length_eq_zero_iff.mp hlength.symm)
        · rw [List.flatMap_append, List.length_append, hcarries.length] at hreached
          have hnone : ([Entry.returned bytes].flatMap Entry.delivered).length = 0 := rfl
          omega
  | rejected hactive hentry ih =>
      rw [ended_concat]
      rintro (hended | hends)
      · exact ih hended
      · exact hentry.not_ends _ _ hends

theorem Active.no_io (h : Active length entries) : .io ∉ entries := by
  induction h with
  | nil => exact List.not_mem_nil
  | data _ _ _ _ ih =>
      simp only [List.mem_append, List.mem_singleton, reduceCtorEq, or_false]
      exact ih
  | rejected _ hentry ih =>
      rw [List.mem_append, List.mem_singleton]
      rintro (hmem | hsame)
      · exact ih hmem
      · rw [← hsame] at hentry
        cases hentry

theorem Over.sound (h : Over length entries) : Sound length entries := by
  induction h with
  | finished hactive hcarries hdone =>
      refine hactive.sound.data hcarries ?_
      rcases hdone with rfl | hreached
      · exact hactive.sound.total
      · exact Nat.le_of_eq hreached
  | @failed entries callback hactive hcode hcarries =>
      refine hactive.sound.concat ?_ rfl rfl fun sender other hsame => ?_
      · simp only [Entry.delivered]
        exact if_neg hcode
      · cases hsame
        exact hcarries
  | aborted hactive hcarries =>
      refine hactive.sound.concat rfl rfl rfl fun sender other hsame => ?_
      cases hsame
      rw [hcarries.errorCode]
      exact hcarries
  | after _ hentry ih =>
      rcases hentry with hentry | rfl
      · exact ih.rejected hentry
      · exact ih.concat rfl rfl rfl fun _ _ hsame => by cases hsame

theorem Over.ended (h : Over length entries) : Ended length entries := by
  induction h with
  | @finished entries bytes callback hactive hcarries hdone =>
      refine ended_concat.mpr (Or.inr (Or.inr ?_))
      rcases hdone with rfl | hreached
      · exact Or.inl (UInt8.toNat_inj.mp hcarries.length)
      · right
        rw [List.flatMap_append, List.length_append, hcarries.length, ← hreached]
        rfl
  | failed hactive hcode hcarries => exact ended_concat.mpr (Or.inr (Or.inl hcode))
  | aborted hactive hcarries => exact ended_concat.mpr (Or.inr hcarries.errorCode)
  | after _ _ ih => exact ended_concat.mpr (Or.inl ih)

-- Only the last entry of the transfer itself ends it.
theorem Over.quiet (h : Over length entries) {front back : List Entry} {other : Entry}
    (hsplit : entries = front ++ other :: back) (hends : Ends length front other) :
    ∀ later ∈ back, ¬later.transfers := by
  induction h generalizing back with
  | @finished entries bytes callback hactive hcarries hdone =>
      rcases List.eq_nil_or_concat back with rfl | ⟨init, last, rfl⟩
      · exact fun _ hmem => absurd hmem List.not_mem_nil
      · rw [List.concat_eq_append, ← List.cons_append, ← List.append_assoc] at hsplit
        have hended : Ended length (entries ++ [.returned bytes]) :=
          ⟨front, other, init, (List.append_inj' hsplit rfl).1, hends⟩
        rcases ended_concat.mp hended with hended | hends
        · exact absurd hended hactive.not_ended
        · exact hends.elim
  | failed hactive hcode hcarries =>
      rcases List.eq_nil_or_concat back with rfl | ⟨init, last, rfl⟩
      · exact fun _ hmem => absurd hmem List.not_mem_nil
      · rw [List.concat_eq_append, ← List.cons_append, ← List.append_assoc] at hsplit
        exact absurd ⟨front, other, init, (List.append_inj' hsplit rfl).1, hends⟩ hactive.not_ended
  | aborted hactive hcarries =>
      rcases List.eq_nil_or_concat back with rfl | ⟨init, last, rfl⟩
      · exact fun _ hmem => absurd hmem List.not_mem_nil
      · rw [List.concat_eq_append, ← List.cons_append, ← List.append_assoc] at hsplit
        exact absurd ⟨front, other, init, (List.append_inj' hsplit rfl).1, hends⟩ hactive.not_ended
  | after _ hentry ih =>
      rcases List.eq_nil_or_concat back with rfl | ⟨init, last, rfl⟩
      · exact fun _ hmem => absurd hmem List.not_mem_nil
      · rw [List.concat_eq_append, ← List.cons_append, ← List.append_assoc] at hsplit
        obtain ⟨hinit, hlast⟩ := List.append_inj' hsplit rfl
        rw [List.concat_eq_append]
        intro later hmem
        rcases List.mem_append.mp hmem with hmem | hmem
        · exact ih hinit later hmem
        · rw [List.mem_singleton.mp hmem, ← List.singleton_inj.mp hlast]
          rcases hentry with hentry | rfl
          · cases hentry with
            | request callback hcode hcarries => exact not_false
            | write errorCode lengthWritten => exact not_false
          · exact not_false

end Logs

section Steps

-- The file agrees with the log of the transfer, as long as no other one has been tried.
inductive Phase (length : UInt64) (s : State) (entries : List Entry) : Prop where
  | active : Active length entries → s.file.asyncReadInProgress = true → s.registered = true →
      s.file.lengthToReadAsync.toNat + (entries.flatMap Entry.delivered).length = length.toNat →
      Phase length s entries
  | settled : Over length entries → s.file.asyncReadInProgress = false →
      s.file.lengthToReadAsync = 0 → s.registered = false → Phase length s entries
  | left {front back : List Entry} {entry : Entry} : entries = front ++ entry :: back →
      Over length front → entry.begins = true → Phase length s entries

structure Invariant (length : UInt64) (s : State) : Prop where
  references : 0 < s.file.externalReferenceCount
  phase : ∃ entries, s.log = .accepted length :: entries ∧ Phase length s entries

theorem Rejection.delivered (h : Rejection entry) : entry.delivered = [] := by
  cases h <;> rfl

theorem Phase.rejected (h : Phase length s entries) (hentry : Rejection entry)
    (hfile : s'.file = s.file) (hregistered : s'.registered = s.registered) :
    Phase length s' (entries ++ [entry]) := by
  cases h with
  | active hactive hprogress hsource hleft =>
      refine .active (hactive.rejected hentry) (by rwa [hfile]) (by rwa [hregistered]) ?_
      rw [hfile, List.flatMap_append, List.flatMap_singleton, hentry.delivered, List.append_nil]
      exact hleft
  | settled hover hprogress hleft hsource =>
      exact .settled (hover.after (Or.inl hentry)) (by rwa [hfile]) (by rwa [hfile])
        (by rwa [hregistered])
  | @left front back first hsplit hover hbegins =>
      exact @Phase.left _ _ _ front (back ++ [entry]) first (by rw [hsplit]; simp) hover hbegins

-- A log that only grows.
theorem Phase.grow {front back : List Entry} {first : Entry} (hover : Over length front)
    (hbegins : first.begins = true) (hsplit : entries = front ++ first :: back)
    (more : List Entry) (s' : State) : Phase length s' (entries ++ more) :=
  @Phase.left _ _ _ front (back ++ more) first (by rw [hsplit]; simp) hover hbegins

theorem Invariant.request (h : Invariant length s) (hcode : errorCode ≠ .internalError) :
    Invariant length (fileSendAsyncReadCallback .request errorCode [] s) := by
  obtain ⟨callback, hcarries, hsend⟩ :=
    @send_carries _ [] .request errorCode h.references (Nat.zero_le _)
  obtain ⟨entries, hlog, hphase⟩ := h.phase
  rw [hsend]
  refine ⟨h.references, entries ++ [.readCallback .request callback], ?_, ?_⟩
  · simp only [hlog, List.cons_append]
  · refine hphase.rejected (.request callback ?_ ?_) rfl rfl
    · rwa [hcarries.errorCode]
    · rwa [hcarries.errorCode]

theorem Invariant.writeCallback (h : Invariant length s) (errorCode : APIE)
    (lengthWritten : UInt8) :
    Invariant length (fileSendAsyncWriteCallback errorCode lengthWritten s) := by
  obtain ⟨entries, hlog, hphase⟩ := h.phase
  unfold fileSendAsyncWriteCallback
  rw [if_pos h.references]
  refine ⟨h.references, entries ++ [.writeCallback errorCode lengthWritten], ?_,
    hphase.rejected (.write errorCode lengthWritten) rfl rfl⟩
  unfold State.record
  simp only [hlog, List.cons_append]

-- Somebody else can use the file if no transfer is in progress.
theorem Invariant.io (h : Invariant length s) (hidle : ¬s.file.asyncReadInProgress = true) :
    Invariant length (s.record .io) := by
  obtain ⟨entries, hlog, hphase⟩ := h.phase
  refine ⟨h.references, entries ++ [.io], ?_, ?_⟩
  · unfold State.record
    simp only [hlog, List.cons_append]
  · cases hphase with
    | active _ hprogress _ _ => exact absurd hprogress hidle
    | settled hover hprogress hleft hsource =>
        exact .settled (hover.after (Or.inr rfl)) hprogress hleft hsource
    | left hsplit hover hbegins => exact Phase.grow hover hbegins hsplit _ _

theorem Invariant.fileReadAsync (h : Invariant length s) (other : UInt64) (added : Bool) :
    Invariant length (fileReadAsync other added s).2 := by
  unfold AsyncRead.fileReadAsync
  split_ifs with hrange hprogress hadded
  · exact h.request (by decide)
  · exact h.request (by decide)
  · obtain ⟨entries, hlog, hphase⟩ := h.phase
    refine ⟨h.references, entries ++ [.accepted other], ?_, ?_⟩
    · unfold State.record setAsyncRead
      simp only [hlog, List.cons_append]
    · cases hphase with
      | active _ hactive _ _ => exact absurd hactive hprogress
      | settled hover _ _ _ => exact @Phase.left _ _ _ entries [] (.accepted other) rfl hover rfl
      | left hsplit hover hbegins => exact Phase.grow hover hbegins hsplit _ _
  · -- this is not the transfer any more
    obtain ⟨callback, hcarries, hsend⟩ := @send_carries (setAsyncRead true other s) [] .request
      .internalError h.references (Nat.zero_le _)
    obtain ⟨entries, hlog, hphase⟩ := h.phase
    simp only
    rw [hsend]
    refine ⟨h.references, entries ++ [.readCallback .request callback], ?_, ?_⟩
    · unfold setAsyncRead
      simp only [hlog, List.cons_append]
    · cases hphase with
      | active _ hactive _ _ => exact absurd hactive hprogress
      | settled hover _ _ _ =>
          refine @Phase.left _ _ _ entries [] (.readCallback .request callback) rfl hover ?_
          exact decide_eq_true hcarries.errorCode
      | left hsplit hover hbegins => exact Phase.grow hover hbegins hsplit _ _

theorem Invariant.fileAbortAsyncRead (h : Invariant length s) :
    Invariant length (fileAbortAsyncRead s) := by
  unfold AsyncRead.fileAbortAsyncRead
  split_ifs with hprogress
  · obtain ⟨callback, hcarries, hsend⟩ := @send_carries
      (setAsyncRead false 0 (eventRemoveSource s)) [] .abort .operationAborted h.references
      (Nat.zero_le _)
    obtain ⟨entries, hlog, hphase⟩ := h.phase
    rw [hsend]
    refine ⟨h.references, entries ++ [.readCallback .abort callback], ?_, ?_⟩
    · unfold setAsyncRead eventRemoveSource
      simp only [hlog, List.cons_append]
    · cases hphase with
      | active hactive _ _ _ => exact .settled (Over.aborted hactive hcarries) rfl rfl rfl
      | settled _ hidle _ _ =>
          rw [hprogress] at hidle
          cases hidle
      | left hsplit hover hbegins => exact Phase.grow hover hbegins hsplit _ _
  · exact h

theorem lengthToRead_eq (s : State) : (lengthToRead s).toNat =
    min FILE_MAX_READ_ASYNC_BUFFER_LENGTH s.file.lengthToReadAsync.toNat := by
  unfold lengthToRead FILE_MAX_READ_ASYNC_BUFFER_LENGTH
  have hmax : (60 : Nat).toUInt64.toNat = 60 := rfl
  split_ifs with hless
  · rw [gt_iff_lt, UInt64.lt_iff_toNat_lt, hmax] at hless
    rw [UInt64.toNat_toUInt8]
    omega
  · rw [gt_iff_lt, UInt64.lt_iff_toNat_lt, hmax] at hless
    rw [show (60 : Nat).toUInt8.toNat = 60 from rfl]
    omega

theorem Invariant.asyncReadProgress (h : Invariant length s)
    (hprogress : s.file.asyncReadInProgress = true)
    (hfits : bytes.length ≤ FILE_MAX_READ_ASYNC_BUFFER_LENGTH)
    (hleft : bytes.length ≤ s.file.lengthToReadAsync.toNat) :
    Invariant length (asyncReadProgress bytes s) := by
  obtain ⟨entries, hlog, hphase⟩ := h.phase
  have hlength : bytes.length.toUInt64.toNat = bytes.length := by
    unfold FILE_MAX_READ_ASYNC_BUFFER_LENGTH at hfits
    rw [Nat.toUInt64, UInt64.toNat_ofNat']
    exact Nat.mod_eq_of_lt (by omega)
  have hrest : (s.file.lengthToReadAsync - bytes.length.toUInt64).toNat =
      s.file.lengthToReadAsync.toNat - bytes.length := by
    rw [UInt64.toNat_sub_of_le _ _ (by rw [UInt64.le_iff_toNat_le, hlength]; exact hleft), hlength]
  unfold AsyncRead.asyncReadProgress
  simp only
  by_cases hdone : bytes.length = 0 ∨ s.file.lengthToReadAsync - bytes.length.toUInt64 = 0
  · rw [if_pos hdone]
    obtain ⟨callback, hcarries, hsend⟩ := @send_carries
      (eventRemoveSource (setAsyncRead false 0 (s.record (.returned bytes)))) bytes .handler
      .success h.references hfits
    rw [hsend]
    refine ⟨h.references, entries ++ [.returned bytes] ++ [.readCallback .handler callback], ?_, ?_⟩
    · unfold eventRemoveSource setAsyncRead State.record
      simp only [hlog, List.cons_append]
    · cases hphase with
      | active hactive _ _ htotal =>
          refine .settled (Over.finished hactive hcarries ?_) rfl rfl rfl
          rcases hdone with hnil | hzero
          · exact Or.inl (List.length_eq_zero_iff.mp hnil)
          · right
            rw [hzero, UInt64.toNat_zero] at hrest
            omega
      | settled _ hidle _ _ =>
          rw [hprogress] at hidle
          cases hidle
      | left hsplit hover hbegins =>
          rw [List.append_assoc]
          exact Phase.grow hover hbegins hsplit _ _
  · rw [if_neg hdone]
    obtain ⟨callback, hcarries, hsend⟩ := @send_carries
      (setAsyncRead (s.record (.returned bytes)).file.asyncReadInProgress
        (s.file.lengthToReadAsync - bytes.length.toUInt64) (s.record (.returned bytes))) bytes
      .handler .success h.references hfits
    rw [hsend]
    rw [not_or] at hdone
    refine ⟨h.references, entries ++ [.returned bytes] ++ [.readCallback .handler callback], ?_, ?_⟩
    · unfold setAsyncRead State.record
      simp only [hlog, List.cons_append]
    · cases hphase with
      | active hactive _ hsource htotal =>
          have hmore : s.file.lengthToReadAsync.toNat - bytes.length ≠ 0 := by
            rw [← hrest]
            exact fun hzero => hdone.2 (UInt64.toNat_inj.mp hzero)
          refine .active (hactive.data hcarries (fun hnil => hdone.1 (by rw [hnil]; rfl)) ?_) hprogress
            hsource ?_
          · omega
          · unfold setAsyncRead
            simp only [List.flatMap_append, List.flatMap_singleton, hcarries.delivered,
              List.length_append]
            have hnone : (Entry.returned bytes).delivered.length = 0 := rfl
            omega
      | settled _ hidle _ _ =>
          rw [hprogress] at hidle
          cases hidle
      | left hsplit hover hbegins =>
          rw [List.append_assoc]
          exact Phase.grow hover hbegins hsplit _ _

theorem Invariant.fileHandleAsyncRead (h : Invariant length s) (hregistered : s.registered = true)
    (result : ReadResult) : Invariant length (fileHandleAsyncRead result s) := by
  unfold AsyncRead.fileHandleAsyncRead
  by_cases hprogress : s.file.asyncReadInProgress = true
  · rw [if_neg (not_not.mpr hprogress)]
    cases result with
    | interrupted => exact h
    | wouldBlock => exact h.asyncReadProgress hprogress (Nat.zero_le _) (Nat.zero_le _)
    | data bytes =>
        have hlength := List.length_take_le (lengthToRead s).toNat bytes
        rw [lengthToRead_eq] at hlength
        refine h.asyncReadProgress hprogress ?_ ?_
        · rw [lengthToRead_eq]
          omega
        · rw [lengthToRead_eq]
          omega
    | failed code =>
        obtain ⟨callback, hcarries, hsend⟩ := @send_carries
          (setAsyncRead false 0 (eventRemoveSource s)) [] .handler code.val h.references
          (Nat.zero_le _)
        obtain ⟨entries, hlog, hphase⟩ := h.phase
        simp only
        rw [hsend]
        refine ⟨h.references, entries ++ [.readCallback .handler callback], ?_, ?_⟩
        · unfold setAsyncRead eventRemoveSource
          simp only [hlog, List.cons_append]
        · cases hphase with
          | active hactive _ _ _ =>
              refine .settled (Over.failed hactive ?_ ?_) rfl rfl rfl
              · rw [hcarries.errorCode]
                exact code.property
              · rwa [hcarries.errorCode]
          | settled _ _ _ hsource =>
              rw [hregistered] at hsource
              cases hsource
          | left hsplit hover hbegins => exact Phase.grow hover hbegins hsplit _ _
  · rw [if_pos hprogress]
    obtain ⟨entries, hlog, hphase⟩ := h.phase
    refine ⟨h.references, entries, hlog, ?_⟩
    cases hphase with
    | active _ hactive _ _ => exact absurd hactive hprogress
    | settled _ _ _ hsource =>
        rw [hregistered] at hsource
        cases hsource
    | left hsplit hover hbegins => exact .left hsplit hover hbegins

theorem Invariant.next (h : Invariant length s) {event : Event}
    (hnext : next s event = some s') : Invariant length s' := by
  cases event with
  | handleAsyncRead result =>
      simp only [AsyncRead.next] at hnext
      split_ifs at hnext with hregistered
      cases hnext
      exact h.fileHandleAsyncRead hregistered result
  | readAsync other added =>
      cases hnext
      exact h.fileReadAsync other added
  | abortAsyncRead =>
      cases hnext
      exact h.fileAbortAsyncRead
  | read lengthToRead result =>
      cases hnext
      unfold fileRead
      split_ifs with hrange hprogress
      · exact h
      · exact h
      · cases result <;> exact h.io hprogress
  | write lengthToWrite result =>
      cases hnext
      unfold fileWrite
      split_ifs with hrange hprogress
      · exact h
      · exact h
      · cases result <;> exact h.io hprogress
  | writeUnchecked lengthToWrite result =>
      cases hnext
      unfold fileWriteUnchecked
      split_ifs with hrange hprogress
      · exact h
      · exact h
      · cases result <;> exact h.io hprogress
  | writeAsync lengthToWrite result =>
      cases hnext
      unfold fileWriteAsync
      split_ifs with hrange hprogress
      · exact h.writeCallback .outOfRange 0
      · exact h.writeCallback .invalidOperation 0
      · cases result with
        | error code => exact (h.io hprogress).writeCallback code.val 0
        | ok lengthWritten => exact (h.io hprogress).writeCallback .success lengthWritten
  | setPosition origin result =>
      cases hnext
      unfold fileSetPosition
      split_ifs with hrange hprogress
      · exact h
      · exact h
      · cases result <;> exact h.io hprogress

end Steps

section Transfers

theorem takeWhile_goes {front back : List Entry} (hfront : ∀ entry ∈ front, entry.begins = false)
    (hback : ∀ entry, back.head? = some entry → entry.begins = true) :
    (front ++ back).takeWhile (fun entry => !entry.begins) = front := by
  induction front with
  | nil =>
      cases back with
      | nil => rfl
      | cons entry back =>
          rw [List.nil_append, List.takeWhile_cons, hback entry rfl]
          rfl
  | cons entry front ih =>
      rw [List.cons_append, List.takeWhile_cons, hfront entry List.mem_cons_self]
      rw [ih fun other hmem => hfront other (List.mem_cons_of_mem entry hmem)]
      rfl

theorem Invariant.exact (h : Invariant length s) : TransferExact length s := by
  obtain ⟨entries, hlog, hphase⟩ := h.phase
  have hstarts : s.log.head?.map Entry.begins = some true := by
    rw [hlog]
    rfl
  have htail : s.log.tail = entries := by
    rw [hlog]
    rfl
  cases hphase with
  | active hactive hprogress hsource hleft =>
      have hsound := hactive.sound
      have hsame : transfer s.log = entries := by
        unfold transfer
        rw [htail, ← List.append_nil entries, takeWhile_goes hsound.goes (fun _ h => by cases h),
          List.append_nil]
      refine ⟨hstarts, ?_, ?_, ?_, fun _ => ?_, fun front entry back hsplit hends => ?_⟩
      · rw [hsame]
        exact hsound.delivered
      · rw [hsame]
        exact hsound.total
      · rw [hsame]
        exact hsound.callbacks
      · rw [hsame]
        exact ⟨htail.symm, hprogress, hsource, hleft, hactive.no_io⟩
      · rw [hsame] at hsplit
        exact absurd ⟨front, entry, back, hsplit, hends⟩ hactive.not_ended
  | settled hover hprogress hleft hsource =>
      have hsound := hover.sound
      have hsame : transfer s.log = entries := by
        unfold transfer
        rw [htail, ← List.append_nil entries, takeWhile_goes hsound.goes (fun _ h => by cases h),
          List.append_nil]
      refine ⟨hstarts, ?_, ?_, ?_, fun hgoes => ?_, fun front entry back hsplit hends => ?_⟩
      · rw [hsame]
        exact hsound.delivered
      · rw [hsame]
        exact hsound.total
      · rw [hsame]
        exact hsound.callbacks
      · rw [hsame] at hgoes
        exact absurd hover.ended hgoes
      · rw [hsame] at hsplit
        exact ⟨hover.quiet hsplit hends, fun _ => ⟨hprogress, hleft, hsource⟩⟩
  | @left front back entry hsplit hover hbegins =>
      have hsound := hover.sound
      have hsame : transfer s.log = front := by
        unfold transfer
        rw [htail, hsplit]
        apply takeWhile_goes hsound.goes
        intro other hother
        cases hother
        exact hbegins
      refine ⟨hstarts, ?_, ?_, ?_, fun hgoes => ?_, fun before other after hother hends => ?_⟩
      · rw [hsame]
        exact hsound.delivered
      · rw [hsame]
        exact hsound.total
      · rw [hsame]
        exact hsound.callbacks
      · rw [hsame] at hgoes
        exact absurd hover.ended hgoes
      · rw [hsame] at hother
        refine ⟨hover.quiet hother hends, fun hall => ?_⟩
        rw [hsame, htail, hsplit] at hall
        exact absurd hall.symm (by simp)

theorem accepted_invariant {added : Bool} (hreferences : 0 < s.file.externalReferenceCount)
    (haccepted : (fileReadAsync length added { s with log := [] }).1 = .success) :
    Invariant length (fileReadAsync length added { s with log := [] }).2 := by
  unfold fileReadAsync at haccepted ⊢
  split_ifs at haccepted ⊢ with hrange hprogress hadded
  refine ⟨hreferences, [], rfl, .active .nil rfl rfl ?_⟩
  rfl

end Transfers

section Answers

theorem Carries.answer (h : Carries errorCode bytes callback) :
    Entry.answer (.readCallback .handler callback) = some (errorCode, bytes) ∧
      Entry.answer (.readCallback .abort callback) = some (errorCode, bytes) := by
  simp only [Entry.answer]
  rw [h.errorCode, h.carried]
  exact ⟨rfl, rfl⟩

-- The log grows by entries that belong to no transfer.
def Aside (s s' : State) : Prop :=
  ∃ entries, s'.log = s.log ++ entries ∧
    ∀ entry ∈ entries, Entry.answer entry = none ∧ Entry.returnedBytes entry = []

theorem Aside.refl (s : State) : Aside s s :=
  ⟨[], (List.append_nil _).symm, fun _ hmem => absurd hmem List.not_mem_nil⟩

theorem Aside.single (hlog : s'.log = s.log ++ [entry]) (hanswer : entry.answer = none)
    (hreturned : entry.returnedBytes = []) : Aside s s' := by
  refine ⟨[entry], hlog, fun other hmem => ?_⟩
  rw [List.mem_singleton.mp hmem]
  exact ⟨hanswer, hreturned⟩

theorem Aside.trans {t : State} (h : Aside s s') (h' : Aside s' t) : Aside s t := by
  obtain ⟨entries, hlog, hentries⟩ := h
  obtain ⟨more, hlog', hmore⟩ := h'
  refine ⟨entries ++ more, by rw [hlog', hlog, List.append_assoc], fun entry hmem => ?_⟩
  exact (List.mem_append.mp hmem).elim (hentries entry) (hmore entry)

theorem Aside.answered {event : Event} (h : Aside s s') (hevent : event.answer s = []) :
    Answered s event s' := by
  obtain ⟨entries, hlog, hentries⟩ := h
  refine ⟨entries, hlog, ?_, ?_⟩
  · rw [hevent, List.filterMap_eq_nil_iff]
    exact fun entry hmem => (hentries entry hmem).1
  · rw [hevent, List.flatMap_nil, List.flatMap_eq_nil_iff]
    exact fun entry hmem => (hentries entry hmem).2

theorem io_aside (s : State) : Aside s (s.record .io) := .single rfl rfl rfl

theorem sendRequest_aside (errorCode : APIE) (s : State) :
    Aside s (fileSendAsyncReadCallback .request errorCode [] s) := by
  unfold fileSendAsyncReadCallback
  split_ifs with hreferences
  · exact .single rfl rfl rfl
  · exact .refl s

theorem sendWrite_aside (errorCode : APIE) (lengthWritten : UInt8) (s : State) :
    Aside s (fileSendAsyncWriteCallback errorCode lengthWritten s) := by
  unfold fileSendAsyncWriteCallback
  split_ifs with hreferences
  · exact .single rfl rfl rfl
  · exact .refl s

-- The event loop polls a file only while a transfer is in progress.
def State.Polled (s : State) : Prop := s.registered = true → s.file.asyncReadInProgress = true

theorem State.Polled.idle (hregistered : s.registered = false) : s.Polled := by
  intro h
  rw [hregistered] at h
  cases h

theorem send_polled (sender : Sender) (errorCode : APIE) (bytes : List UInt8) (h : s.Polled) :
    (fileSendAsyncReadCallback sender errorCode bytes s).Polled := by
  unfold fileSendAsyncReadCallback
  split_ifs <;> exact h

theorem sendWrite_polled (errorCode : APIE) (lengthWritten : UInt8) (h : s.Polled) :
    (fileSendAsyncWriteCallback errorCode lengthWritten s).Polled := by
  unfold fileSendAsyncWriteCallback
  split_ifs <;> exact h

theorem asyncReadProgress_polled (bytes : List UInt8) (h : s.Polled) :
    (asyncReadProgress bytes s).Polled := by
  unfold asyncReadProgress
  refine send_polled .handler .success bytes ?_
  split_ifs with hdone
  · exact .idle rfl
  · exact h

theorem fileHandleAsyncRead_polled (result : ReadResult) (h : s.Polled) :
    (fileHandleAsyncRead result s).Polled := by
  unfold fileHandleAsyncRead
  by_cases hprogress : s.file.asyncReadInProgress = true
  · rw [if_neg (not_not.mpr hprogress)]
    cases result with
    | data bytes => exact asyncReadProgress_polled _ h
    | interrupted => exact h
    | wouldBlock => exact asyncReadProgress_polled _ h
    | failed code => exact send_polled _ _ _ (.idle rfl)
  · rw [if_pos hprogress]
    exact .idle rfl

theorem fileReadAsync_polled (length : UInt64) (added : Bool) (h : s.Polled) :
    (fileReadAsync length added s).2.Polled := by
  unfold fileReadAsync
  split_ifs with hrange hprogress hadded
  · exact send_polled _ _ _ h
  · exact send_polled _ _ _ h
  · exact fun _ => rfl
  · exact send_polled _ _ _ fun _ => rfl

-- The functions that take no part in a transfer.
theorem fileRead_aside (lengthToRead : UInt8) (result : ReadResult) (h : s.Polled) :
    (fileRead lengthToRead result s).2.Polled ∧ Aside s (fileRead lengthToRead result s).2 := by
  unfold fileRead
  split_ifs
  · exact ⟨h, .refl s⟩
  · exact ⟨h, .refl s⟩
  · cases result <;> exact ⟨h, io_aside s⟩

theorem fileWrite_aside (lengthToWrite : UInt8) (result : WriteResult) (h : s.Polled) :
    (fileWrite lengthToWrite result s).2.Polled ∧ Aside s (fileWrite lengthToWrite result s).2 := by
  unfold fileWrite
  split_ifs
  · exact ⟨h, .refl s⟩
  · exact ⟨h, .refl s⟩
  · cases result <;> exact ⟨h, io_aside s⟩

theorem fileWriteUnchecked_aside (lengthToWrite : UInt8) (result : WriteResult) (h : s.Polled) :
    (fileWriteUnchecked lengthToWrite result s).2.Polled ∧
      Aside s (fileWriteUnchecked lengthToWrite result s).2 := by
  unfold fileWriteUnchecked
  split_ifs
  · exact ⟨h, .refl s⟩
  · exact ⟨h, .refl s⟩
  · cases result <;> exact ⟨h, io_aside s⟩

theorem fileWriteAsync_aside (lengthToWrite : UInt8) (result : WriteResult) (h : s.Polled) :
    (fileWriteAsync lengthToWrite result s).2.Polled ∧
      Aside s (fileWriteAsync lengthToWrite result s).2 := by
  unfold fileWriteAsync
  split_ifs
  · exact ⟨sendWrite_polled _ _ h, sendWrite_aside _ _ s⟩
  · exact ⟨sendWrite_polled _ _ h, sendWrite_aside _ _ s⟩
  · cases result with
    | error code =>
        exact ⟨sendWrite_polled code.val 0 h, (io_aside s).trans (sendWrite_aside code.val 0 _)⟩
    | ok lengthWritten =>
        exact ⟨sendWrite_polled .success lengthWritten h,
          (io_aside s).trans (sendWrite_aside .success lengthWritten _)⟩

theorem fileSetPosition_aside (origin : UInt8) (result : Except APIError UInt64) (h : s.Polled) :
    (fileSetPosition origin result s).2.Polled ∧ Aside s (fileSetPosition origin result s).2 := by
  unfold fileSetPosition
  split_ifs
  · exact ⟨h, .refl s⟩
  · exact ⟨h, .refl s⟩
  · cases result <;> exact ⟨h, io_aside s⟩

theorem asyncReadProgress_answers (hreferences : 0 < s.file.externalReferenceCount)
    (hfits : bytes.length ≤ FILE_MAX_READ_ASYNC_BUFFER_LENGTH) {event : Event}
    (hevent : event.answer s = [(.success, bytes)]) :
    Answered s event (asyncReadProgress bytes s) := by
  unfold asyncReadProgress
  simp only
  generalize hmoved : (if bytes.length = 0 ∨ s.file.lengthToReadAsync - bytes.length.toUInt64 = 0
    then _ else _ : State) = moved
  have hlog : moved.log = s.log ++ [.returned bytes] ∧ 0 < moved.file.externalReferenceCount := by
    rw [← hmoved]
    split_ifs <;> exact ⟨rfl, hreferences⟩
  obtain ⟨callback, hcarries, hsend⟩ := send_carries .handler .success hlog.2 hfits
  rw [hsend]
  refine ⟨[.returned bytes, .readCallback .handler callback], ?_, ?_, ?_⟩
  · simp only [hlog.1, List.append_assoc, List.cons_append, List.nil_append]
  · rw [hevent, List.filterMap_cons_none rfl, List.filterMap_cons_some hcarries.answer.1,
      List.filterMap_nil]
  · rw [hevent]
    simp [Entry.returnedBytes]

theorem fileHandleAsyncRead_answers (hreferences : 0 < s.file.externalReferenceCount)
    (hprogress : s.file.asyncReadInProgress = true) (result : ReadResult) :
    Answered s (.handleAsyncRead result) (fileHandleAsyncRead result s) := by
  unfold fileHandleAsyncRead
  rw [if_neg (not_not.mpr hprogress)]
  cases result with
  | interrupted => exact (Aside.refl s).answered rfl
  | wouldBlock => exact asyncReadProgress_answers hreferences (Nat.zero_le _) rfl
  | data bytes =>
      have hlength := List.length_take_le (lengthToRead s).toNat bytes
      rw [lengthToRead_eq] at hlength
      refine asyncReadProgress_answers hreferences ?_ ?_
      · rw [lengthToRead_eq]
        omega
      · rw [lengthToRead_eq]
        rfl
  | failed code =>
      obtain ⟨callback, hcarries, hsend⟩ := @send_carries
        (setAsyncRead false 0 (eventRemoveSource s)) [] .handler code.val hreferences
        (Nat.zero_le _)
      simp only
      rw [hsend]
      refine ⟨[.readCallback .handler callback], rfl, ?_, rfl⟩
      rw [List.filterMap_cons_some hcarries.answer.1]
      rfl

theorem fileAbortAsyncRead_answers (hreferences : 0 < s.file.externalReferenceCount) :
    Answered s .abortAsyncRead (fileAbortAsyncRead s) := by
  unfold fileAbortAsyncRead
  by_cases hprogress : s.file.asyncReadInProgress = true
  · obtain ⟨callback, hcarries, hsend⟩ := @send_carries
      (setAsyncRead false 0 (eventRemoveSource s)) [] .abort .operationAborted hreferences
      (Nat.zero_le _)
    rw [if_pos hprogress, hsend]
    have hevent : Event.abortAsyncRead.answer s = [(.operationAborted, [])] := if_pos hprogress
    refine ⟨[.readCallback .abort callback], rfl, ?_, ?_⟩
    · rw [hevent, List.filterMap_cons_some hcarries.answer.2]
      rfl
    · rw [hevent]
      rfl
  · rw [if_neg hprogress]
    exact (Aside.refl s).answered (if_neg hprogress)

theorem fileReadAsync_answers (length : UInt64) (added : Bool) :
    Answered s (.readAsync length added) (fileReadAsync length added s).2 := by
  refine Aside.answered ?_ rfl
  unfold fileReadAsync
  split_ifs with hrange hprogress hadded
  · exact sendRequest_aside _ _
  · exact sendRequest_aside _ _
  · exact .single rfl rfl rfl
  · exact sendRequest_aside _ (setAsyncRead true length s)

-- What one event brings to the client.
theorem next_answers {event : Event} (hreferences : 0 < s.file.externalReferenceCount)
    (h : s.Polled) (hnext : next s event = some s') : s'.Polled ∧ Answered s event s' := by
  cases event with
  | handleAsyncRead result =>
      simp only [AsyncRead.next] at hnext
      split_ifs at hnext with hregistered
      cases hnext
      exact ⟨fileHandleAsyncRead_polled result h,
        fileHandleAsyncRead_answers hreferences (h hregistered) result⟩
  | readAsync other added =>
      cases hnext
      exact ⟨fileReadAsync_polled other added h, fileReadAsync_answers other added⟩
  | abortAsyncRead =>
      cases hnext
      refine ⟨?_, fileAbortAsyncRead_answers hreferences⟩
      unfold fileAbortAsyncRead
      split_ifs
      · exact send_polled _ _ _ (.idle rfl)
      · exact h
  | read lengthToRead result =>
      cases hnext
      exact (fileRead_aside lengthToRead result h).imp_right fun haside => haside.answered rfl
  | write lengthToWrite result =>
      cases hnext
      exact (fileWrite_aside lengthToWrite result h).imp_right fun haside => haside.answered rfl
  | writeUnchecked lengthToWrite result =>
      cases hnext
      exact (fileWriteUnchecked_aside lengthToWrite result h).imp_right
        fun haside => haside.answered rfl
  | writeAsync lengthToWrite result =>
      cases hnext
      exact (fileWriteAsync_aside lengthToWrite result h).imp_right
        fun haside => haside.answered rfl
  | setPosition origin result =>
      cases hnext
      exact (fileSetPosition_aside origin result h).imp_right fun haside => haside.answered rfl

end Answers

section Transfers

-- `s` is any state of a file in which file_read_async accepts the transfer. The log agrees with
-- what the events bring, and so do the callbacks in it.
theorem async_read_exact (s : State) (length : UInt64) (added : Bool)
    (hreferences : 0 < s.file.externalReferenceCount)
    (haccepted : (fileReadAsync length added { s with log := [] }).1 = .success)
    (events : List Event) :
    Trace.Always next (TransferExact length) (fileReadAsync length added { s with log := [] }).2
        events ∧
      Trace.Along next Answered (fileReadAsync length added { s with log := [] }).2 events := by
  have hinvariant := accepted_invariant hreferences haccepted
  have hpolled : (fileReadAsync length added { s with log := [] }).2.Polled := by
    unfold fileReadAsync at haccepted ⊢
    split_ifs at haccepted ⊢
    exact fun _ => rfl
  refine ⟨Trace.always_of_step (fun _ _ _ h hnext => h.next hnext) (fun _ h => h.exact) hinvariant
    events, ?_⟩
  refine Trace.along_of_step (I := fun s => Invariant length s ∧ s.Polled) ?_ ?_
    ⟨hinvariant, hpolled⟩ events
  · exact fun _ _ _ h hnext => ⟨h.1.next hnext, (next_answers h.1.references h.2 hnext).1⟩
  · exact fun _ _ _ h hnext => (next_answers h.1.references h.2 hnext).2

def idleFile : State := ⟨⟨false, 0, 1⟩, false, fun _ => 0, []⟩

def idleFileEvents : List Event :=
  [.handleAsyncRead (.data [1, 2]), .read 1 (.data [3]), .handleAsyncRead (.data [4, 5])]

-- Three bytes, with a rejected read in between.
theorem async_read_exact_idleFile :
    Trace.Always next (TransferExact 3) (fileReadAsync 3 true { idleFile with log := [] }).2
        idleFileEvents ∧
      Trace.Along next Answered (fileReadAsync 3 true { idleFile with log := [] }).2
        idleFileEvents :=
  async_read_exact idleFile 3 true Nat.zero_lt_one (by decide) idleFileEvents

end Transfers

end RedApid.AsyncRead
