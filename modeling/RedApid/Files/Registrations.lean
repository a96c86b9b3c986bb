import RedApid.Files.Events
import RedApid.Trace

namespace RedApid.Files

open Trace

-- What a File can have registered in the event loop.
inductive Source where
  | asyncRead
  | readable
  | writable
deriving DecidableEq, Repr

namespace File

variable (file : File)

def Has : Source → Prop
  | .asyncRead => True
  | .readable => file.type = .pipe
  | .writable => file.type = .pipe

def handle : Source → IOHandle
  | .asyncRead => file.asyncReadEventfd
  | .readable => file.readHandle
  | .writable => file.writeHandle

-- What the flags of the File say.
def Armed : Source → Prop
  | .asyncRead => file.asyncReadInProgress = true
  | .readable => file.events &&& FILE_EVENT_READABLE ≠ 0
  | .writable => file.events &&& FILE_EVENT_WRITABLE ≠ 0

variable {file}

theorem handle_ne {source other : Source} (hsource : file.Has source) (hother : file.Has other)
    (hne : other ≠ source) : file.handle other ≠ file.handle source := by
  have hdistinct := file.distinct
  cases source <;> cases other <;> simp_all [Has, handle, eq_comm]

end File

-- The event loop has exactly the sources that the flags tell, and it has never been told to
-- remove another one.
structure State.Matched (s : State) : Prop where
  removals : s.stray = false
  sources : ∀ source, s.file.Has source →
    (s.file.handle source ∈ s.sources ↔ s.destroyed = false ∧ s.file.Armed source)

section Bits

variable (events : UInt16) {flag other : UInt16}

theorem or_and (first second mask : UInt16) :
    (first ||| second) &&& mask = (first &&& mask) ||| (second &&& mask) := by
  apply UInt16.toBitVec_inj.mp
  ext i
  simp [Bool.and_or_distrib_right]

theorem or_flag_ne (h : flag ≠ 0) : (events ||| flag) &&& flag ≠ 0 := by
  rw [or_and, UInt16.and_self]
  intro hzero
  have hle : flag ≤ 0 := hzero ▸ UInt16.right_le_or
  exact h (UInt16.le_antisymm hle (UInt16.zero_le))

theorem or_flag_and (h : flag &&& other = 0) : (events ||| flag) &&& other = events &&& other := by
  rw [or_and, h, UInt16.or_zero]

theorem clear_flag : (events &&& ~~~flag) &&& flag = 0 := by
  rw [UInt16.and_assoc]
  simp

theorem clear_flag_and (h : ~~~flag &&& other = other) :
    (events &&& ~~~flag) &&& other = events &&& other := by
  rw [UInt16.and_assoc, h]

end Bits

namespace State.Matched

variable {s s' : State}

-- A change of one source and its flag.
theorem switch (h : s.Matched) (hlive : s.destroyed = false) {source : Source}
    (hhas : s.file.Has source) (hdescriptors : s'.file.toDescriptors = s.file.toDescriptors)
    (hlive' : s'.destroyed = false) (hremovals : s'.stray = false)
    (hsource : s.file.handle source ∈ s'.sources ↔ s'.file.Armed source)
    (hflags : ∀ other ≠ source, (s'.file.Armed other ↔ s.file.Armed other))
    (hsources : ∀ handle ≠ s.file.handle source, (handle ∈ s'.sources ↔ handle ∈ s.sources)) :
    s'.Matched := by
  have hhandle (other : Source) : s'.file.handle other = s.file.handle other := by
    cases other
    · exact congrArg Descriptors.asyncReadEventfd hdescriptors
    · exact congrArg Descriptors.readHandle hdescriptors
    · exact congrArg Descriptors.writeHandle hdescriptors
  refine ⟨hremovals, fun other hother => ?_⟩
  have hother' : s.file.Has other := by
    cases other
    · trivial
    · exact (congrArg Descriptors.type hdescriptors).symm.trans hother
    · exact (congrArg Descriptors.type hdescriptors).symm.trans hother
  rw [hhandle]
  by_cases hsame : other = source
  · subst hsame
    rw [hsource]
    simp [hlive']
  · rw [hsources _ (File.handle_ne hhas hother' hsame), h.sources other hother', hflags other hsame]
    simp [hlive, hlive']

theorem arm (h : s.Matched) (hlive : s.destroyed = false) {source : Source}
    (hhas : s.file.Has source) {file : File}
    (hdescriptors : file.toDescriptors = s.file.toDescriptors) (harmed : file.Armed source)
    (hflags : ∀ other ≠ source, (file.Armed other ↔ s.file.Armed other)) :
    State.Matched { eventAddSource (s.file.handle source) s with file } := by
  refine h.switch hlive hhas hdescriptors hlive h.removals ?_ hflags ?_
  · exact iff_of_true (Finset.mem_insert_self _ _) harmed
  · intro handle hne
    exact Finset.mem_insert.trans (or_iff_right hne)

theorem disarm (h : s.Matched) (hlive : s.destroyed = false) {source : Source}
    (hhas : s.file.Has source) {file : File}
    (hdescriptors : file.toDescriptors = s.file.toDescriptors) (harmed : s.file.Armed source)
    (hdisarmed : ¬ file.Armed source)
    (hflags : ∀ other ≠ source, (file.Armed other ↔ s.file.Armed other)) :
    State.Matched { eventRemoveSource (s.file.handle source) s with file } := by
  have hmem := (h.sources source hhas).mpr ⟨hlive, harmed⟩
  refine h.switch hlive hhas hdescriptors hlive ?_ ?_ hflags ?_
  · simp [eventRemoveSource, h.removals, hmem]
  · exact iff_of_false (Finset.notMem_erase _ _) hdisarmed
  · intro handle hne
    exact Finset.mem_erase.trans (and_iff_right hne)

theorem send_iff (callback : Callback) : (send callback s).Matched ↔ s.Matched := by
  unfold send
  split_ifs
  · exact ⟨fun h => ⟨h.removals, h.sources⟩, fun h => ⟨h.removals, h.sources⟩⟩
  · exact Iff.rfl

theorem send (h : s.Matched) (callback : Callback) : (send callback s).Matched :=
  (send_iff callback).mpr h

end State.Matched

section Operations

variable {s s' : State}

-- An asynchronous read that event_add_source does not let start.
def ReadFails (s : State) (operation : Operation) : Prop :=
  ∃ lengthToRead, operation = .readAsync lengthToRead false ∧
    lengthToRead.toNat ≤ 9223372036854775807 ∧ s.file.asyncReadInProgress = false

theorem armed_setAsyncRead (file : File) (inProgress : Bool) (length : UInt64) :
    ∀ other ≠ Source.asyncRead,
      (File.Armed { file with asyncReadInProgress := inProgress, lengthToReadAsync := length }
        other ↔ file.Armed other) := by
  intro other hother
  cases other with
  | asyncRead => exact absurd rfl hother
  | readable => exact Iff.rfl
  | writable => exact Iff.rfl

theorem fileReadAsync_matched (h : s.Matched) (hlive : s.destroyed = false) {lengthToRead : UInt64}
    {added : Bool} (hworks : ¬ ReadFails s (.readAsync lengthToRead added)) :
    (fileReadAsync lengthToRead added s).2.Matched := by
  unfold fileReadAsync
  by_cases hlength : lengthToRead.toNat > 9223372036854775807
  · rw [if_pos hlength]
    exact h.send _
  by_cases hprogress : s.file.asyncReadInProgress = true
  · rw [if_neg hlength, if_pos hprogress]
    exact h.send _
  have hadded : added = true := by
    by_contra hfalse
    rw [Bool.not_eq_true] at hfalse hprogress
    exact hworks ⟨lengthToRead, by rw [hfalse], by omega, hprogress⟩
  rw [if_neg hlength, if_neg hprogress, hadded]
  exact @State.Matched.arm s h hlive .asyncRead trivial _ rfl rfl (armed_setAsyncRead _ _ _)

theorem fileReadAsync_unmatched (h : s.Matched) (hlive : s.destroyed = false) {lengthToRead : UInt64} {added : Bool}
    (hfails : ReadFails s (.readAsync lengthToRead added)) :
    ¬ (fileReadAsync lengthToRead added s).2.Matched := by
  obtain ⟨_, heq, hlength, hprogress⟩ := hfails
  cases heq
  have hcall : (fileReadAsync lengthToRead false s).2 =
      send (.asyncFileRead .internalError 0) (setAsyncRead true lengthToRead s) := by
    simp [fileReadAsync, hprogress, Nat.not_lt.mpr hlength]
  rw [hcall, State.Matched.send_iff]
  intro hafter
  have hregistered := (hafter.sources .asyncRead trivial).mpr ⟨hlive, rfl⟩
  have harmed := ((h.sources .asyncRead trivial).mp hregistered).2
  exact Bool.false_ne_true (hprogress.symm.trans harmed)

theorem stopAsyncRead_matched (h : s.Matched) (hlive : s.destroyed = false)
    (hprogress : s.file.asyncReadInProgress = true) :
    (setAsyncRead false 0 (eventRemoveSource s.file.asyncReadEventfd s)).Matched :=
  @State.Matched.disarm s h hlive .asyncRead trivial _ rfl hprogress Bool.false_ne_true
    (armed_setAsyncRead _ _ _)

theorem fileAbortAsyncRead_matched (h : s.Matched) (hlive : s.destroyed = false) :
    (fileAbortAsyncRead s).Matched := by
  unfold fileAbortAsyncRead
  by_cases hprogress : s.file.asyncReadInProgress = true
  · rw [if_pos hprogress]
    exact (stopAsyncRead_matched h hlive hprogress).send _
  · rw [if_neg hprogress]
    exact h

theorem asyncReadProgress_matched (h : s.Matched) (hlive : s.destroyed = false)
    (hprogress : s.file.asyncReadInProgress = true) (lengthRead : Nat) :
    (asyncReadProgress lengthRead s).Matched := by
  unfold asyncReadProgress
  apply State.Matched.send
  split_ifs
  · exact stopAsyncRead_matched h hlive hprogress
  · refine ⟨h.removals, fun source hsource => ?_⟩
    rw [hprogress]
    cases source with
    | asyncRead =>
        simpa [setAsyncRead, File.handle, File.Armed, hprogress] using h.sources .asyncRead trivial
    | readable => exact h.sources .readable hsource
    | writable => exact h.sources .writable hsource

theorem fileHandleAsyncRead_matched (h : s.Matched) (hlive : s.destroyed = false)
    (hregistered : s.file.asyncReadEventfd ∈ s.sources) (result : ReadResult) :
    (fileHandleAsyncRead result s).Matched := by
  have hprogress : s.file.asyncReadInProgress = true :=
    ((h.sources .asyncRead trivial).mp hregistered).2
  unfold fileHandleAsyncRead
  rw [if_neg (not_not_intro hprogress)]
  cases result with
  | data count => exact asyncReadProgress_matched h hlive hprogress _
  | interrupted => exact h
  | wouldBlock => exact asyncReadProgress_matched h hlive hprogress 0
  | failed code => exact (stopAsyncRead_matched h hlive hprogress).send _

-- The two sources that file_set_events deals with.
inductive EventFlag : Source → UInt16 → Prop where
  | readable : EventFlag .readable FILE_EVENT_READABLE
  | writable : EventFlag .writable FILE_EVENT_WRITABLE

theorem EventFlag.armed {source : Source} {flag : UInt16} (h : EventFlag source flag)
    (file : File) : file.Armed source ↔ file.events &&& flag ≠ 0 := by
  cases h <;> exact Iff.rfl

theorem EventFlag.set {source : Source} {flag : UInt16} (h : EventFlag source flag) (file : File) :
    File.Armed { file with events := file.events ||| flag } source ∧
      ∀ other ≠ source,
        (File.Armed { file with events := file.events ||| flag } other ↔ file.Armed other) := by
  cases h with
  | readable =>
      refine ⟨or_flag_ne _ (by decide), fun other hother => ?_⟩
      cases other with
      | asyncRead => exact Iff.rfl
      | readable => exact absurd rfl hother
      | writable =>
          have hmask : FILE_EVENT_READABLE &&& FILE_EVENT_WRITABLE = 0 := by decide
          simp only [File.Armed, or_flag_and _ hmask]
  | writable =>
      refine ⟨or_flag_ne _ (by decide), fun other hother => ?_⟩
      cases other with
      | asyncRead => exact Iff.rfl
      | readable =>
          have hmask : FILE_EVENT_WRITABLE &&& FILE_EVENT_READABLE = 0 := by decide
          simp only [File.Armed, or_flag_and _ hmask]
      | writable => exact absurd rfl hother

theorem EventFlag.clear {source : Source} {flag : UInt16} (h : EventFlag source flag)
    (file : File) :
    ¬ File.Armed { file with events := file.events &&& ~~~flag } source ∧
      ∀ other ≠ source,
        (File.Armed { file with events := file.events &&& ~~~flag } other ↔ file.Armed other) := by
  cases h with
  | readable =>
      refine ⟨not_not_intro (clear_flag _), fun other hother => ?_⟩
      cases other with
      | asyncRead => exact Iff.rfl
      | readable => exact absurd rfl hother
      | writable =>
          have hmask : ~~~FILE_EVENT_READABLE &&& FILE_EVENT_WRITABLE = FILE_EVENT_WRITABLE := by decide
          simp only [File.Armed, clear_flag_and _ hmask]
  | writable =>
      refine ⟨not_not_intro (clear_flag _), fun other hother => ?_⟩
      cases other with
      | asyncRead => exact Iff.rfl
      | readable =>
          have hmask : ~~~FILE_EVENT_WRITABLE &&& FILE_EVENT_READABLE = FILE_EVENT_READABLE := by decide
          simp only [File.Armed, clear_flag_and _ hmask]
      | writable => exact absurd rfl hother

-- One part of file_set_events.
theorem setEvent_matched (h : s.Matched) (hlive : s.destroyed = false) {source : Source}
    {flag : UInt16} (hflag : EventFlag source flag) (hhas : s.file.Has source) (events : UInt16)
    (added : Bool) (hset : setEvent flag (s.file.handle source) events added s = some s') :
    s'.Matched ∧ s'.destroyed = false ∧ s'.file.toDescriptors = s.file.toDescriptors := by
  have harmed := hflag.armed s.file
  unfold setEvent at hset
  split_ifs at hset with hadd hfails hremove
  · cases hset
    obtain ⟨hon, hothers⟩ := hflag.set s.file
    exact ⟨h.arm hlive hhas rfl hon hothers, hlive, rfl⟩
  · cases hset
    obtain ⟨hoff, hothers⟩ := hflag.clear s.file
    exact ⟨h.disarm hlive hhas rfl (harmed.mpr hremove.2) hoff hothers, hlive, rfl⟩
  · cases hset
    exact ⟨h, hlive, rfl⟩

theorem fileSetEvents_matched (h : s.Matched) (hlive : s.destroyed = false) (events : UInt16)
    (readAdded writeAdded : Bool) : (fileSetEvents events readAdded writeAdded s).2.Matched := by
  unfold fileSetEvents
  by_cases htype : s.file.type = .pipe
  · rw [if_neg (not_not_intro htype)]
    by_cases hevents : events &&& ~~~FILE_EVENT_ALL ≠ 0
    · rw [if_pos hevents]
      exact h
    rw [if_neg hevents]
    cases hread : setEvent FILE_EVENT_READABLE s.file.readHandle events readAdded s with
    | none => exact h
    | some s₁ =>
        obtain ⟨h₁, hlive₁, hdescriptors⟩ := setEvent_matched h hlive .readable htype _ _ hread
        have htype₁ : s₁.file.type = .pipe :=
          (congrArg Descriptors.type hdescriptors).trans htype
        cases hwrite : setEvent FILE_EVENT_WRITABLE s₁.file.writeHandle events writeAdded s₁ with
        | none =>
            simp only [hwrite]
            exact h₁
        | some s₂ =>
            simp only [hwrite]
            exact (setEvent_matched h₁ hlive₁ .writable htype₁ _ _ hwrite).1
  · rw [if_pos htype]
    exact h

theorem handleEvent_matched (h : s.Matched) (hlive : s.destroyed = false) {source : Source}
    {flag : UInt16} (hflag : EventFlag source flag) (hhas : s.file.Has source)
    (hregistered : s.file.handle source ∈ s.sources) :
    (handleEvent flag (s.file.handle source) s).Matched := by
  obtain ⟨hoff, hothers⟩ := hflag.clear s.file
  have harmed := ((h.sources source hhas).mp hregistered).2
  have hmatched : State.Matched
      { eventRemoveSource (s.file.handle source) s with
        file := { s.file with events := s.file.events &&& ~~~flag } } :=
    h.disarm hlive hhas rfl harmed hoff hothers
  exact hmatched.send _

-- Removing a handle that is registered if and only if the condition holds.
theorem removeIf_spec {condition : Bool} {handle : IOHandle} (hremovals : s.stray = false)
    (hregistered : handle ∈ s.sources ↔ condition = true) :
    (removeIf condition handle s).stray = false ∧ handle ∉ (removeIf condition handle s).sources ∧
      ∀ other ≠ handle, (other ∈ (removeIf condition handle s).sources ↔ other ∈ s.sources) := by
  unfold removeIf
  by_cases hcondition : condition = true
  · rw [if_pos hcondition]
    have hmem := hregistered.mpr hcondition
    refine ⟨by simp [eventRemoveSource, hremovals, hmem], Finset.notMem_erase _ _, ?_⟩
    intro other hother
    exact Finset.mem_erase.trans (and_iff_right hother)
  · rw [if_neg hcondition]
    exact ⟨hremovals, fun hmem => hcondition (hregistered.mp hmem), fun _ _ => Iff.rfl⟩

@[simp] theorem removeIf_file (condition : Bool) (handle : IOHandle) (s : State) :
    (removeIf condition handle s).file = s.file := by
  unfold removeIf
  split_ifs <;> rfl

theorem fileDestroy_pipe (htype : s.file.type = .pipe) :
    fileDestroy s =
      { removeIf (s.file.events &&& FILE_EVENT_WRITABLE ≠ 0) s.file.writeHandle
          (removeIf (s.file.events &&& FILE_EVENT_READABLE ≠ 0) s.file.readHandle
            (removeIf s.file.asyncReadInProgress s.file.asyncReadEventfd s)) with
        file := s.file
        destroyed := true } := by
  simp only [fileDestroy, if_pos htype]
  congr 1
  simp only [removeIf_file]

theorem fileDestroy_other (htype : s.file.type ≠ .pipe) :
    fileDestroy s =
      { removeIf s.file.asyncReadInProgress s.file.asyncReadEventfd s with
        file := s.file
        destroyed := true } := by
  simp only [fileDestroy, if_neg htype]
  congr 1
  simp only [removeIf_file]

theorem fileDestroy_matched (h : s.Matched) (hlive : s.destroyed = false) :
    (fileDestroy s).Matched := by
  have hasync : s.file.asyncReadEventfd ∈ s.sources ↔ s.file.asyncReadInProgress = true :=
    (h.sources .asyncRead trivial).trans (and_iff_right hlive)
  obtain ⟨hremovals₁, hgone₁, hothers₁⟩ := removeIf_spec h.removals hasync
  by_cases htype : s.file.type = .pipe
  · obtain ⟨hread, hwrite, hends⟩ := s.file.distinct htype
    have hreadable : s.file.readHandle ∈ s.sources ↔
        decide (s.file.events &&& FILE_EVENT_READABLE ≠ 0) = true := by
      rw [decide_eq_true_iff]
      exact (h.sources .readable htype).trans (and_iff_right hlive)
    have hwritable : s.file.writeHandle ∈ s.sources ↔
        decide (s.file.events &&& FILE_EVENT_WRITABLE ≠ 0) = true := by
      rw [decide_eq_true_iff]
      exact (h.sources .writable htype).trans (and_iff_right hlive)
    obtain ⟨hremovals₂, hgone₂, hothers₂⟩ := removeIf_spec hremovals₁
      ((hothers₁ _ (Ne.symm hread)).trans hreadable)
    obtain ⟨hremovals₃, hgone₃, hothers₃⟩ := removeIf_spec hremovals₂
      ((hothers₂ _ (Ne.symm hends)).trans ((hothers₁ _ (Ne.symm hwrite)).trans hwritable))
    rw [fileDestroy_pipe htype]
    refine ⟨hremovals₃, fun source _ => iff_of_false ?_ fun hdead => Bool.noConfusion hdead.1⟩
    cases source with
    | asyncRead =>
        exact fun hmem => hgone₁ ((hothers₂ _ hread).mp ((hothers₃ _ hwrite).mp hmem))
    | readable => exact fun hmem => hgone₂ ((hothers₃ _ hends).mp hmem)
    | writable => exact hgone₃
  · rw [fileDestroy_other htype]
    refine ⟨hremovals₁, fun source hhas => iff_of_false ?_ fun hdead => Bool.noConfusion hdead.1⟩
    cases source with
    | asyncRead => exact hgone₁
    | readable => exact absurd hhas htype
    | writable => exact absurd hhas htype

-- A step keeps the event loop in line with the flags unless an asynchronous read fails to start.
theorem next_matched_iff {operation : Operation} (h : s.Matched)
    (hnext : next s operation = some s') : s'.Matched ↔ ¬ ReadFails s operation := by
  have hkeeps (hother : ∀ lengthToRead added, operation ≠ .readAsync lengthToRead added)
      (hmatched : s'.Matched) : s'.Matched ↔ ¬ ReadFails s operation := by
    refine iff_of_true hmatched ?_
    rintro ⟨lengthToRead, hread, -⟩
    exact hother _ _ hread
  unfold next at hnext
  by_cases hdestroyed : s.destroyed = true
  · rw [if_pos hdestroyed] at hnext
    cases hnext
  have hlive : s.destroyed = false := Bool.not_eq_true _ ▸ hdestroyed
  rw [if_neg hdestroyed] at hnext
  cases operation with
  | readAsync lengthToRead added =>
      cases hnext
      constructor
      · intro hmatched hfails
        exact fileReadAsync_unmatched h hlive hfails hmatched
      · exact fileReadAsync_matched h hlive
  | abortAsyncRead =>
      cases hnext
      exact hkeeps (fun _ _ => Operation.noConfusion) (fileAbortAsyncRead_matched h hlive)
  | handleAsyncRead result =>
      simp only [Option.ite_none_right_eq_some, Option.some.injEq] at hnext
      obtain ⟨hregistered, rfl⟩ := hnext
      exact hkeeps (fun _ _ => Operation.noConfusion)
        (fileHandleAsyncRead_matched h hlive hregistered result)
  | setEvents events readAdded writeAdded =>
      cases hnext
      exact hkeeps (fun _ _ => Operation.noConfusion)
        (fileSetEvents_matched h hlive events readAdded writeAdded)
  | handleReadableEvent =>
      simp only [Option.ite_none_right_eq_some, Option.some.injEq] at hnext
      obtain ⟨⟨htype, hregistered⟩, rfl⟩ := hnext
      exact hkeeps (fun _ _ => Operation.noConfusion)
        (handleEvent_matched h hlive .readable htype hregistered)
  | handleWritableEvent =>
      simp only [Option.ite_none_right_eq_some, Option.some.injEq] at hnext
      obtain ⟨⟨htype, hregistered⟩, rfl⟩ := hnext
      exact hkeeps (fun _ _ => Operation.noConfusion)
        (handleEvent_matched h hlive .writable htype hregistered)
  | destroy =>
      cases hnext
      exact hkeeps (fun _ _ => Operation.noConfusion) (fileDestroy_matched h hlive)

end Operations

section Runs

variable {s s' : State}

-- An asynchronous read that is not started leaves its two fields alone.
def ReadKept (s : State) (operation : Operation) (s' : State) : Prop :=
  ∀ lengthToRead added, operation = .readAsync lengthToRead added →
    (fileReadAsync lengthToRead added s).1 ≠ .success →
      s'.file.asyncReadInProgress = s.file.asyncReadInProgress ∧
        s'.file.lengthToReadAsync = s.file.lengthToReadAsync

@[simp] theorem send_file (callback : Callback) (s : State) : (send callback s).file = s.file := by
  unfold send
  split_ifs <;> rfl

theorem next_readAsync {lengthToRead : UInt64} {added : Bool}
    (hnext : next s (.readAsync lengthToRead added) = some s') :
    s' = (fileReadAsync lengthToRead added s).2 := by
  unfold next at hnext
  by_cases hdestroyed : s.destroyed = true
  · rw [if_pos hdestroyed] at hnext
    cases hnext
  · rw [if_neg hdestroyed] at hnext
    exact (Option.some.inj hnext).symm

theorem readKept_iff {operation : Operation} (hnext : next s operation = some s') :
    ReadKept s operation s' ↔ ¬ ReadFails s operation := by
  constructor
  · rintro hkept ⟨lengthToRead, rfl, hlength, hprogress⟩
    have hcall : fileReadAsync lengthToRead false s = (.unknownError,
        send (.asyncFileRead .internalError 0) (setAsyncRead true lengthToRead s)) := by
      simp [fileReadAsync, hprogress, Nat.not_lt.mpr hlength]
    have hsame := (hkept lengthToRead false rfl (by rw [hcall]; exact PacketE.noConfusion)).1
    rw [next_readAsync hnext, hcall, send_file, hprogress] at hsame
    exact Bool.false_ne_true hsame.symm
  · intro hworks lengthToRead added heq herror
    subst heq
    rw [next_readAsync hnext]
    unfold fileReadAsync at herror ⊢
    by_cases hlength : lengthToRead.toNat > 9223372036854775807
    · rw [if_pos hlength, send_file]
      exact ⟨rfl, rfl⟩
    by_cases hprogress : s.file.asyncReadInProgress = true
    · rw [if_neg hlength, if_pos hprogress, send_file]
      exact ⟨rfl, rfl⟩
    rw [if_neg hlength, if_neg hprogress] at herror
    cases added with
    | true => exact absurd rfl herror
    | false =>
        refine absurd ⟨lengthToRead, rfl, by omega, ?_⟩ hworks
        exact Bool.not_eq_true _ ▸ hprogress

theorem created_matched (fresh : Fresh) : (created fresh).Matched := by
  refine ⟨rfl, fun source hhas => iff_of_false ?_ ?_⟩
  · cases source with
    | asyncRead => exact fresh.async_fresh
    | readable => exact (fresh.pipe_fresh hhas).1
    | writable => exact (fresh.pipe_fresh hhas).2
  · rintro ⟨-, harmed⟩
    cases source with
    | asyncRead => exact Bool.false_ne_true harmed
    | readable => exact harmed UInt16.zero_and
    | writable => exact harmed UInt16.zero_and

-- The event loop and the flags go together, and a read that is not started leaves no trace, in
-- exactly the runs in which no asynchronous read fails to start because of event_add_source.
theorem registrations_match_iff (fresh : Fresh) (operations : List Operation) :
    Always next State.Matched (created fresh) operations ∧
        Along next ReadKept (created fresh) operations ↔
      Along next (fun s operation _ => ¬ ReadFails s operation) (created fresh) operations := by
  have halways := always_iff_along (I := fun _ => True)
    (C := fun s operation _ => ¬ ReadFails s operation) (fun _ _ _ _ _ => trivial)
    (fun _ _ _ _ hmatched hnext => next_matched_iff hmatched hnext) trivial
    (created_matched fresh) operations
  have halong : Along next ReadKept (created fresh) operations ↔
      Along next (fun s operation _ => ¬ ReadFails s operation) (created fresh) operations :=
    along_congr (fun _ _ _ => readKept_iff) (created fresh) operations
  exact ⟨fun h => halways.mp h.1, fun h => ⟨halways.mpr h, halong.mpr h⟩⟩

-- A regular file with one reference, in an event loop without sources.
def regularFile : Fresh where
  type := .regular
  asyncReadEventfd := 7
  readHandle := 0
  writeHandle := 0
  sources := ∅
  externalReferenceCount := 1
  distinct := by decide
  async_fresh := by decide
  pipe_fresh := by decide

theorem regularFile_unmatched :
    ¬ (Always next State.Matched (created regularFile) [.readAsync 100 false] ∧
      Along next ReadKept (created regularFile) [.readAsync 100 false]) := by
  rintro ⟨-, hkept, -⟩
  have hsame := (hkept 100 false rfl (by decide)).1
  exact Bool.false_ne_true hsame.symm

end Runs

end RedApid.Files
