import Mathlib.Data.List.Nodup
import RedApid.Cron.Basic
import RedApid.Types

namespace RedApid.Cron

-- A local variable of C, its value is undefined until something is assigned to it.
inductive Variable (α : Type) where
  | unassigned
  | assigned (value : α)

-- The outcomes of the calls in cron_add_entry that can fail: robust_snprintf for the file name and
-- for the content, array_append, and the calls for the file.
structure AddEntryOutcomes where
  formatFilename : Option APIError
  formatContent : Option APIError
  append : Option APIError
  mkostemp : Option APIError
  fchmod : Option APIError
  write : Option APIError
  rename : Option APIError

variable {Notify Data : Type}

-- The entries, and the files that are there for cron.
structure CronState (Notify Data : Type) where
  table : Table Notify Data
  files : CString → Option CString

-- There is nothing to say about a function that has read a variable before it was assigned.
inductive AddEntryResult (Notify Data : Type) where
  | undefined
  | returned (code : APIE) (state : CronState Notify Data)

section Functions

variable (outcomes : AddEntryOutcomes)

-- The loop over the entries. It leaves the index of the entry, or NULL.
def findEntry (programId : UInt16) :
    List (Entry Notify Data) → Nat → Variable (Option Nat) → Variable (Option Nat)
  | [], _, entry => entry
  | e :: entries, i, _ =>
      if e.programId = programId then .assigned (some i)
      else findEntry programId entries (i + 1) (.assigned none)

def CronState.setEntries (state : CronState Notify Data) (entries : List (Entry Notify Data)) :
    CronState Notify Data :=
  { state with table := { state.table with entries } }

def AddEntryOutcomes.fileError : Option APIError :=
  outcomes.mkostemp <|> outcomes.fchmod <|> outcomes.write <|> outcomes.rename

-- From phase 1 on.
def writeCronFile (appended : Bool) (programId : UInt16) (content : CString)
    (state : CronState Notify Data) : AddEntryResult Notify Data :=
  match outcomes.fileError with
  | some code =>
      .returned code (if appended then state.setEntries state.table.entries.dropLast else state)
  | none =>
      .returned .success { state with
        files := Function.update state.files (cronFormatFilename programId) (some content) }

def cronAddEntry (programId : UInt16) (identifier fields : CString) (notify : Notify) (data : Data)
    (state : CronState Notify Data) : AddEntryResult Notify Data :=
  match outcomes.formatFilename with
  | some code => .returned code state
  | none =>
      match outcomes.formatContent with
      | some code => .returned code state
      | none =>
          let content := cronContent identifier fields state.table.cookie programId
          let entries := state.table.entries
          match findEntry programId entries 0 .unassigned with
          | .unassigned => .undefined
          | .assigned none =>
              match outcomes.append with
              | some code => .returned code state
              | none =>
                  writeCronFile outcomes true programId content
                    (state.setEntries (entries ++ [⟨programId, notify, data⟩]))
          | .assigned (some i) =>
              writeCronFile outcomes false programId content
                (state.setEntries (entries.set i ⟨programId, notify, data⟩))

end Functions

section Specification

-- The table holds this entry for the program, and every other as before.
structure EntryAdded (programId : UInt16) (notify : Notify) (data : Data)
    (before after : Table Notify Data) : Prop where
  cookie : after.cookie = before.cookie
  own : after.entries.filter (·.programId = programId) = [⟨programId, notify, data⟩]
  others : after.entries.filter (·.programId ≠ programId) =
    before.entries.filter (·.programId ≠ programId)

structure AddEntryExact (programId : UInt16) (notify : Notify) (data : Data)
    (state : CronState Notify Data) (result : AddEntryResult Notify Data) : Prop where
  returns : ∃ code after, result = .returned code after
  added : ∀ after, result = .returned .success after →
    EntryAdded programId notify data state.table after.table
  unchanged : ∀ code after, code ≠ .success → result = .returned code after →
    after.table = state.table

-- The loop is not entered, or the entry that it finds is changed and then the file is not written.
def AddEntryFails (outcomes : AddEntryOutcomes) (programId : UInt16) (notify : Notify) (data : Data)
    (entries : List (Entry Notify Data)) : Prop :=
  outcomes.formatFilename = none ∧ outcomes.formatContent = none ∧
    (entries = [] ∨ outcomes.fileError ≠ none ∧
      ∃ entry ∈ entries, entry.programId = programId ∧ entry ≠ ⟨programId, notify, data⟩)

end Specification

section Lookup

variable {programId : UInt16} {entries front back : List (Entry Notify Data)}
  {entry : Entry Notify Data}

theorem findEntry_cases (programId : UInt16) (entries : List (Entry Notify Data)) (i : Nat)
    (pointer : Variable (Option Nat)) (hne : entries ≠ []) :
    (findEntry programId entries i pointer = .assigned none ∧
        ∀ entry ∈ entries, entry.programId ≠ programId) ∨
      ∃ front entry back, entries = front ++ entry :: back ∧ entry.programId = programId ∧
        findEntry programId entries i pointer = .assigned (some (i + front.length)) := by
  induction entries generalizing i pointer with
  | nil => exact absurd rfl hne
  | cons e entries ih =>
      unfold findEntry
      by_cases hsame : e.programId = programId
      · rw [if_pos hsame]
        exact Or.inr ⟨[], e, entries, rfl, hsame, rfl⟩
      · rw [if_neg hsame]
        by_cases hlast : entries = []
        · subst hlast
          refine Or.inl ⟨rfl, fun entry hmem => ?_⟩
          rw [List.mem_singleton.mp hmem]
          exact hsame
        · rcases ih (i + 1) (.assigned none) hlast with
            ⟨hnone, hothers⟩ | ⟨front, entry, back, hsplit, hentry, hfound⟩
          · refine Or.inl ⟨hnone, fun entry hmem => ?_⟩
            rcases List.mem_cons.mp hmem with rfl | hmem
            · exact hsame
            · exact hothers entry hmem
          · refine Or.inr ⟨e :: front, entry, back, by rw [hsplit, List.cons_append], hentry, ?_⟩
            rw [hfound, List.length_cons, Nat.add_assoc, Nat.add_comm 1]

-- With distinct IDs the entry is the only one of its program.
theorem split_others (hdistinct : ((front ++ entry :: back).map Entry.programId).Nodup) :
    ∀ other ∈ front ++ back, other.programId ≠ entry.programId := by
  rw [List.map_append, List.map_cons] at hdistinct
  have hmiddle : (front.map Entry.programId ++ entry.programId :: back.map Entry.programId).Perm
      (entry.programId :: (front.map Entry.programId ++ back.map Entry.programId)) :=
    List.perm_middle
  have hperm := hmiddle.nodup_iff.mp hdistinct
  have hnotMem := (List.nodup_cons.mp hperm).1
  intro other hmem hsame
  rw [← List.map_append, ← hsame] at hnotMem
  exact hnotMem (List.mem_map_of_mem hmem)

theorem filter_split (hothers : ∀ other ∈ front ++ back, other.programId ≠ programId)
    (hentry : entry.programId = programId) :
    (front ++ entry :: back).filter (·.programId = programId) = [entry] ∧
      (front ++ entry :: back).filter (·.programId ≠ programId) = front ++ back := by
  have hnone : ∀ part ⊆ front ++ back, part.filter (·.programId = programId) = [] ∧
      part.filter (·.programId ≠ programId) = part := by
    intro part hpart
    refine ⟨List.filter_eq_nil_iff.mpr fun other hmem => ?_, List.filter_eq_self.mpr fun other hmem => ?_⟩
    · simpa using hothers other (hpart hmem)
    · simpa using hothers other (hpart hmem)
  obtain ⟨hfront, hfront'⟩ := hnone front (List.subset_append_left front back)
  obtain ⟨hback, hback'⟩ := hnone back (List.subset_append_right front back)
  refine ⟨?_, ?_⟩
  · rw [List.filter_append, List.filter_cons, hfront, hback]
    simp [hentry]
  · rw [List.filter_append, List.filter_cons, hfront', hback']
    simp [hentry]

end Lookup

section Exact

variable {outcomes : AddEntryOutcomes} {programId : UInt16} {notify : Notify} {data : Data}
  {content : CString} {state changed : CronState Notify Data} {entries : List (Entry Notify Data)}

theorem AddEntryExact.error {code : APIE} {after : CronState Notify Data} (hcode : code ≠ .success)
    (htable : after.table = state.table) :
    AddEntryExact programId notify data state (.returned code after) := by
  refine ⟨⟨code, after, rfl⟩, fun after' heq => ?_, fun code' after' hcode' heq => ?_⟩
  · cases heq
    exact absurd rfl hcode
  · cases heq
    exact htable

theorem AddEntryExact.success {after : CronState Notify Data}
    (h : EntryAdded programId notify data state.table after.table) :
    AddEntryExact programId notify data state (.returned .success after) := by
  refine ⟨⟨.success, after, rfl⟩, fun after' heq => ?_, fun code' after' hcode' heq => ?_⟩
  · cases heq
    exact h
  · cases heq
    exact absurd rfl hcode'

-- What is put into the table stays there exactly as long as the file can be written.
theorem writeCronFile_exact_iff (appended : Bool)
    (hadded : EntryAdded programId notify data state.table changed.table) :
    AddEntryExact programId notify data state
        (writeCronFile outcomes appended programId content changed) ↔
      (outcomes.fileError = none ∨ (if appended then
        changed.setEntries changed.table.entries.dropLast else changed).table = state.table) := by
  unfold writeCronFile
  cases outcomes.fileError with
  | none => exact iff_of_true (.success hadded) (Or.inl rfl)
  | some code =>
      constructor
      · intro hexact
        exact Or.inr (hexact.unchanged code _ code.property rfl)
      · intro hsame
        exact .error code.property (hsame.resolve_left fun hnone => (nomatch hnone))

theorem setEntries_table (state : CronState Notify Data) (entries : List (Entry Notify Data)) :
    (state.setEntries entries).table = state.table ↔ entries = state.table.entries := by
  constructor
  · intro htable
    exact congrArg Table.entries htable
  · rintro rfl
    rfl

-- A new entry is taken out again if there is no file for it.
theorem writeCronFile_append_exact
    (hnone : ∀ entry ∈ state.table.entries, entry.programId ≠ programId) :
    AddEntryExact programId notify data state (writeCronFile outcomes true programId content
      (state.setEntries (state.table.entries ++ [⟨programId, notify, data⟩]))) := by
  have hothers : ∀ other ∈ state.table.entries ++ [], other.programId ≠ programId := by
    rw [List.append_nil]
    exact hnone
  obtain ⟨hown, hrest⟩ := @filter_split _ _ programId state.table.entries []
    ⟨programId, notify, data⟩ hothers rfl
  have hkept : state.table.entries.filter (·.programId ≠ programId) = state.table.entries := by
    refine List.filter_eq_self.mpr fun other hmem => ?_
    simpa using hnone other hmem
  rw [List.append_nil] at hrest
  have hadded : EntryAdded programId notify data state.table
      (state.setEntries (state.table.entries ++ [⟨programId, notify, data⟩])).table :=
    ⟨rfl, hown, hrest.trans hkept.symm⟩
  refine (writeCronFile_exact_iff true hadded).mpr (Or.inr ?_)
  rw [if_pos rfl]
  have hlast : (state.setEntries (state.table.entries ++ [⟨programId, notify, data⟩])).table.entries
      = state.table.entries ++ [⟨programId, notify, data⟩] := rfl
  rw [hlast, List.dropLast_concat]
  rfl

-- An entry that was there is not put back.
theorem writeCronFile_replace_exact_iff {front back : List (Entry Notify Data)}
    {entry : Entry Notify Data} (hsplit : state.table.entries = front ++ entry :: back)
    (hentry : entry.programId = programId)
    (hothers : ∀ other ∈ front ++ back, other.programId ≠ programId) :
    AddEntryExact programId notify data state (writeCronFile outcomes false programId content
        (state.setEntries (state.table.entries.set front.length ⟨programId, notify, data⟩))) ↔
      (outcomes.fileError = none ∨ entry = ⟨programId, notify, data⟩) := by
  have hset : state.table.entries.set front.length ⟨programId, notify, data⟩ =
      front ++ ⟨programId, notify, data⟩ :: back := by
    rw [hsplit, List.set_append_right _ _ (Nat.le_refl _), Nat.sub_self, List.set_cons_zero]
  obtain ⟨hown, hrest⟩ := @filter_split _ _ programId front back ⟨programId, notify, data⟩ hothers rfl
  obtain ⟨-, hrest'⟩ := filter_split hothers hentry
  have hadded : EntryAdded programId notify data state.table
      (state.setEntries (front ++ ⟨programId, notify, data⟩ :: back)).table := by
    refine ⟨rfl, hown, ?_⟩
    rw [hsplit]
    exact hrest.trans hrest'.symm
  rw [hset, writeCronFile_exact_iff false hadded, if_neg Bool.false_ne_true, setEntries_table, hsplit]
  have hsame : front ++ ⟨programId, notify, data⟩ :: back = front ++ entry :: back ↔
      entry = ⟨programId, notify, data⟩ := by
    rw [List.append_cancel_left_eq, List.cons.injEq, eq_comm, and_iff_left rfl]
  rw [hsame]

-- Exactly if the table is not empty, and no entry is changed for nothing.
theorem add_entry_exact_iff (outcomes : AddEntryOutcomes) (programId : UInt16)
    (identifier fields : CString) (notify : Notify) (data : Data) (state : CronState Notify Data)
    (hdistinct : (state.table.entries.map Entry.programId).Nodup) :
    AddEntryExact programId notify data state
        (cronAddEntry outcomes programId identifier fields notify data state) ↔
      ¬AddEntryFails outcomes programId notify data state.table.entries := by
  unfold cronAddEntry AddEntryFails
  cases outcomes.formatFilename with
  | some code => exact iff_of_true (.error code.property rfl) fun hfails => (nomatch hfails.1)
  | none =>
  cases outcomes.formatContent with
  | some code => exact iff_of_true (.error code.property rfl) fun hfails => (nomatch hfails.2.1)
  | none =>
  simp only [true_and]
  by_cases hempty : state.table.entries = []
  · -- nothing was assigned
    rw [hempty]
    refine iff_of_false (fun hexact => ?_) fun hmet => hmet (Or.inl rfl)
    obtain ⟨code, after, heq⟩ := hexact.returns
    cases heq
  rw [or_iff_right hempty]
  rcases findEntry_cases programId state.table.entries 0 .unassigned hempty with
    ⟨hfound, hnone⟩ | ⟨front, entry, back, hsplit, hentry, hfound⟩
  · simp only [hfound]
    refine iff_of_true ?_ ?_
    · cases outcomes.append with
      | some code => exact .error code.property rfl
      | none => exact writeCronFile_append_exact hnone
    · rintro ⟨-, entry, hmem, hsame, -⟩
      exact hnone entry hmem hsame
  · have hothers : ∀ other ∈ front ++ back, other.programId ≠ programId := by
      rw [hsplit] at hdistinct
      exact hentry ▸ split_others hdistinct
    have honly : (∃ other ∈ state.table.entries, other.programId = programId ∧
        other ≠ ⟨programId, notify, data⟩) ↔ entry ≠ ⟨programId, notify, data⟩ := by
      constructor
      · rintro ⟨other, hmem, hsame, hne⟩
        have hmem' : other ∈ state.table.entries.filter (·.programId = programId) :=
          List.mem_filter.mpr ⟨hmem, decide_eq_true hsame⟩
        rw [hsplit, (filter_split hothers hentry).1, List.mem_singleton] at hmem'
        rwa [← hmem']
      · intro hne
        refine ⟨entry, ?_, hentry, hne⟩
        rw [hsplit]
        exact List.mem_append_right _ List.mem_cons_self
    simp only [hfound, Nat.zero_add]
    rw [writeCronFile_replace_exact_iff hsplit hentry hothers, honly, not_and_or, not_not, not_not]

-- A program whose cron fields were changed, and no space for the file.
def noSpaceOutcomes : AddEntryOutcomes :=
  ⟨none, none, none, none, none, some ⟨.noFreeSpace, by decide⟩, none⟩

def oneEntryState : CronState Nat Nat := ⟨⟨7, [⟨3, 0, 0⟩]⟩, fun _ => none⟩

theorem oneEntryState_add_entry : AddEntryExact 4 0 1 oneEntryState
    (cronAddEntry noSpaceOutcomes 4 [] [] 0 1 oneEntryState) := by
  refine (add_entry_exact_iff noSpaceOutcomes 4 [] [] 0 1 oneEntryState (by decide)).mpr ?_
  rintro ⟨-, -, hnil | ⟨-, entry, hmem, hsame, -⟩⟩
  · cases hnil
  · rw [List.mem_singleton.mp hmem] at hsame
    cases hsame

-- The first entry ever, and an entry that is changed without a file.
theorem add_entry_undefined_or_unfinished :
    cronAddEntry noSpaceOutcomes 4 [] [] 0 1 (⟨⟨7, []⟩, fun _ => none⟩ : CronState Nat Nat) =
        .undefined ∧
      ¬AddEntryExact 3 0 1 oneEntryState (cronAddEntry noSpaceOutcomes 3 [] [] 0 1 oneEntryState) := by
  refine ⟨rfl, fun hexact => ?_⟩
  have htable := hexact.unchanged .noFreeSpace _ (by decide) rfl
  have hentries := congrArg Table.entries htable
  cases hentries

end Exact

end RedApid.Cron
