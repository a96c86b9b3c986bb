import RedApid.Scheduler.Counts

namespace RedApid.Scheduling

open Memory

variable {w w' : World} {append : Nat → Option APIError} {ps items result : List ProgramRef}

section Functions

-- list_append_to for a program.
def World.list (w : World) (p : ProgramRef) : World :=
  w.modifyProgram p fun program =>
    { program with
      internalReferenceCount := program.internalReferenceCount + 1
      listed := program.listed + 1 }

-- list_unlock_and_release_item for a program.
def World.unlist (p : ProgramRef) (w : World) : World :=
  (w.modifyProgram p fun program => { program with listed := program.listed - 1 })
    |>.removeProgramInternalReference p .succeed

-- The loop of inventory_get_programs over the programs that are left. `append` has the errors of
-- array_append, the list is destroyed if there is one.
def appendPrograms (append : Nat → Option APIError) :
    List ProgramRef → List ProgramRef → World → Except APIE (List ProgramRef) × World
  | [], items, w => (.ok items, w)
  | p :: ps, items, w =>
      -- ignore program object that are only alive because there are external references left to it
      if (w.programs.get p).any (·.internalReferenceCount = 0) then appendPrograms append ps items w
      else if items.length = UINT16_MAX then
        (.error .invalidOperation, items.foldl (fun w p => w.unlist p) w)
      else
        match append items.length with
        | some code => (.error code, items.foldl (fun w p => w.unlist p) w)
        | none => appendPrograms append ps (items ++ [p]) (w.list p)

-- The items of the list that is returned. `allocate` is the error of list_allocate.
def inventoryGetPrograms (allocate : Option APIError) (append : Nat → Option APIError) (w : World) :
    Except APIE (List ProgramRef) × World :=
  match allocate with
  | some code => (.error code, w)
  | none => appendPrograms append w.programRefs [] w

end Functions

section Loop

def World.isReferenced (w : World) (p : ProgramRef) : Bool :=
  !(w.programs.get p).any (·.internalReferenceCount = 0)

theorem World.list_isReferenced {p q : ProgramRef} (hne : q ≠ p) :
    (w.list p).isReferenced q = w.isReferenced q := by
  unfold World.isReferenced World.list World.modifyProgram
  rw [Heap.get_modify, if_neg hne]

-- An item that is appended does not change what is found for the programs behind it.
theorem appendPrograms_ok (hnodup : ps.Nodup)
    (hok : appendPrograms append ps items w = (.ok result, w')) :
    result = items ++ ps.filter w.isReferenced := by
  induction ps generalizing items w with
  | nil =>
      cases hok
      simp
  | cons p ps ih =>
      obtain ⟨hnew, hnodup⟩ := List.nodup_cons.mp hnodup
      unfold appendPrograms at hok
      by_cases hnone : (w.programs.get p).any (·.internalReferenceCount = 0) = true
      · have hunreferenced : w.isReferenced p = false := by simp [World.isReferenced, hnone]
        rw [if_pos hnone] at hok
        rw [ih hnodup hok, List.filter_cons_of_neg (by simp [hunreferenced])]
      · have hreferenced : w.isReferenced p = true := by simpa [World.isReferenced] using hnone
        rw [if_neg hnone] at hok
        split_ifs at hok
        · cases hok
        · cases happend : append items.length with
          | some code =>
              rw [happend] at hok
              cases hok
          | none =>
              rw [happend] at hok
              have hsame : ps.filter (w.list p).isReferenced = ps.filter w.isReferenced := by
                apply List.filter_congr
                intro q hq
                exact World.list_isReferenced fun heq => hnew (heq ▸ hq)
              rw [ih hnodup hok, hsame, List.filter_cons_of_pos hreferenced, List.append_assoc]
              rfl

end Loop

section Shown

-- The programs of a list are those that are not purged.
structure World.Shows (w : World) (items : List ProgramRef) : Prop where
  nodup : items.Nodup
  defined : ∀ p, p ∈ items ↔ ∃ program, w.programs.get p = some program ∧ program.purged = false

-- No list has a purged program as an item.
def World.PurgedUnlisted (w : World) : Prop :=
  ∀ p program, w.programs.get p = some program → program.purged = true → program.listed = 0

theorem mem_inventoryGetPrograms {allocate : Option APIError}
    (hok : inventoryGetPrograms allocate append w = (.ok items, w')) :
    items.Nodup ∧ ∀ p, p ∈ items ↔ ∃ program, w.programs.get p = some program ∧
      program.internalReferenceCount ≠ 0 := by
  have hnodup : w.programRefs.Nodup := List.nodup_range.filter _
  unfold inventoryGetPrograms at hok
  cases allocate with
  | some code => cases hok
  | none =>
      rw [appendPrograms_ok hnodup hok, List.nil_append]
      refine ⟨hnodup.filter _, fun p => ?_⟩
      rw [List.mem_filter]
      constructor
      · rintro ⟨hmem, hreferenced⟩
        obtain ⟨program, hget⟩ := World.get_of_mem_programRefs hmem
        refine ⟨program, hget, ?_⟩
        simpa [World.isReferenced, hget] using hreferenced
      · rintro ⟨program, hget, hcount⟩
        exact ⟨World.mem_programRefs hget, by simpa [World.isReferenced, hget] using hcount⟩

theorem inventory_get_programs_exact_iff {x11Enabled : Bool}
    {events : List (World.Event × Outcomes)}
    (hrun : Trace.run World.next (World.init x11Enabled) events = some w)
    {allocate : Option APIError} (hok : inventoryGetPrograms allocate append w = (.ok items, w')) :
    w.Shows items ↔ w.PurgedUnlisted := by
  have hcounted := World.counted_of_run hrun
  obtain ⟨hnodup, hmem⟩ := mem_inventoryGetPrograms hok
  constructor
  · intro hshows p program hget hpurged
    by_contra hlisted
    have hcount := hcounted p program hget
    unfold Program.Counted at hcount
    -- the lists keep the program in front of its last internal reference
    have hitem : p ∈ items := (hmem p).mpr ⟨program, hget, by omega⟩
    obtain ⟨other, hother, hunpurged⟩ := (hshows.defined p).mp hitem
    rw [hget] at hother
    cases hother
    rw [hpurged] at hunpurged
    cases hunpurged
  · intro hunlisted
    refine ⟨hnodup, fun p => (hmem p).trans (exists_congr fun program => and_congr_right ?_)⟩
    intro hget
    have hcount := hcounted p program hget
    unfold Program.Counted at hcount
    cases hpurged : program.purged with
    | true =>
        have hzero := hunlisted p program hget hpurged
        simp [hcount, hpurged, hzero]
    | false => simp [hcount, hpurged]

-- A client asks for the programs, keeps the list and purges the only one.
def shownPurge : List (World.Event × Outcomes) :=
  [loadGreeter keeperFile, (.brickdAccept, .succeed), (.request (.listProgram 0), .succeed),
    (.request (.programPurge 0 (purgeCookie (ascii "greeter")) []), .succeed)]

theorem shownPurge_not_shows : ∃ w items w',
    Trace.run World.next (World.init false) shownPurge = some w ∧
      inventoryGetPrograms none (fun _ => none) w = (.ok items, w') ∧ ¬w.Shows items := by
  obtain ⟨w, hrun, w', hok, program, hget, hpurged⟩ : ∃ w,
      Trace.run World.next (World.init false) shownPurge = some w ∧ ∃ w',
        inventoryGetPrograms none (fun _ => none) w = (.ok [0], w') ∧
          ∃ program, w.programs.get 0 = some program ∧ program.purged = true :=
    ⟨_, rfl, _, rfl, _, rfl, rfl⟩
  refine ⟨w, [0], w', hrun, hok, fun hshows => ?_⟩
  obtain ⟨other, hother, hunpurged⟩ := (hshows.defined 0).mp List.mem_cons_self
  rw [hget] at hother
  cases hother
  rw [hpurged] at hunpurged
  cases hunpurged

-- Without the purge the list of the client does no harm.
theorem shownPurge_shows : ∃ w items w',
    Trace.run World.next (World.init false) (shownPurge.take 3) = some w ∧
      inventoryGetPrograms none (fun _ => none) w = (.ok items, w') ∧ w.Shows items := by
  obtain ⟨w, hrun, hnext, ⟨greeter, hgreeter, hunpurged⟩, w', hok⟩ : ∃ w,
      Trace.run World.next (World.init false) (shownPurge.take 3) = some w ∧
        w.programs.next = 1 ∧
        (∃ greeter, w.programs.get 0 = some greeter ∧ greeter.purged = false) ∧ ∃ w',
          inventoryGetPrograms none (fun _ => none) w = (.ok [0], w') :=
    ⟨_, rfl, rfl, ⟨_, rfl, rfl⟩, _, rfl⟩
  refine ⟨w, [0], w', hrun, hok, (inventory_get_programs_exact_iff hrun hok).mpr ?_⟩
  intro p program hget hpurged
  have hlt := Heap.lt_next_of_get hget
  rw [hnext] at hlt
  obtain rfl : p = 0 := by omega
  rw [hgreeter] at hget
  cases hget
  rw [hunpurged] at hpurged
  cases hpurged

end Shown

end RedApid.Scheduling
