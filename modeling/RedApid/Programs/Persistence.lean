import RedApid.Programs.Restart

namespace RedApid.Scheduling

open Memory

variable {programsDirectory : CString} {host host' : Host} {directories : ProgramsDirectory}
  {w w' : World} {p : ProgramRef} {outcomes : Outcomes}

section Worlds

variable {I : World → Prop}

theorem inventoryLoadPrograms_keeps
    (hstep : ∀ w event w', I w → w.next event = some w' → I w') {loads : List Load} (hw : I w)
    (h : Host.inventoryLoadPrograms programsDirectory directories loads w = some w') : I w' := by
  induction loads generalizing w with
  | nil =>
      cases h
      exact hw
  | cons load loads ih =>
      rcases inventoryLoadPrograms_cons h with ⟨-, hrest⟩ | ⟨file, w₁, -, hnext, hrest⟩
      · exact ih hw hrest
      · exact ih (hstep w _ w₁ hw hnext) hrest

theorem next_stored {event : World.Event} {torn : Option ConfFile}
    (hnext : host.next programsDirectory (.world event outcomes torn) = some host') :
    host.world.next (event, outcomes) = some host'.world ∧
      host.stored outcomes torn event = some host'.directories := by
  unfold Host.next at hnext
  dsimp only at hnext
  cases hworld : host.world.next (event, outcomes) with
  | none =>
      rw [hworld] at hnext
      cases hnext
  | some w =>
      rw [hworld] at hnext
      cases hstored : host.stored outcomes torn event with
      | none =>
          rw [hstored] at hnext
          cases hnext
      | some directories =>
          rw [hstored] at hnext
          cases hnext
          exact ⟨rfl, rfl⟩

theorem next_restart {x11Enabled : Bool} {loads : List Load}
    (hnext : host.next programsDirectory (.restart x11Enabled loads) = some host') :
    (loads.map (·.name)).Perm (host.directories.entries.map (·.1)) ∧
      Host.inventoryLoadPrograms programsDirectory host.directories loads
        (World.init x11Enabled) = some host'.world ∧ host'.directories = host.directories := by
  obtain ⟨hperm, hload⟩ := Option.ite_none_right_eq_some.mp hnext
  obtain ⟨w, hw, rfl⟩ := Option.map_eq_some_iff.mp hload
  exact ⟨hperm, hw, rfl⟩

-- Whatever holds in all worlds of the daemon holds across its restarts.
theorem Host.next_world (hstep : ∀ w event w', I w → w.next event = some w' → I w')
    (hinit : ∀ x11Enabled, I (World.init x11Enabled)) (h : I host.world) {event : Host.Event}
    (hnext : host.next programsDirectory event = some host') : I host'.world := by
  cases event with
  | world event outcomes torn => exact hstep _ _ _ h (next_stored hnext).1
  | programDefine identifier id creation outcomes left =>
      exact hstep _ _ _ h (define_cases hnext).1
  | customOption p request outcomes torn =>
      rcases setOptions_cases hnext with rfl | ⟨program, code, customOptions, -, -, -, hworld, -⟩
      · exact h
      · exact hstep _ _ _ h hworld
  | restart x11Enabled loads =>
      exact inventoryLoadPrograms_keeps hstep (hinit x11Enabled) (next_restart hnext).2.1

end Worlds

section Sound

theorem init_programs (x11Enabled : Bool) (q : ProgramRef) :
    (World.init x11Enabled).programs.get q = none :=
  Heap.get_empty q

theorem directories_nodup (directories : ProgramsDirectory) :
    (directories.entries.map (·.1)).Nodup :=
  directories.distinct

-- The daemon goes through all directories.
theorem loaded_of_stored {loads : List Load} {identifier : CString} {file : ConfFile}
    (hperm : (loads.map (·.name)).Perm (directories.entries.map (·.1)))
    (hfile : directories.get identifier = some (some file)) :
    ∃ load ∈ loads, load.name = identifier := by
  have hmem : identifier ∈ directories.entries.map (·.1) := by
    by_contra hnot
    have hnone : directories.get identifier = none :=
      (OrderedMap.lookup_eq_none_iff identifier directories.entries).mpr hnot
    rw [hnone] at hfile
    cases hfile
  exact List.mem_map.mp (hperm.mem_iff.mpr hmem)

theorem Host.Sound.restart (h : host.Sound programsDirectory) {x11Enabled : Bool}
    {loads : List Load}
    (hnext : host.next programsDirectory (.restart x11Enabled loads) = some host') :
    host'.Sound programsDirectory := by
  obtain ⟨hperm, hload, hsame⟩ := next_restart hnext
  have hloaded := inventoryLoadPrograms_loaded hload
  have hnodup := hperm.nodup_iff.mpr (directories_nodup host.directories)
  have hempty : ∀ q program, (World.init x11Enabled).programs.get q ≠ some program := by
    intro q program hget
    rw [init_programs] at hget
    cases hget
  refine ⟨fun identifier file hfile => ?_, fun q program hget _ => ?_,
    fun q r program other hget hother _ _ => ?_⟩
  · rw [hsame] at hfile
    exact h.loadable identifier file hfile
  · rw [hsame]
    rcases hloaded.old q program hget with hold | ⟨-, -, hstores⟩
    · exact absurd hold (hempty q program)
    · exact hstores
  · exact hloaded.distinct hnodup (fun q program hget => absurd hget (hempty q program))
      (fun q r program other hget => absurd hget (hempty q program)) q r program other hget hother

theorem Host.Sound.next (h : host.Sound programsDirectory) {event : Host.Event}
    (hmeets : event.Meets host) (hnext : host.next programsDirectory event = some host') :
    host'.Sound programsDirectory := by
  cases event with
  | world event outcomes torn =>
      obtain ⟨hproper, rfl⟩ := hmeets
      obtain ⟨hworld, hstored⟩ := next_stored hnext
      exact h.world hproper hworld hstored
  | programDefine identifier id creation outcomes left => exact h.define hmeets hnext
  | customOption p request outcomes torn =>
      obtain ⟨rfl, hproper⟩ := hmeets
      exact h.setOptions hproper hnext
  | restart x11Enabled loads => exact h.restart hnext

end Sound

section Owned

-- Every config file that can be loaded is that of a program which has not been purged.
def Host.Owned (host : Host) : Prop :=
  ∀ identifier file, programIsValidIdentifier identifier = true →
    host.directories.get identifier = some (some file) →
    ∃ p program, host.world.programs.get p = some program ∧ program.purged = false ∧
      program.identifier = identifier

namespace Host.Owned

theorem keeps (h : host.Owned) (hkeeps : host.world.Keeps w) (hstays : host.world.Stays w) :
    Host.Owned ⟨w, host.directories⟩ := by
  intro identifier file hvalid hfile
  obtain ⟨q, program, hget, hpurged, hname⟩ := h identifier file hvalid hfile
  obtain ⟨program', hget'⟩ := hstays q program hget hpurged
  obtain ⟨other, hother, hsame⟩ := hkeeps q program' hget'
  rw [hget] at hother
  cases hother
  exact ⟨q, program', hget', (congrArg ProgramIdentity.purged hsame).trans hpurged,
    (congrArg ProgramIdentity.identifier hsame).trans hname⟩

-- Only the directory of one program changes, and it keeps the program.
theorem put (h : host.Owned) {program program' : Program}
    (hget' : ∀ q, w.programs.get q = if q = p then some program' else host.world.programs.get q)
    (hget : host.world.programs.get p = some program)
    (hidentifier : program'.identifier = program.identifier) (hpurged : program'.purged = false)
    (hothers : ∀ identifier, identifier ≠ program.identifier →
      directories.get identifier = host.directories.get identifier) :
    Host.Owned ⟨w, directories⟩ := by
  intro identifier file hvalid hfile
  by_cases hname : identifier = program.identifier
  · exact ⟨p, program', (hget' p).trans (if_pos rfl), hpurged, hidentifier.trans hname.symm⟩
  · obtain ⟨q, other, hother, hunpurged, hsame⟩ :=
      h identifier file hvalid ((hothers identifier hname).symm.trans hfile)
    refine ⟨q, other, (hget' q).trans ((if_neg ?_).trans hother), hunpurged, hsame⟩
    rintro rfl
    rw [hget] at hother
    cases hother
    exact hname hsame.symm

theorem tear_get (torn : Option ConfFile) {identifier other : CString} (hne : other ≠ identifier) :
    (host.tear identifier torn).get other = host.directories.get other := by
  unfold Host.tear
  cases torn with
  | none => rfl
  | some file => exact OrderedMap.get_set_of_ne _ _ hne

theorem set (h : host.Owned) (hsome : (host.world.programs.get p).isSome = true)
    {setter : Context → APIE × Context} {torn : Option ConfFile}
    (hsaves : ∀ c : Context, Saves (fun _ => True) c (setter c)) :
    Host.Owned ⟨(host.world.run p (fun c => (setter c).2) outcomes).1,
      host.saved p setter outcomes torn⟩ := by
  obtain ⟨program, hget⟩ := Option.isSome_iff_exists.mp hsome
  have hcases := hsaves (host.world.context program outcomes)
  have hsaved := @Host.saved_eq host p outcomes program hget setter torn
  have hothers : ∀ identifier, identifier ≠ program.identifier →
      (host.saved p setter outcomes torn).get identifier = host.directories.get identifier := by
    intro identifier hne
    rw [hsaved]
    split_ifs
    · rfl
    · exact OrderedMap.get_set_of_ne _ _ hne
    · exact tear_get torn hne
  rw [World.run_eq hget]
  dsimp only
  have hidentity : (setter (host.world.context program outcomes)).2.program.purged =
      program.purged ∧ (setter (host.world.context program outcomes)).2.program.identifier =
        program.identifier := by
    generalize setter (host.world.context program outcomes) = result at hcases
    cases hcases with
    | kept _ hkeeps =>
        exact ⟨congrArg ProgramIdentity.purged hkeeps, congrArg ProgramIdentity.identifier hkeeps⟩
    | saved _ _ hidentity =>
        exact ⟨congrArg ProgramIdentity.purged hidentity,
          congrArg ProgramIdentity.identifier hidentity⟩
  by_cases hpurged : program.purged = true
  · -- a purged program owns nothing
    rw [hsaved, if_pos hpurged]
    intro identifier file hvalid hfile
    obtain ⟨q, other, hother, hunpurged, hsame⟩ := h identifier file hvalid hfile
    refine ⟨q, other, (World.get_put hget _ q).trans ((if_neg ?_).trans hother), hunpurged, hsame⟩
    rintro rfl
    rw [hget] at hother
    cases hother
    rw [hpurged] at hunpurged
    cases hunpurged
  · exact h.put (World.get_put hget _) hget hidentity.2
      (hidentity.1.trans (Bool.eq_false_iff.mpr hpurged)) hothers

theorem purge (h : host.Owned) (hsome : (host.world.programs.get p).isSome = true)
    (cookie : UInt32) (renames : List RenameResult) :
    Host.Owned ⟨host.world.programPurge outcomes p cookie renames,
      host.moved p cookie renames outcomes⟩ := by
  obtain ⟨program, hget⟩ := Option.isSome_iff_exists.mp hsome
  rw [World.programPurge_eq hget, Host.moved_eq hget]
  have hcases := @programPurge_identity p (host.world.context program outcomes) cookie renames
  generalize programPurge p cookie renames (host.world.context program outcomes) = result
    at hcases ⊢
  have hput := World.get_put hget result.2
  rcases hcases with ⟨hsuccess, -⟩ | ⟨hfailed, hkeeps⟩
  · rw [if_pos hsuccess, if_pos hsuccess]
    intro identifier file hvalid hfile
    -- what is left in the directories belongs to other programs
    change (host.directories.removeAll (· = program.identifier)).get identifier = _ at hfile
    rw [get_removed] at hfile
    split_ifs at hfile with hname
    obtain ⟨q, other, hother, hunpurged, hsame⟩ := h identifier file hvalid hfile
    have hq : q ≠ p := by
      rintro rfl
      rw [hget] at hother
      cases hother
      exact hname hsame.symm
    refine ⟨q, other, ?_, hunpurged, hsame⟩
    have hself := hput p
    rw [if_pos rfl] at hself
    exact (World.get_removeProgramInternalReference_other hself _ hq).trans
      ((hput q).trans ((if_neg hq).trans hother))
  · rw [if_neg hfailed, if_neg hfailed]
    refine h.keeps (World.replaceProgram_identity hget hkeeps _ _) fun q other hother _ => ?_
    exact World.get_put_isSome hget _ hother

theorem define (h : host.Owned) {identifier : CString} {id : ObjectID}
    {creation : Option APIError} {left : Option (Option ConfFile)}
    (hleft : ∀ file, left ≠ some (some file))
    (hnext : host.define programsDirectory identifier id creation outcomes left = some host') :
    host'.Owned := by
  obtain ⟨-, hcases⟩ := define_cases hnext
  obtain ⟨w, directories⟩ := host'
  dsimp only at hcases
  rcases hcases with ⟨-, -, rfl, program, hidentity, hget'⟩ | ⟨rfl, hkept⟩
  · intro name file hname hfile
    by_cases hsame : name = identifier
    · exact ⟨host.world.programs.next, program, (hget' _).trans (if_pos rfl),
        congrArg ProgramIdentity.purged hidentity,
        (congrArg ProgramIdentity.identifier hidentity).trans hsame.symm⟩
    · obtain ⟨q, other, hother, hunpurged, hidentifier⟩ :=
        h name file hname ((OrderedMap.get_set_of_ne _ _ hsame).symm.trans hfile)
      exact ⟨q, other, (hget' q).trans
        ((if_neg (Nat.ne_of_lt (Heap.lt_next_of_get hother))).trans hother), hunpurged,
        hidentifier⟩
  · rcases hkept with rfl | ⟨directory, hdirectory, -, rfl⟩
    · exact h
    · intro name file hname hfile
      change (host.directories.set identifier directory).get name = _ at hfile
      by_cases hsame : name = identifier
      · rw [hsame, OrderedMap.get_set_self] at hfile
        exact absurd (hdirectory.trans hfile) (hleft file)
      · exact h name file hname ((OrderedMap.get_set_of_ne _ _ hsame).symm.trans hfile)

theorem setOptions (h : host.Owned) {request : OptionRequest} {optionOutcomes : OptionOutcomes}
    {torn : Option ConfFile} (hnext : host.setOptions p request optionOutcomes torn = some host') :
    host'.Owned := by
  rcases setOptions_cases hnext with
    rfl | ⟨program, code, customOptions, hget, hpurged, -, -, hget', hdirectories⟩
  · exact h
  · refine h.put hget' hget rfl hpurged fun identifier hne => ?_
    rw [hdirectories]
    split_ifs
    · exact OrderedMap.get_set_of_ne _ _ hne
    · exact tear_get torn hne

-- All programs are loaded again.
theorem restart {x11Enabled : Bool} {loads : List Load}
    (hloads : ∀ load ∈ loads, load.creation = none)
    (hnext : host.next programsDirectory (.restart x11Enabled loads) = some host') :
    host'.Owned := by
  obtain ⟨hperm, hload, hsame⟩ := next_restart hnext
  have hloaded := inventoryLoadPrograms_loaded hload
  intro identifier file hvalid hfile
  rw [hsame] at hfile
  obtain ⟨load, hmem, rfl⟩ := loaded_of_stored hperm hfile
  obtain ⟨q, program, hget, hidentity⟩ := hloaded.new load hmem (hloads load hmem)
    ⟨load.name, Host.rootDirectory programsDirectory load.name, false, programConfigLoad file⟩
    rfl rfl ⟨rfl, hvalid, file, hfile, rfl⟩
  exact ⟨q, program, hget, congrArg ProgramIdentity.purged hidentity,
    congrArg ProgramIdentity.identifier hidentity⟩

theorem world (h : host.Owned) (hcounted : host.world.Counted) {event : World.Event}
    {torn : Option ConfFile}
    (hworld : host.world.next (event, outcomes) = some host'.world)
    (hstored : host.stored outcomes torn event = some host'.directories) : host'.Owned := by
  obtain ⟨w, directories⟩ := host'
  dsimp only at hworld hstored
  rcases Host.stored_cases (World.next_step hworld).2 hstored with
    ⟨rfl, hkeeps, hstays⟩ | ⟨p, setter, hsome, rfl, rfl, hsetter⟩ |
    ⟨p, cookie, renames, hsome, rfl, rfl⟩
  · exact h.keeps hkeeps (hstays hcounted)
  · rcases hsetter with ⟨command, rfl, rfl⟩ | ⟨redirections, rfl, rfl⟩ | ⟨schedule, rfl, rfl⟩
    · exact h.set hsome fun c => programSetCommand_saves fun _ _ _ _ _ _ _ _ _ => trivial
    · exact h.set hsome fun c =>
        programSetStdioRedirection_saves fun _ _ _ _ _ _ _ _ _ _ _ => trivial
    · exact h.set hsome fun c => programSetSchedule_saves fun _ _ _ _ => trivial
  · exact h.purge hsome cookie renames

theorem next (h : host.Owned) (hcounted : host.world.Counted) {event : Host.Event}
    (hcomplete : event.Complete) (hnext : host.next programsDirectory event = some host') :
    host'.Owned := by
  cases event with
  | world event outcomes torn =>
      obtain ⟨hworld, hstored⟩ := next_stored hnext
      exact h.world hcounted hworld hstored
  | programDefine identifier id creation outcomes left => exact h.define hcomplete hnext
  | customOption p request outcomes torn => exact h.setOptions hnext
  | restart x11Enabled loads => exact restart hcomplete hnext

end Host.Owned

end Owned

section Restarts

variable {x11Enabled : Bool} {loads : List Load} {events : List Host.Event}

-- The programs that clients have defined and not purged, each with all of its settings.
def Host.Defines (host : Host) (identity : ProgramIdentity) : Prop :=
  ∃ p program, host.world.programs.get p = some program ∧ program.purged = false ∧
    program.identity = identity

-- A restart purges nothing, and it brings no program back twice.
def Host.Fresh (host : Host) : Prop :=
  (∀ p program, host.world.programs.get p = some program → program.purged = false) ∧
    ∀ p q program other, host.world.programs.get p = some program →
      host.world.programs.get q = some other → program.identifier = other.identifier → p = q

-- Whatever the daemon is doing, all its programs are there again once it has been restarted.
def Host.Restorable (programsDirectory : CString) (host : Host) : Prop :=
  ∀ x11Enabled loads host', (∀ load ∈ loads, load.creation = none) →
    host.next programsDirectory (.restart x11Enabled loads) = some host' →
    host'.Fresh ∧ ∀ identity, host.Defines identity → host'.Defines identity

-- And no others are.
def Host.Exact (programsDirectory : CString) (host : Host) : Prop :=
  ∀ x11Enabled loads host', (∀ load ∈ loads, load.creation = none) →
    host.next programsDirectory (.restart x11Enabled loads) = some host' →
    host'.Fresh ∧ ∀ identity, host'.Defines identity ↔ host.Defines identity

theorem fresh_of_restart
    (hnext : host.next programsDirectory (.restart x11Enabled loads) = some host') :
    host'.Fresh := by
  obtain ⟨hperm, hload, -⟩ := next_restart hnext
  have hloaded := inventoryLoadPrograms_loaded hload
  have hempty : ∀ q program, (World.init x11Enabled).programs.get q ≠ some program := by
    intro q program hget
    rw [init_programs] at hget
    cases hget
  constructor
  · intro q program hget
    rcases hloaded.old q program hget with hold | ⟨hpurged, -, -⟩
    · exact absurd hold (hempty q program)
    · exact hpurged
  · exact hloaded.distinct (hperm.nodup_iff.mpr (directories_nodup host.directories))
      (fun q program hget => absurd hget (hempty q program))
      fun q r program other hget => absurd hget (hempty q program)

theorem Host.Sound.restorable (h : host.Sound programsDirectory) :
    host.Restorable programsDirectory := by
  intro x11Enabled loads host' hloads hnext
  refine ⟨fresh_of_restart hnext, ?_⟩
  rintro identity ⟨p, program, hget, hpurged, rfl⟩
  obtain ⟨hperm, hload, -⟩ := next_restart hnext
  have hstores := h.stored p program hget hpurged
  obtain ⟨-, -, file, hfile, -⟩ := h.stored p program hget hpurged
  obtain ⟨load, hmem, hname⟩ := loaded_of_stored hperm hfile
  obtain ⟨q, program', hget', hidentity⟩ := (inventoryLoadPrograms_loaded hload).new load hmem
    (hloads load hmem) program.identity hname.symm hpurged hstores
  exact ⟨q, program', hget', (congrArg ProgramIdentity.purged hidentity).trans hpurged, hidentity⟩

theorem Host.Sound.exact (h : host.Sound programsDirectory) (howned : host.Owned) :
    host.Exact programsDirectory := by
  intro x11Enabled loads host' hloads hnext
  have hrestored := h.restorable x11Enabled loads host' hloads hnext
  refine ⟨hrestored.1, fun identity => ⟨?_, hrestored.2 identity⟩⟩
  rintro ⟨q, program', hget', hpurged', rfl⟩
  obtain ⟨-, hload, -⟩ := next_restart hnext
  rcases (inventoryLoadPrograms_loaded hload).old q program' hget' with hold | ⟨-, -, hstores⟩
  · rw [init_programs] at hold
    cases hold
  · -- the config file belongs to a program, which has the settings that are saved there
    obtain ⟨hroot, hvalid, file, hfile, hconfig⟩ := hstores
    obtain ⟨p, program, hget, hpurged, hname⟩ := howned _ file hvalid hfile
    have hname' : program.identity.identifier = program'.identity.identifier := hname
    obtain ⟨hroot', -, file', hfile', hconfig'⟩ := h.stored p program hget hpurged
    rw [hname', hfile] at hfile'
    cases hfile'
    refine ⟨p, program, hget, hpurged, ?_⟩
    have hsettings : program.identity.config = program'.identity.config :=
      hconfig'.symm.trans hconfig
    have hdirectory : program.identity.rootDirectory = program'.identity.rootDirectory := by
      rw [hroot, hroot', hname']
    have hunpurged : program.identity.purged = program'.identity.purged :=
      hpurged.trans hpurged'.symm
    exact ProgramIdentity.ext hname' hdirectory hunpurged hsettings

theorem init_sound (x11Enabled : Bool) (htexts : ∀ identifier file,
    directories.get identifier = some (some file) → ConfFile.Text file) :
    (Host.init x11Enabled directories).Sound programsDirectory where
  loadable identifier file hfile := programConfigLoad_saveable (htexts identifier file hfile)
  stored q program hget := by
    change (World.init x11Enabled).programs.get q = some program at hget
    rw [init_programs] at hget
    cases hget
  distinct q r program other hget := by
    change (World.init x11Enabled).programs.get q = some program at hget
    rw [init_programs] at hget
    cases hget

theorem programs_survive_restarts (x11Enabled : Bool) (htexts : ∀ identifier file,
      directories.get identifier = some (some file) → ConfFile.Text file)
    (hmeets : Trace.Along (Host.next programsDirectory) (fun host event _ => event.Meets host)
      (Host.init x11Enabled directories) events) :
    Trace.Always (Host.next programsDirectory) (Host.Restorable programsDirectory)
      (Host.init x11Enabled directories) events := by
  refine Trace.Always.mono (fun host (h : host.Sound programsDirectory) => h.restorable) ?_
  exact Trace.always_of_along (fun host event host' h hnext hmeets => h.next hmeets hnext)
    (init_sound x11Enabled htexts) hmeets

-- A program is defined, it gets an interval and a custom option, and the daemon is restarted.
def greeterHistory : List Host.Event :=
  [.world .brickdAccept .succeed none,
    .programDefine (ascii "greeter") 8 none .succeed none,
    .world (.request (.programSetSchedule 0 ⟨2, 1, 60, .ok []⟩)) .succeed none,
    .customOption 0 (.setValue (.ok (ascii "name")) (.ok (ascii "Greeter"))) ⟨none, none⟩ none,
    .restart true [⟨ascii "greeter", 5, none, .succeed⟩]]

theorem textOnly_ok {content : CString} (h : 0 ∉ content) : TextOnly (.ok content) := by
  rintro other ⟨⟩
  exact h

theorem greeterHistory_meet : ∀ event ∈ greeterHistory, ∀ host : Host, event.Meets host := by
  intro event hmem host
  simp only [greeterHistory, List.mem_cons, List.not_mem_nil, or_false] at hmem
  rcases hmem with rfl | rfl | rfl | rfl | rfl
  · exact ⟨trivial, rfl⟩
  · rintro file ⟨⟩
  · exact ⟨textOnly_ok List.not_mem_nil, rfl⟩
  · exact ⟨rfl, fun _ _ => ⟨textOnly_ok (by decide), textOnly_ok (by decide)⟩⟩
  · trivial

theorem greeterHistory_survives :
    Trace.Always (Host.next (ascii "/programs")) (Host.Restorable (ascii "/programs"))
        (Host.init true OrderedMap.empty) greeterHistory ∧
      ((Trace.run (Host.next (ascii "/programs")) (Host.init true OrderedMap.empty)
        greeterHistory).bind fun host => host.world.programs.get 0).map
          (fun program => (program.id, program.config.startInterval)) = some (5, 60) := by
  refine ⟨programs_survive_restarts true (fun identifier file hfile => ?_)
    (Trace.along_of_forall_mem (fun event hmem host _ => greeterHistory_meet event hmem host) _), ?_⟩
  · cases hfile
  · decide

theorem restarts_are_exact (x11Enabled : Bool) (htexts : ∀ identifier file,
      directories.get identifier = some (some file) → ConfFile.Text file)
    (hloads : ∀ load ∈ loads, load.creation = none)
    (hstart : (Host.init x11Enabled directories).next programsDirectory
      (.restart x11Enabled loads) = some host)
    (hmeets : Trace.Along (Host.next programsDirectory)
      (fun host event _ => event.Meets host ∧ event.Complete) host events) :
    Trace.Always (Host.next programsDirectory) (Host.Exact programsDirectory) host events := by
  have hstep : ∀ (w : World) event w', (w.Inv ∧ w.Counted) → w.next event = some w' →
      w'.Inv ∧ w'.Counted := by
    intro w event w' h hnext
    obtain ⟨hcrashed, hstep⟩ := World.next_step hnext
    exact ⟨h.1.next hnext, h.2.step h.1 hcrashed hstep⟩
  have hinit : ∀ x11Enabled, (World.init x11Enabled).Inv ∧ (World.init x11Enabled).Counted := by
    refine fun x11Enabled => ⟨World.init_inv x11Enabled, fun q program hget => ?_⟩
    rw [init_programs] at hget
    cases hget
  have hsound := (init_sound x11Enabled htexts).restart hstart
  have hworld := Host.next_world hstep hinit (hinit x11Enabled) hstart
  have howned := Host.Owned.restart hloads hstart
  refine Trace.Always.mono (I := fun host => host.Sound programsDirectory ∧
    (host.world.Inv ∧ host.world.Counted) ∧ host.Owned) (fun host h => h.1.exact h.2.2) ?_
  refine Trace.always_of_along (fun host event host' h hnext hmeets => ?_)
    ⟨hsound, hworld, howned⟩ hmeets
  exact ⟨h.1.next hmeets.1 hnext, Host.next_world hstep hinit h.2.1 hnext,
    h.2.2.next h.2.1.2 hmeets.2 hnext⟩

theorem greeterHistory_complete : ∀ event ∈ greeterHistory, event.Complete := by
  intro event hmem
  simp only [greeterHistory, List.mem_cons, List.not_mem_nil, or_false] at hmem
  rcases hmem with rfl | rfl | rfl | rfl | rfl
  · trivial
  · intro file hfile
    cases hfile
  · trivial
  · trivial
  · intro load hload
    rw [List.mem_singleton.mp hload]

theorem greeterHistory_exact :
    Trace.Always (Host.next (ascii "/programs")) (Host.Exact (ascii "/programs"))
      (Host.init true OrderedMap.empty) greeterHistory := by
  refine @restarts_are_exact _ _ OrderedMap.empty [] _ true ?_ ?_ ?_ ?_
  · intro identifier file hfile
    cases hfile
  · intro load hload
    cases hload
  · rfl
  · exact Trace.along_of_forall_mem (fun event hmem host _ =>
      ⟨greeterHistory_meet event hmem host, greeterHistory_complete event hmem⟩) _

end Restarts

end RedApid.Scheduling
