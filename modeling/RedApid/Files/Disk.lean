import RedApid.Files.Directory

namespace RedApid.Files

section Functions

-- A file system, and all names in it.
structure Disk where
  tree : FileSystem
  names : List CString
  named : ∀ path name, tree.node (path ++ [name]) ≠ none → name ∈ names

-- What directory_create runs into besides of what it does to the file system: no memory, no child, or
-- a child that cannot change its identity, and a child whose exit status is not received.
structure DirectoryOutcome where
  refused : Option APIError
  lost : Option APIError

theorem mkdir_node {path : CString} {fs made : FileSystem} (h : mkdir path fs = .ok made) :
    fs.node (components path) = none ∧ ∀ other, made.node other =
      if other = components path then some .directory else fs.node other := by
  unfold mkdir at h
  rcases path_cases fs (components path) with ⟨hwalk, hparent, -⟩ | ⟨hwalk, -⟩ | ⟨hwalk, -⟩
  · simp only [hwalk] at h
    cases hnode : fs.node (components path) with
    | some node =>
        rw [hnode] at h
        cases h
    | none =>
        rw [hnode] at h
        cases h
        exact ⟨rfl, PathTree.makeDirectory_node hparent⟩
  · simp only [hwalk] at h
    cases h
  · simp only [hwalk] at h
    cases h

theorem directoryCheck_fs (flags : UInt32) (errno : Errno) (buffer : List UInt8) (fs : FileSystem) :
    (directoryCheck flags errno buffer fs).fs = fs := by
  unfold directoryCheck
  split
  · rfl
  · split
    · rfl
    · split_ifs <;> rfl

-- The second mkdir fails, or nothing but its directory is new.
theorem directoryRetry_node (flags : UInt32) (buffer : List UInt8) (fs : FileSystem)
    (path : List CString) (h : path ≠ components (cString buffer) ∨
      (directoryRetry flags buffer fs).code ≠ .success) :
    (directoryRetry flags buffer fs).fs.node path = fs.node path := by
  unfold directoryRetry at h ⊢
  cases hmade : mkdir (cString buffer) fs with
  | error errno =>
      simp only
      rw [directoryCheck_fs]
  | ok made =>
      simp only [hmade] at h ⊢
      have hpath := h.resolve_right fun hcode => hcode rfl
      rw [(mkdir_node hmade).2, if_neg hpath]

-- A helper that works below an existing directory.
theorem directoryCreateHelper_below (flags : UInt32) (buffer : List UInt8) {fs : FileSystem}
    (hwalk : fs.walk [] (components (cString buffer)) = none) (path : List CString)
    (h : path ≠ components (cString buffer) ∨
      (directoryCreateHelper flags buffer fs).code ≠ .success) :
    (directoryCreateHelper flags buffer fs).fs.node path = fs.node path := by
  unfold directoryCreateHelper at h ⊢
  unfold mkdir at h ⊢
  rw [hwalk] at h ⊢
  cases hnode : fs.node (components (cString buffer)) with
  | some node =>
      simp only
      rw [directoryCheck_fs]
  | none =>
      simp only [hnode] at h ⊢
      have hpath := h.resolve_right fun hcode => hcode rfl
      rcases path_cases fs (components (cString buffer)) with ⟨-, hparent, -⟩ | ⟨hwalk', -⟩ | ⟨hwalk', -⟩
      · rw [PathTree.makeDirectory_node hparent, if_neg hpath]
      · rw [hwalk] at hwalk'
        cases hwalk'
      · rw [hwalk] at hwalk'
        cases hwalk'

-- Nothing is made but directories along the path, the last of them only if the call succeeds.
theorem directoryCreateHelper_node (flags : UInt32) (buffer : List UInt8) (fs : FileSystem)
    (habsolute : (cString buffer).head? = some slash) (path : List CString)
    (hpath : ¬path <+: components (cString buffer) ∨
      path = components (cString buffer) ∧ (cString buffer).getLast? ≠ some slash ∧
        (directoryCreateHelper flags buffer fs).code ≠ .success) :
    (directoryCreateHelper flags buffer fs).fs.node path = fs.node path := by
  induction hlength : (cString buffer).length using Nat.strong_induction_on generalizing buffer with
  | _ length ih =>
      have hne : path ≠ components (cString buffer) ∨
          (directoryCreateHelper flags buffer fs).code ≠ .success :=
        hpath.imp (fun hnot hsame => hnot (hsame ▸ List.prefix_rfl)) (·.2.2)
      rcases path_cases fs (components (cString buffer)) with ⟨hwalk, -⟩ | ⟨hwalk, hparent, -⟩ | ⟨hwalk, -⟩
      · exact directoryCreateHelper_below flags buffer hwalk path hne
      · rw [directoryCreateHelper_missing flags hwalk] at hne ⊢
        split_ifs with hrecursive
        · rfl
        rw [if_neg hrecursive] at hne
        rcases strrchrSlash_cases (cString buffer) with ⟨-, hnone⟩ | ⟨front, name, hsplit, hname, hslash⟩
        · exact absurd (List.mem_of_head? habsolute) hnone
        rw [hslash] at hne ⊢
        simp only at hne ⊢
        by_cases hfront : front.length ≠ 0
        · rw [if_pos hfront] at hne ⊢
          have hcut := cString_set_zero hsplit
          have hleads : components front <+: components (cString buffer) := by
            rw [hsplit, components_append]
            exact List.prefix_append _ _
          have habsolute' : (cString (buffer.set front.length 0)).head? = some slash := by
            rw [hcut]
            rwa [hsplit, List.head?_append_of_ne_nil _
              (fun hnil => hfront (List.length_eq_zero_iff.mpr hnil))] at habsolute
          have hnot : ¬path <+: components (cString (buffer.set front.length 0)) := by
            rw [hcut]
            intro hpath'
            rcases hpath with hnot | ⟨rfl, hlast, -⟩
            · exact hnot (hpath'.trans hleads)
            · have hnil : name ≠ [] := by
                rintro rfl
                apply hlast
                rw [hsplit]
                simp
              have hlen := hpath'.length_le
              rw [hsplit, components_append, components_of_noSlash hname, if_neg hnil,
                List.length_append, List.length_singleton] at hlen
              omega
          have hinner := ih (cString (buffer.set front.length 0)).length
            (by rw [← hlength, hcut, hsplit, List.length_append, List.length_cons]; omega)
            (buffer.set front.length 0) habsolute' (Or.inl hnot) rfl
          have hbuffer := (helperSpec flags (buffer.set front.length 0) fs habsolute').buffer_eq
          rw [hbuffer, set_back hsplit] at hne ⊢
          split_ifs at hne ⊢
          · exact hinner
          · exact (directoryRetry_node flags buffer _ path hne).trans hinner
        · rw [if_neg hfront] at hne ⊢
          exact directoryRetry_node flags buffer fs path hne
      · rw [directoryCreateHelper_blocked flags hwalk]

-- strdup of a name.
def strdup (name : CString) : List UInt8 := name ++ [0]

theorem cString_strdup (name : CString) : cString (strdup name) = cString name := by
  unfold cString strdup
  rw [List.takeWhile_append]
  split_ifs with hall
  · rw [List.Sublist.eq_of_length (List.takeWhile_sublist _) hall]
    exact List.append_nil name
  · rfl

def Disk.create (disk : Disk) (flags : UInt32) (buffer : List UInt8)
    (habsolute : (cString buffer).head? = some slash) : Disk where
  tree := (directoryCreateHelper flags buffer disk.tree).fs
  names := disk.names ++ components (cString buffer)
  named path name h := by
    by_cases hleads : path ++ [name] <+: components (cString buffer)
    · exact List.mem_append_right _ (hleads.subset (List.mem_append_right _ (List.mem_singleton_self _)))
    · rw [directoryCreateHelper_node flags buffer disk.tree habsolute _ (Or.inl hleads)] at h
      exact List.mem_append_left _ (disk.named path name h)

-- directory_create with valid flags and permissions.
def directoryCreate (outcome : DirectoryOutcome) (name : CString) (flags : UInt32) (disk : Disk) :
    APIE × Disk :=
  if habsolute : (cString (strdup name)).head? = some slash then
    match outcome.refused with
    | some code => (code, disk)
    | none =>
        let result := directoryCreateHelper flags (strdup name) disk.tree
        match outcome.lost with
        | some code => (code, disk.create flags (strdup name) habsolute)
        | none => (result.code, disk.create flags (strdup name) habsolute)
  else (.invalidParameter, disk)

def Disk.isEmpty (disk : Disk) (path : List CString) : Bool :=
  disk.names.all fun name => disk.tree.node (path ++ [name]) = none

theorem Disk.isEmpty_iff (disk : Disk) (path : List CString) :
    disk.isEmpty path = true ↔ ∀ name, disk.tree.node (path ++ [name]) = none := by
  unfold isEmpty
  simp only [List.all_eq_true, decide_eq_true_eq]
  constructor
  · intro hall name
    by_contra hsome
    exact hsome (hall name (disk.named path name hsome))
  · exact fun hall name _ => hall name

def rmdir (name : CString) (disk : Disk) : Disk :=
  if h : disk.tree.node (components name) = some .directory ∧ components name ≠ [] ∧
      disk.isEmpty (components name) = true then
    { tree := disk.tree.removeNode (components name) h.2.1 ((disk.isEmpty_iff _).mp h.2.2)
      names := disk.names
      named := fun path name hsome => by
        apply disk.named path name
        intro hnone
        change Function.update disk.tree.node _ none _ ≠ none at hsome
        rw [Function.update_apply, hnone] at hsome
        split_ifs at hsome <;> exact hsome rfl }
  else disk

-- A file that is opened for writing, and that is made if there is none.
def Disk.createFile (disk : Disk) (name : CString) : Disk where
  tree := disk.tree.makeOther (components name)
  names := disk.names ++ components name
  named path file h := by
    by_cases hnew : disk.tree.node (components name).dropLast = some .directory ∧
        disk.tree.node (components name) = none
    · rw [PathTree.makeOther_node hnew.1 hnew.2] at h
      split_ifs at h with hsame
      · rw [← hsame]
        exact List.mem_append_right _ (List.mem_append_right _ (List.mem_singleton_self _))
      · exact List.mem_append_left _ (disk.named path file h)
    · unfold PathTree.makeOther at h
      rw [dif_neg hnew] at h
      exact List.mem_append_left _ (disk.named path file h)

end Functions

section Fresh

variable {disk : Disk} {fs : FileSystem} {name file : CString}

-- A directory with both flags is made exactly here.
structure Creatable (fs : FileSystem) (name : CString) : Prop where
  new : fs.node (components name) = none
  free : ¬AncestorBlocks fs (components name)
  once : ¬Revisited fs name

theorem creatable_iff (buffer : List UInt8) (fs : FileSystem)
    (habsolute : (cString buffer).head? = some slash) :
    (directoryCreateHelper bothFlags buffer fs).code = .success ↔ Creatable fs (cString buffer) := by
  have hflags : Recursive bothFlags ∧ Exclusive bothFlags := by
    unfold Recursive Exclusive
    decide
  by_cases hfails : DirectoryCreateFails bothFlags fs (cString buffer)
  · obtain ⟨-, -, hblocks, hvisit⟩ := hfails
    refine iff_of_false ?_ fun h => h.once hvisit
    rcases path_cases fs (components (cString buffer)) with ⟨-, hparent, -⟩ | ⟨-, hparent, -⟩ | ⟨-, hblocked⟩
    · exact absurd hparent hvisit.parent_missing
    · rw [((helperSpec bothFlags buffer fs habsolute).recursively hparent hblocks).revisited hflags.1
        hflags.2 hvisit]
      decide
    · exact absurd hblocked hblocks
  · rw [(directoryCreateHelper_exact bothFlags buffer fs habsolute hfails).exclusive hflags.1 hflags.2]
    constructor
    · rintro ⟨hnew, hfree⟩
      exact ⟨hnew, hfree, fun hvisit => hfails ⟨hflags.1, hflags.2, hfree, hvisit⟩⟩
    · exact fun h => ⟨h.new, h.free⟩

-- A directory that has just been made, and its contents.
structure Disk.Fresh (disk : Disk) (name : CString) : Prop where
  directory : disk.tree.node (components name) = some .directory
  named : components name ≠ []
  empty : ∀ file, disk.tree.node (components name ++ [file]) = none

theorem Creatable.fresh (h : Creatable disk.tree (cString (strdup name)))
    (habsolute : (cString (strdup name)).head? = some slash) :
    (disk.create bothFlags (strdup name) habsolute).Fresh (cString (strdup name)) := by
  have hcode := (creatable_iff (strdup name) disk.tree habsolute).mpr h
  have hne : components (cString (strdup name)) ≠ [] := by
    intro hnil
    have hnew := h.new
    rw [hnil, disk.tree.root] at hnew
    cases hnew
  have hfails : ¬DirectoryCreateFails bothFlags disk.tree (cString (strdup name)) :=
    fun hfails => h.once hfails.2.2.2
  have hmade := (directoryCreateHelper_exact bothFlags (strdup name) disk.tree habsolute hfails).made
    hcode
  refine ⟨(hmade _).1 List.prefix_rfl, hne, fun file => ?_⟩
  refine ((hmade _).2 fun hleads => ?_).trans ?_
  · have hlength := hleads.length_le
    rw [List.length_append, List.length_singleton] at hlength
    omega
  · by_contra hsome
    have hdirectory := disk.tree.closed _ file hsome
    rw [h.new] at hdirectory
    cases hdirectory

theorem Disk.Fresh.rmdir (h : disk.Fresh name) :
    (rmdir name disk).tree.node (components name) = none := by
  unfold Files.rmdir
  rw [dif_pos ⟨h.directory, h.named, (disk.isEmpty_iff _).mpr h.empty⟩]
  exact Function.update_self _ _ _

theorem rmdir_of_file (h : disk.tree.node (components name ++ [file]) ≠ none) : rmdir name disk = disk := by
  unfold rmdir
  rw [dif_neg]
  rintro ⟨-, -, hempty⟩
  exact h ((disk.isEmpty_iff _).mp hempty file)

end Fresh

section Below

variable {disk : Disk} {name below : CString}

theorem components_below (hbelow : slash ∉ below) (hne : below ≠ []) :
    components (name ++ slash :: below) = components name ++ [below] := by
  rw [components_append, components_of_noSlash hbelow, if_neg hne]

-- A directory is made in another one, and everything else stays as it is.
theorem directoryCreate_below (outcome : DirectoryOutcome) (hbelow : slash ∉ below) (hne : below ≠ [])
    (hnull : 0 ∉ name ++ slash :: below) (habsolute : name.head? = some slash)
    (hdirectory : disk.tree.node (components name) = some .directory)
    (hnew : disk.tree.node (components name ++ [below]) = none) :
    ((directoryCreate outcome (name ++ slash :: below) DIRECTORY_FLAG_RECURSIVE disk).1 = .success ↔
        outcome.refused = none ∧ outcome.lost = none) ∧
      ∀ path, path ≠ components name ++ [below] →
        (directoryCreate outcome (name ++ slash :: below) DIRECTORY_FLAG_RECURSIVE disk).2.tree.node path =
          disk.tree.node path := by
  have hbuffer : cString (strdup (name ++ slash :: below)) = name ++ slash :: below := by
    rw [cString_strdup, cString_of_noNull hnull]
  have habsolute' : (cString (strdup (name ++ slash :: below))).head? = some slash := by
    rw [hbuffer, List.head?_append, habsolute]
    rfl
  have hflags : Recursive DIRECTORY_FLAG_RECURSIVE ∧ ¬Exclusive DIRECTORY_FLAG_RECURSIVE := by
    unfold Recursive Exclusive
    decide
  have hexact := directoryCreateHelper_exact DIRECTORY_FLAG_RECURSIVE _ disk.tree habsolute'
    fun hfails => hflags.2 hfails.2.1
  have hparent : disk.tree.node (components name ++ [below]).dropLast = some .directory := by
    rw [List.dropLast_concat]
    exact hdirectory
  have hcode : (directoryCreateHelper DIRECTORY_FLAG_RECURSIVE (strdup (name ++ slash :: below))
      disk.tree).code = .success := by
    rw [hexact.recursive hflags.1 hflags.2, hbuffer, components_below hbelow hne, hnew]
    exact ⟨by simp, @PathTree.Blocked.of_parent _ disk.tree [] _ hparent⟩
  have hmade := hexact.made hcode
  rw [hbuffer, components_below hbelow hne] at hmade
  have hkept : ∀ path, path ≠ components name ++ [below] →
      (directoryCreateHelper DIRECTORY_FLAG_RECURSIVE (strdup (name ++ slash :: below))
        disk.tree).fs.node path = disk.tree.node path := by
    intro path hpath
    by_cases hleads : path <+: components name ++ [below]
    · rw [(hmade path).1 hleads]
      obtain ⟨rest, hrest⟩ := (List.prefix_concat_iff.mp hleads).resolve_left hpath
      by_cases hnil : rest = []
      · rw [hnil, List.append_nil] at hrest
        rw [hrest, hdirectory]
      · refine (PathTree.node_of_append ?_ hnil).symm
        rw [hrest, hdirectory]
        exact Option.some_ne_none _
    · exact (hmade path).2 hleads
  unfold directoryCreate
  rw [dif_pos habsolute']
  cases hrefused : outcome.refused with
  | some code => exact ⟨iff_of_false code.property fun hboth => (nomatch hboth.1), fun _ _ => rfl⟩
  | none =>
      cases hlost : outcome.lost with
      | some code => exact ⟨iff_of_false code.property fun hboth => (nomatch hboth.2), hkept⟩
      | none => exact ⟨iff_of_true hcode ⟨rfl, rfl⟩, hkept⟩

theorem Disk.createFile_node (hbelow : slash ∉ below) (hne : below ≠ [])
    (hdirectory : disk.tree.node (components name) = some .directory)
    (hnew : disk.tree.node (components name ++ [below]) = none) (path : List CString) :
    (disk.createFile (name ++ slash :: below)).tree.node path =
      if path = components name ++ [below] then some .other else disk.tree.node path := by
  change (disk.tree.makeOther (components (name ++ slash :: below))).node path = _
  rw [components_below hbelow hne]
  refine PathTree.makeOther_node ?_ hnew path
  rw [List.dropLast_concat]
  exact hdirectory

end Below

end RedApid.Files
