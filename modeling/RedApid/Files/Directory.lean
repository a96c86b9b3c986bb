import RedApid.Config.Text
import RedApid.PathTree
import RedApid.Types

namespace RedApid.Files

def slash : UInt8 := 47

def DIRECTORY_FLAG_RECURSIVE : UInt32 := 0x0001
def DIRECTORY_FLAG_EXCLUSIVE : UInt32 := 0x0002

section Paths

def pushName (name : CString) (names : List CString) : List CString :=
  if name = [] then names else name :: names

-- What is in front of the first slash, and the names behind it.
def splitFirst : CString → CString × List CString
  | [] => ([], [])
  | byte :: path =>
      let (first, names) := splitFirst path
      if byte = slash then ([], pushName first names) else (byte :: first, names)

-- The names in a path. Repeated and trailing slashes do not matter.
def components (path : CString) : List CString := pushName (splitFirst path).1 (splitFirst path).2

-- strrchr(path, '/'), as an index.
def strrchrSlash : CString → Option Nat
  | [] => none
  | byte :: path =>
      match strrchrSlash path with
      | some i => some (i + 1)
      | none => if byte = slash then some 0 else none

theorem splitFirst_append (path rest : CString) :
    splitFirst (path ++ slash :: rest) =
      ((splitFirst path).1, (splitFirst path).2 ++ components rest) := by
  induction path with
  | nil =>
      unfold components
      simp [splitFirst]
  | cons byte path ih =>
      rw [List.cons_append]
      unfold splitFirst
      rw [ih]
      by_cases hbyte : byte = slash
      · simp only [if_pos hbyte]
        unfold pushName
        split_ifs <;> rfl
      · simp only [if_neg hbyte]

theorem components_append (path rest : CString) :
    components (path ++ slash :: rest) = components path ++ components rest := by
  have hsplit := splitFirst_append path rest
  unfold components at hsplit ⊢
  rw [hsplit]
  simp only
  unfold pushName
  split_ifs <;> rfl

theorem components_of_noSlash {name : CString} (h : slash ∉ name) :
    components name = if name = [] then [] else [name] := by
  have hsplit : splitFirst name = (name, []) := by
    induction name with
    | nil => rfl
    | cons byte name ih =>
        rw [List.mem_cons, not_or] at h
        unfold splitFirst
        rw [ih h.2]
        simp only [if_neg (Ne.symm h.1)]
  unfold components
  rw [hsplit]
  rfl

theorem strrchrSlash_cases (path : CString) :
    (strrchrSlash path = none ∧ slash ∉ path) ∨
      ∃ front name, path = front ++ slash :: name ∧ slash ∉ name ∧
        strrchrSlash path = some front.length := by
  induction path with
  | nil => exact Or.inl ⟨rfl, List.not_mem_nil⟩
  | cons byte path ih =>
      unfold strrchrSlash
      rcases ih with ⟨hnone, hnot⟩ | ⟨front, name, hpath, hname, hfound⟩
      · rw [hnone]
        by_cases hbyte : byte = slash
        · exact Or.inr ⟨[], path, by rw [hbyte]; rfl, hnot, by simp only [if_pos hbyte]; rfl⟩
        · refine Or.inl ⟨by simp only [if_neg hbyte], ?_⟩
          rw [List.mem_cons, not_or]
          exact ⟨Ne.symm hbyte, hnot⟩
      · rw [hfound]
        exact Or.inr ⟨byte :: front, name, by rw [hpath, List.cons_append], hname, rfl⟩

end Paths

section Functions

-- Without symbolic links, and with all permissions.
abbrev FileSystem := PathTree CString

inductive Errno where
  | ENOENT
  | EEXIST
  | ENOTDIR
deriving DecidableEq, Repr

-- api_get_error_code_from_errno
def Errno.code : Errno → APIE
  | ENOENT => .doesNotExist
  | EEXIST => .alreadyExists
  | ENOTDIR => .notADirectory

def obstacleErrno : Obstacle → Errno
  | .missing => .ENOENT
  | .notDirectory => .ENOTDIR

-- mkdir and stat with the names . and .. left out.
def mkdir (path : CString) (fs : FileSystem) : Except Errno FileSystem :=
  match fs.walk [] (components path) with
  | some obstacle => .error (obstacleErrno obstacle)
  | none =>
      match fs.node (components path) with
      | some _ => .error .EEXIST
      | none => .ok (fs.makeDirectory (components path))

def stat (path : CString) (fs : FileSystem) : Except Errno PathNode :=
  match fs.walk [] (components path) with
  | some obstacle => .error (obstacleErrno obstacle)
  | none =>
      match fs.node (components path) with
      | some node => .ok node
      | none => .error .ENOENT

-- The error code, the buffer with the name in it, and the file system.
structure DirectoryResult where
  code : APIE
  buffer : List UInt8
  fs : FileSystem

-- What follows if mkdir fails with this errno and there is nothing to retry.
def directoryCheck (flags : UInt32) (errno : Errno) (buffer : List UInt8) (fs : FileSystem) :
    DirectoryResult :=
  if errno ≠ .EEXIST then ⟨errno.code, buffer, fs⟩
  else
    match stat (cString buffer) fs with
    | .error errno => ⟨errno.code, buffer, fs⟩
    | .ok node =>
        if node ≠ .directory then ⟨.notADirectory, buffer, fs⟩
        else if flags &&& DIRECTORY_FLAG_EXCLUSIVE ≠ 0 then ⟨.alreadyExists, buffer, fs⟩
        else ⟨.success, buffer, fs⟩

-- The second mkdir.
def directoryRetry (flags : UInt32) (buffer : List UInt8) (fs : FileSystem) : DirectoryResult :=
  match mkdir (cString buffer) fs with
  | .ok fs => ⟨.success, buffer, fs⟩
  | .error errno => directoryCheck flags errno buffer fs

theorem cString_set_zero {buffer : List UInt8} {front rest : CString} {byte : UInt8}
    (h : cString buffer = front ++ byte :: rest) :
    cString (buffer.set front.length 0) = front := by
  induction front generalizing buffer with
  | nil =>
      cases buffer with
      | nil => cases h
      | cons first buffer => rfl
  | cons first front ih =>
      cases buffer with
      | nil => cases h
      | cons first' buffer =>
          unfold cString at h ih ⊢
          rw [List.takeWhile_cons] at h
          by_cases hfirst : decide (first' ≠ 0) = true
          · rw [if_pos hfirst, List.cons_append, List.cons.injEq] at h
            rw [List.length_cons, List.set_cons_succ, List.takeWhile_cons, if_pos hfirst, ih h.2, h.1]
          · rw [if_neg hfirst] at h
            cases h

theorem length_cString_set {buffer : List UInt8} {i : Nat}
    (h : strrchrSlash (cString buffer) = some i) :
    (cString (buffer.set i 0)).length < (cString buffer).length := by
  rcases strrchrSlash_cases (cString buffer) with ⟨hnone, -⟩ | ⟨front, name, hpath, -, hfound⟩
  · rw [hnone] at h
    cases h
  · rw [hfound] at h
    cases h
    rw [cString_set_zero hpath, hpath, List.length_append, List.length_cons]
    omega

-- The recursion shortens the name in place, and puts the slash back afterwards.
def directoryCreateHelper (flags : UInt32) (buffer : List UInt8) (fs : FileSystem) :
    DirectoryResult :=
  match mkdir (cString buffer) fs with
  | .ok fs => ⟨.success, buffer, fs⟩
  | .error .ENOENT =>
      if flags &&& DIRECTORY_FLAG_RECURSIVE = 0 then ⟨.notSupported, buffer, fs⟩
      else
        match _h : strrchrSlash (cString buffer) with
        -- an absolute name has a slash
        | none => directoryCheck flags .ENOENT buffer fs
        | some i =>
            if i ≠ 0 then
              let result := directoryCreateHelper flags (buffer.set i 0) fs
              let buffer := result.buffer.set i slash
              if result.code ≠ .success then ⟨result.code, buffer, result.fs⟩
              else directoryRetry flags buffer result.fs
            else directoryRetry flags buffer fs
  | .error errno => directoryCheck flags errno buffer fs
termination_by (cString buffer).length
decreasing_by exact length_cString_set ‹_›

end Functions

section Specification

def Recursive (flags : UInt32) : Prop := flags &&& DIRECTORY_FLAG_RECURSIVE ≠ 0

def Exclusive (flags : UInt32) : Prop := flags &&& DIRECTORY_FLAG_EXCLUSIVE ≠ 0

-- A node above the target is there, but is no directory.
def AncestorBlocks (fs : FileSystem) (path : List CString) : Prop :=
  ∃ front, front <+: path ∧ front ≠ path ∧ fs.node front = some .other

structure DirectoryCreateExact (flags : UInt32) (buffer : List UInt8) (fs : FileSystem)
    (result : DirectoryResult) : Prop where
  buffer_eq : result.buffer = buffer
  exclusive : Recursive flags → Exclusive flags → (result.code = .success ↔
    fs.node (components (cString buffer)) = none ∧ ¬AncestorBlocks fs (components (cString buffer)))
  recursive : Recursive flags → ¬Exclusive flags → (result.code = .success ↔
    fs.node (components (cString buffer)) ≠ some .other ∧
      ¬AncestorBlocks fs (components (cString buffer)))
  not_supported : ¬Recursive flags → fs.node (components (cString buffer)).dropLast = none →
    ¬AncestorBlocks fs (components (cString buffer)) →
      result.code = .notSupported ∧ result.fs = fs
  already_exists : result.code = .alreadyExists ↔
    Exclusive flags ∧ fs.node (components (cString buffer)) = some .directory
  made : result.code = .success → fs.MadePath (components (cString buffer)) result.fs

-- Part of the name ends with a slash and stands in front of another one or at the end, and the
-- parent of what it names is missing.
def Revisited (fs : FileSystem) (name : CString) : Prop :=
  ∃ front, front ++ [slash] <+: name ++ [slash] ∧ front.getLast? = some slash ∧
    fs.node (components front).dropLast = none

-- With both flags a directory is taken for an old one that was made for such a part of the name.
def DirectoryCreateFails (flags : UInt32) (fs : FileSystem) (name : CString) : Prop :=
  Recursive flags ∧ Exclusive flags ∧ ¬AncestorBlocks fs (components name) ∧ Revisited fs name

end Specification

section Helper

variable {flags : UInt32} {buffer : List UInt8} {fs made : FileSystem} {front name : CString}

-- A path in this file system, by what mkdir runs into.
theorem path_cases (fs : FileSystem) (path : List CString) :
    (fs.walk [] path = none ∧ fs.node path.dropLast = some .directory ∧ ¬AncestorBlocks fs path) ∨
      (fs.walk [] path = some .missing ∧ fs.node path.dropLast = none ∧ ¬AncestorBlocks fs path) ∨
      (fs.walk [] path = some .notDirectory ∧ AncestorBlocks fs path) := by
  rcases PathTree.walk_cases [] path fs.root with ⟨hwalk, hparent⟩ | hmissing | hblocked
  · exact Or.inl ⟨hwalk, hparent, PathTree.Blocked.of_parent hparent⟩
  · exact Or.inr (Or.inl hmissing)
  · exact Or.inr (Or.inr hblocked)

theorem set_back {front rest : CString} {byte : UInt8} (h : cString buffer = front ++ byte :: rest) :
    (buffer.set front.length 0).set front.length byte = buffer := by
  have hbyte : buffer[front.length]? = some byte := by
    have hleads : cString buffer <+: buffer := List.takeWhile_prefix _
    rw [h] at hleads
    obtain ⟨tail, htail⟩ := hleads
    rw [← htail]
    simp
  obtain ⟨hlt, heq⟩ := List.getElem?_eq_some_iff.mp hbyte
  rw [List.set_set, ← heq, List.set_getElem_self]

theorem components_split (hname : slash ∉ name) :
    components (front ++ slash :: name) =
      components front ++ if name = [] then [] else [name] := by
  rw [components_append, components_of_noSlash hname]

-- A name that ends with a slash is looked at again without it.
theorem revisited_of_slash (hparent : fs.node (components (front ++ [slash])).dropLast = none) :
    Revisited fs (front ++ [slash]) :=
  ⟨front ++ [slash], List.prefix_rfl, by simp, hparent⟩

theorem Revisited.append (h : Revisited fs front) (name : CString) :
    Revisited fs (front ++ slash :: name) := by
  obtain ⟨part, hleads, hlast, hparent⟩ := h
  refine ⟨part, hleads.trans ⟨name ++ [slash], ?_⟩, hlast, hparent⟩
  rw [List.append_assoc, List.append_assoc]
  rfl

-- Only a part in front of the last slash can end with a slash.
theorem Revisited.of_append (hname : slash ∉ name) (hne : name ≠ [])
    (h : Revisited fs (front ++ slash :: name)) : Revisited fs front := by
  obtain ⟨part, hleads, hlast, hparent⟩ := h
  refine ⟨part, ?_, hlast, hparent⟩
  have hfront : front ++ [slash] <+: front ++ slash :: name ++ [slash] :=
    ⟨name ++ [slash], by simp⟩
  rcases List.prefix_or_prefix_of_prefix hleads hfront with hpart | ⟨rest, hrest⟩
  · exact hpart
  have hback : rest <+: name ++ [slash] := by
    rw [← hrest, show front ++ slash :: name ++ [slash] = front ++ [slash] ++ (name ++ [slash]) by simp]
      at hleads
    exact (List.prefix_append_right_inj _).mp hleads
  rcases List.prefix_concat_iff.mp hback with hall | hshort
  · -- the part would be the whole name
    rw [hall, ← List.append_assoc, List.append_left_inj] at hrest
    have hend : (front ++ [slash] ++ name).getLast? = name.getLast? :=
      List.getLast?_append_of_ne_nil _ hne
    rw [hrest, hlast] at hend
    exact absurd (List.mem_of_getLast? hend.symm) hname
  · rcases List.eq_nil_or_concat rest with hnil | ⟨init, last, hconcat⟩
    · rw [hnil, List.append_nil] at hrest
      rw [hrest]
    · rw [hconcat, List.concat_eq_append, ← List.append_assoc] at hrest
      have hslash := (List.append_inj' hrest rfl).2
      rw [List.singleton_inj] at hslash
      rw [hconcat, List.concat_eq_append, hslash] at hshort
      exact absurd (hshort.subset (List.mem_append_right _ (List.mem_singleton_self _))) hname

-- What is at the end of the path decides, if mkdir gets there.
theorem directoryCheck_eq {node : PathNode} (flags : UInt32) (buffer : List UInt8)
    (hwalk : fs.walk [] (components (cString buffer)) = none)
    (hnode : fs.node (components (cString buffer)) = some node) :
    directoryCheck flags .EEXIST buffer fs =
      ⟨if node ≠ .directory then .notADirectory
        else if flags &&& DIRECTORY_FLAG_EXCLUSIVE ≠ 0 then .alreadyExists else .success,
        buffer, fs⟩ := by
  unfold directoryCheck stat
  rw [if_neg (not_not.mpr rfl), hwalk]
  simp only [hnode]
  split_ifs <;> rfl

theorem directoryRetry_eq (flags : UInt32) (buffer : List UInt8)
    (hwalk : fs.walk [] (components (cString buffer)) = none) :
    directoryRetry flags buffer fs =
      match fs.node (components (cString buffer)) with
      | none => ⟨.success, buffer, fs.makeDirectory (components (cString buffer))⟩
      | some _ => directoryCheck flags .EEXIST buffer fs := by
  unfold directoryRetry mkdir
  rw [hwalk]
  simp only
  cases fs.node (components (cString buffer)) <;> rfl

-- The parent is there.
structure CreatedBelow (flags : UInt32) (path : List CString) (fs : FileSystem)
    (result : DirectoryResult) : Prop where
  new : fs.node path = none → result.code = .success ∧ fs.MadePath path result.fs
  old : fs.node path = some .directory →
    result.code = (if flags &&& DIRECTORY_FLAG_EXCLUSIVE ≠ 0 then .alreadyExists else .success) ∧
      result.fs = fs
  blocked : fs.node path = some .other → result.code = .notADirectory ∧ result.fs = fs

-- The parent is missing.
structure CreatedRecursively (flags : UInt32) (name : CString) (fs : FileSystem)
    (result : DirectoryResult) : Prop where
  not_supported : ¬Recursive flags → result.code = .notSupported ∧ result.fs = fs
  revisited : Recursive flags → Exclusive flags → Revisited fs name → result.code = .alreadyExists
  made : Recursive flags → ¬(Exclusive flags ∧ Revisited fs name) →
    result.code = .success ∧ fs.MadePath (components name) result.fs

-- What the helper does in each case.
structure HelperSpec (flags : UInt32) (buffer : List UInt8) (fs : FileSystem)
    (result : DirectoryResult) : Prop where
  buffer_eq : result.buffer = buffer
  below : fs.node (components (cString buffer)).dropLast = some .directory →
    CreatedBelow flags (components (cString buffer)) fs result
  recursively : fs.node (components (cString buffer)).dropLast = none →
    ¬AncestorBlocks fs (components (cString buffer)) →
      CreatedRecursively flags (cString buffer) fs result
  blocked : AncestorBlocks fs (components (cString buffer)) →
    result.code = .notADirectory ∧ result.fs = fs

theorem helperSpec_below (flags : UInt32) (buffer : List UInt8)
    (hwalk : fs.walk [] (components (cString buffer)) = none)
    (hparent : fs.node (components (cString buffer)).dropLast = some .directory)
    (hblocks : ¬AncestorBlocks fs (components (cString buffer))) :
    HelperSpec flags buffer fs (directoryCreateHelper flags buffer fs) := by
  unfold directoryCreateHelper mkdir
  rw [hwalk]
  simp only
  cases hnode : fs.node (components (cString buffer)) with
  | none =>
      have hne : components (cString buffer) ≠ [] := by
        intro hnil
        rw [hnil, fs.root] at hnode
        cases hnode
      have hmade : fs.MadePath (components (cString buffer))
          (fs.makeDirectory (components (cString buffer))) := by
        have hconcat := @PathTree.MadePath.concat _ _ _ ((components (cString buffer)).getLast hne)
          _ _ (PathTree.MadePath.refl hparent)
        rwa [List.dropLast_append_getLast hne] at hconcat
      refine ⟨rfl, fun _ => ⟨fun _ => ⟨rfl, hmade⟩, fun h => ?_, fun h => ?_⟩, fun h => ?_,
        fun h => absurd h hblocks⟩
      · rw [hnode] at h
        cases h
      · rw [hnode] at h
        cases h
      · rw [hparent] at h
        cases h
  | some node =>
      simp only
      rw [directoryCheck_eq flags buffer hwalk hnode]
      refine ⟨rfl, fun _ => ⟨fun h => ?_, fun h => ?_, fun h => ?_⟩, fun h => ?_,
        fun h => absurd h hblocks⟩
      · rw [hnode] at h
        cases h
      · rw [hnode] at h
        cases h
        exact ⟨rfl, rfl⟩
      · rw [hnode] at h
        cases h
        exact ⟨rfl, rfl⟩
      · rw [hparent] at h
        cases h

theorem walk_of_parent {path : List CString} (h : fs.node path.dropLast = some .directory) :
    fs.walk [] path = none := by
  rcases path_cases fs path with ⟨hwalk, -, -⟩ | ⟨-, hmissing, -⟩ | ⟨-, hblocks⟩
  · exact hwalk
  · rw [hmissing] at h
    cases h
  · have hfree : ¬AncestorBlocks fs path := @PathTree.Blocked.of_parent _ fs [] path h
    exact absurd hblocks hfree

theorem AncestorBlocks.append {path rest : List CString} (h : AncestorBlocks fs path) :
    AncestorBlocks fs (path ++ rest) := by
  obtain ⟨front, hleads, hne, hother⟩ := h
  refine ⟨front, hleads.trans (List.prefix_append path rest), fun hsame => hne ?_, hother⟩
  apply hleads.eq_of_length_le
  rw [hsame, List.length_append]
  omega

-- What is looked at again is below a directory that is missing.
theorem Revisited.parent_missing (h : Revisited fs front) :
    fs.node (components front).dropLast ≠ some .directory := by
  obtain ⟨part, hleads, -, hmissing⟩ := h
  obtain ⟨rest, hrest⟩ := hleads
  have hcomponents : components part ++ components rest = components front := by
    have hsame := congrArg components hrest
    rw [List.append_assoc, List.singleton_append, components_append, components_append] at hsame
    rw [hsame]
    exact List.append_nil _
  intro hparent
  rw [← hcomponents] at hparent
  by_cases hnil : components rest = []
  · rw [hnil, List.append_nil, hmissing] at hparent
    cases hparent
  · rw [List.dropLast_append_of_ne_nil hnil] at hparent
    have hpart : fs.node (components part) = some .directory := by
      by_cases hlast : (components rest).dropLast = []
      · rwa [hlast, List.append_nil] at hparent
      · exact PathTree.node_of_append (by simp [hparent]) hlast
    rcases List.eq_nil_or_concat (components part) with hroot | ⟨init, last, hconcat⟩
    · rw [hroot] at hmissing
      rw [show ([] : List CString).dropLast = [] from rfl, fs.root] at hmissing
      cases hmissing
    · rw [hconcat, List.concat_eq_append] at hpart hmissing
      rw [List.dropLast_concat, PathTree.node_of_append (by simp [hpart]) (List.cons_ne_nil last [])]
        at hmissing
      cases hmissing

-- The parents are there now. Only a name that ends with a slash finds its directory already made.
theorem directoryRetry_spec (flags : UInt32)
    (hpath : cString buffer = front ++ slash :: name) (hname : slash ∉ name)
    (hparent : fs.node (components (cString buffer)).dropLast = none)
    (hmade : fs.MadePath (components front) made) :
    (directoryRetry flags buffer made).buffer = buffer ∧
      fs.MadePath (components (cString buffer)) (directoryRetry flags buffer made).fs ∧
      (name = [] ∧ Exclusive flags → (directoryRetry flags buffer made).code = .alreadyExists) ∧
      (¬(name = [] ∧ Exclusive flags) → (directoryRetry flags buffer made).code = .success) := by
  have hsplit := @components_split front name hname
  rw [← hpath] at hsplit
  by_cases hnil : name = []
  · rw [if_pos hnil, List.append_nil] at hsplit
    have hthere : made.node (components (cString buffer)) = some .directory := by
      rw [hsplit]
      exact (hmade _).1 List.prefix_rfl
    have hwalk : made.walk [] (components (cString buffer)) = none := by
      apply walk_of_parent
      rw [hsplit]
      exact (hmade _).1 (List.dropLast_prefix _)
    rw [directoryRetry_eq flags buffer hwalk, hthere]
    simp only
    rw [directoryCheck_eq flags buffer hwalk hthere, hsplit]
    refine ⟨rfl, hmade, fun h => ?_, fun h => ?_⟩
    · simp only [ne_eq, not_true_eq_false, if_false]
      exact if_pos h.2
    · simp only [ne_eq, not_true_eq_false, if_false]
      exact if_neg fun hflags => h ⟨hnil, hflags⟩
  · rw [if_neg hnil] at hsplit
    have hmissing : fs.node (components (cString buffer)) = none := by
      rw [hsplit, List.dropLast_concat] at hparent
      rw [hsplit]
      by_contra hsome
      rw [fs.closed _ _ hsome] at hparent
      cases hparent
    have hthere : made.node (components (cString buffer)) = none := by
      rw [(hmade _).2 ?_, hmissing]
      intro hleads
      have hlength := hleads.length_le
      rw [hsplit, List.length_append, List.length_singleton] at hlength
      omega
    have hwalk : made.walk [] (components (cString buffer)) = none := by
      apply walk_of_parent
      rw [hsplit, List.dropLast_concat]
      exact (hmade _).1 List.prefix_rfl
    rw [directoryRetry_eq flags buffer hwalk, hthere]
    refine ⟨rfl, ?_, fun h => absurd h.1 hnil, fun _ => rfl⟩
    simp only
    rw [hsplit]
    exact hmade.concat

theorem directoryCreateHelper_missing (flags : UInt32)
    (hwalk : fs.walk [] (components (cString buffer)) = some .missing) :
    directoryCreateHelper flags buffer fs =
      if flags &&& DIRECTORY_FLAG_RECURSIVE = 0 then ⟨.notSupported, buffer, fs⟩
      else
        match strrchrSlash (cString buffer) with
        | none => directoryCheck flags .ENOENT buffer fs
        | some i =>
            if i ≠ 0 then
              if (directoryCreateHelper flags (buffer.set i 0) fs).code ≠ .success then
                ⟨(directoryCreateHelper flags (buffer.set i 0) fs).code,
                  (directoryCreateHelper flags (buffer.set i 0) fs).buffer.set i slash,
                  (directoryCreateHelper flags (buffer.set i 0) fs).fs⟩
              else directoryRetry flags
                ((directoryCreateHelper flags (buffer.set i 0) fs).buffer.set i slash)
                (directoryCreateHelper flags (buffer.set i 0) fs).fs
            else directoryRetry flags buffer fs := by
  rw [directoryCreateHelper]
  unfold mkdir
  rw [hwalk]
  simp only [obstacleErrno]
  congr 1
  split <;> rename_i hslash <;> simp only [hslash]

theorem directoryCreateHelper_blocked (flags : UInt32)
    (hwalk : fs.walk [] (components (cString buffer)) = some .notDirectory) :
    directoryCreateHelper flags buffer fs = ⟨.notADirectory, buffer, fs⟩ := by
  rw [directoryCreateHelper]
  unfold mkdir
  rw [hwalk]
  rfl

-- The recursion made the parents, or found one of them twice.
theorem createdRecursively_step {result : DirectoryResult} (hrecursive : Recursive flags)
    (hpath : cString buffer = front ++ slash :: name) (hname : slash ∉ name)
    (hparent : fs.node (components (cString buffer)).dropLast = none)
    (hfront : (Exclusive flags ∧ Revisited fs front → result.code = .alreadyExists) ∧
      (¬(Exclusive flags ∧ Revisited fs front) →
        result.code = .success ∧ fs.MadePath (components front) result.fs)) :
    let step := if result.code ≠ .success then ⟨result.code, buffer, result.fs⟩
      else directoryRetry flags buffer result.fs
    step.buffer = buffer ∧ CreatedRecursively flags (cString buffer) fs step := by
  intro step
  have hrevisited : Revisited fs (cString buffer) ↔ name = [] ∨ Revisited fs front := by
    rw [hpath] at hparent ⊢
    constructor
    · intro h
      by_cases hnil : name = []
      · exact Or.inl hnil
      · exact Or.inr (h.of_append hname hnil)
    · rintro (rfl | h)
      · exact revisited_of_slash hparent
      · exact h.append name
  by_cases hagain : Exclusive flags ∧ Revisited fs front
  · have hcode := hfront.1 hagain
    have hstep : step = ⟨result.code, buffer, result.fs⟩ := if_pos (by rw [hcode]; decide)
    rw [hstep]
    refine ⟨rfl, fun h => absurd hrecursive h, fun _ _ _ => hcode, fun _ hnot => ?_⟩
    exact absurd ⟨hagain.1, hrevisited.mpr (Or.inr hagain.2)⟩ hnot
  · obtain ⟨hcode, hmade⟩ := hfront.2 hagain
    have hstep : step = directoryRetry flags buffer result.fs := if_neg (by rw [hcode]; decide)
    obtain ⟨hbuffer, hall, hexists, hsuccess⟩ :=
      directoryRetry_spec flags hpath hname hparent hmade
    rw [hstep]
    refine ⟨hbuffer, fun h => absurd hrecursive h, fun _ hexclusive hvisit => ?_, fun _ hnot => ?_⟩
    · rcases hrevisited.mp hvisit with hnil | hvisit
      · exact hexists ⟨hnil, hexclusive⟩
      · exact absurd ⟨hexclusive, hvisit⟩ hagain
    · exact ⟨hsuccess fun h => hnot ⟨h.2, hrevisited.mpr (Or.inl h.1)⟩, hall⟩

theorem helperSpec (flags : UInt32) (buffer : List UInt8) (fs : FileSystem)
    (habsolute : (cString buffer).head? = some slash) :
    HelperSpec flags buffer fs (directoryCreateHelper flags buffer fs) := by
  induction hlength : (cString buffer).length using Nat.strong_induction_on generalizing buffer with
  | _ length ih =>
      rcases path_cases fs (components (cString buffer)) with
        ⟨hwalk, hparent, hblocks⟩ | ⟨hwalk, hparent, hblocks⟩ | ⟨hwalk, hblocks⟩
      · exact helperSpec_below flags buffer hwalk hparent hblocks
      · have hbelow : fs.node (components (cString buffer)).dropLast ≠ some .directory := by
          simp [hparent]
        rw [directoryCreateHelper_missing flags hwalk]
        by_cases hrecursive : flags &&& DIRECTORY_FLAG_RECURSIVE = 0
        · rw [if_pos hrecursive]
          refine ⟨rfl, fun h => absurd h hbelow, fun _ _ => ?_, fun h => absurd h hblocks⟩
          exact ⟨fun _ => ⟨rfl, rfl⟩, fun h => absurd hrecursive h, fun h => absurd hrecursive h⟩
        · rw [if_neg hrecursive]
          rcases strrchrSlash_cases (cString buffer) with
            ⟨-, hnone⟩ | ⟨front, name, hpath, hname, hslash⟩
          · exact absurd (List.mem_of_head? habsolute) hnone
          · rw [hslash]
            simp only
            have hsplit := @components_split front name hname
            rw [← hpath] at hsplit
            -- the root is there, so there is more in front of the last slash
            have hfront : front ≠ [] := by
              rintro rfl
              apply hbelow
              rw [hsplit]
              split_ifs <;> exact fs.root
            rw [if_pos (fun h => hfront (List.length_eq_zero_iff.mp h))]
            have hcut := cString_set_zero hpath
            have hspec := ih (cString (buffer.set front.length 0)).length
              (by rw [← hlength, hcut, hpath, List.length_append, List.length_cons]; omega)
              (buffer.set front.length 0)
              (by rw [hcut]; rwa [hpath, List.head?_append_of_ne_nil _ hfront] at habsolute) rfl
            rw [hspec.buffer_eq, set_back hpath]
            have hfrontBlocks : ¬AncestorBlocks fs (components front) := by
              intro h
              apply hblocks
              rw [hsplit]
              exact h.append
            have hmade : (Exclusive flags ∧ Revisited fs front →
                (directoryCreateHelper flags (buffer.set front.length 0) fs).code =
                  .alreadyExists) ∧ (¬(Exclusive flags ∧ Revisited fs front) →
                (directoryCreateHelper flags (buffer.set front.length 0) fs).code = .success ∧
                  fs.MadePath (components front)
                    (directoryCreateHelper flags (buffer.set front.length 0) fs).fs) := by
              rcases path_cases fs (components front) with
                ⟨-, hgrand, -⟩ | ⟨-, hgrand, -⟩ | ⟨-, hgrand⟩
              · have hnew := (hspec.below (by rwa [hcut])).new
                rw [hcut] at hnew
                have hnode : fs.node (components front) = none := by
                  rw [hsplit] at hparent
                  split_ifs at hparent
                  · rw [List.append_nil, hgrand] at hparent
                    cases hparent
                  · rwa [List.dropLast_concat] at hparent
                exact ⟨fun h => absurd hgrand h.2.parent_missing, fun _ => hnew hnode⟩
              · have hagain := hspec.recursively (by rwa [hcut]) (by rwa [hcut])
                rw [hcut] at hagain
                exact ⟨fun h => hagain.revisited hrecursive h.1 h.2, hagain.made hrecursive⟩
              · exact absurd hgrand hfrontBlocks
            obtain ⟨hbuffer, hcreated⟩ :=
              createdRecursively_step hrecursive hpath hname hparent hmade
            exact ⟨hbuffer, fun h => absurd h hbelow, fun _ _ => hcreated,
              fun h => absurd h hblocks⟩
      · rw [directoryCreateHelper_blocked flags hwalk]
        refine ⟨rfl, fun h => ?_, fun _ h => absurd hblocks h, fun _ => ⟨rfl, rfl⟩⟩
        rw [walk_of_parent h] at hwalk
        cases hwalk

theorem node_none_of_parent {path : List CString} (h : fs.node path.dropLast = none) :
    fs.node path = none := by
  rcases List.eq_nil_or_concat path with hnil | ⟨init, last, hconcat⟩
  · rw [hnil] at h
    exact absurd h (by simp [fs.root])
  · rw [hconcat, List.concat_eq_append] at h ⊢
    rw [List.dropLast_concat] at h
    by_contra hsome
    rw [fs.closed _ _ hsome] at h
    cases h

end Helper

section Exactness

variable {flags : UInt32} {buffer : List UInt8} {fs : FileSystem} {result : DirectoryResult}

theorem HelperSpec.exact_of_blocked (h : HelperSpec flags buffer fs result)
    (hblocks : AncestorBlocks fs (components (cString buffer))) :
    DirectoryCreateExact flags buffer fs result := by
  obtain ⟨hcode, hfs⟩ := h.blocked hblocks
  have hnode : fs.node (components (cString buffer)) ≠ some .directory := by
    obtain ⟨front, ⟨back, hback⟩, hne, hother⟩ := hblocks
    intro hdirectory
    rw [← hback] at hdirectory
    have hrest : back ≠ [] := by
      rintro rfl
      rw [List.append_nil] at hback
      exact hne hback
    rw [PathTree.node_of_append (by simp [hdirectory]) hrest] at hother
    cases hother
  refine ⟨h.buffer_eq, fun _ _ => ?_, fun _ _ => ?_, fun _ _ hnot => absurd hblocks hnot, ?_,
    fun hsuccess => ?_⟩
  · simp [hcode, hblocks]
  · simp [hcode, hblocks]
  · simp [hcode, hnode]
  · rw [hcode] at hsuccess
    cases hsuccess

theorem HelperSpec.exact_of_below (h : HelperSpec flags buffer fs result)
    (hparent : fs.node (components (cString buffer)).dropLast = some .directory) :
    DirectoryCreateExact flags buffer fs result := by
  have hblocks : ¬AncestorBlocks fs (components (cString buffer)) :=
    @PathTree.Blocked.of_parent _ fs [] _ hparent
  have hbelow := h.below hparent
  cases hnode : fs.node (components (cString buffer)) with
  | none =>
      obtain ⟨hcode, hmade⟩ := hbelow.new hnode
      refine ⟨h.buffer_eq, fun _ _ => ?_, fun _ _ => ?_, fun _ hmissing => ?_, ?_, fun _ => hmade⟩
      · simp [hcode, hnode, hblocks]
      · simp [hcode, hnode, hblocks]
      · rw [hparent] at hmissing
        cases hmissing
      · simp [hcode, hnode]
  | some node =>
      cases node with
      | directory =>
          obtain ⟨hcode, hfs⟩ := hbelow.old hnode
          refine ⟨h.buffer_eq, fun _ hexclusive => ?_, fun _ hexclusive => ?_,
            fun _ hmissing => ?_, ?_, fun _ => ?_⟩
          · have hexists := hcode.trans (if_pos hexclusive)
            simp [hexists, hnode]
          · have hsuccess := hcode.trans (if_neg hexclusive)
            simp [hsuccess, hnode, hblocks]
          · rw [hparent] at hmissing
            cases hmissing
          · by_cases hexclusive : Exclusive flags
            · have hexists := hcode.trans (if_pos hexclusive)
              simp [hexists, hnode, hexclusive]
            · have hsuccess := hcode.trans (if_neg hexclusive)
              simp [hsuccess, hexclusive]
          · rw [hfs]
            exact PathTree.MadePath.refl hnode
      | other =>
          obtain ⟨hcode, hfs⟩ := hbelow.blocked hnode
          refine ⟨h.buffer_eq, fun _ _ => ?_, fun _ _ => ?_, fun _ hmissing => ?_, ?_,
            fun hsuccess => ?_⟩
          · simp [hcode, hnode]
          · simp [hcode, hnode]
          · rw [hparent] at hmissing
            cases hmissing
          · simp [hcode, hnode]
          · rw [hcode] at hsuccess
            cases hsuccess

theorem HelperSpec.exact_of_missing (h : HelperSpec flags buffer fs result)
    (hparent : fs.node (components (cString buffer)).dropLast = none)
    (hblocks : ¬AncestorBlocks fs (components (cString buffer)))
    (hvisit : ¬(Recursive flags ∧ Exclusive flags ∧ Revisited fs (cString buffer))) :
    DirectoryCreateExact flags buffer fs result := by
  have hnode := node_none_of_parent hparent
  have hcreated := h.recursively hparent hblocks
  by_cases hrecursive : Recursive flags
  · obtain ⟨hcode, hmade⟩ := hcreated.made hrecursive fun hagain => hvisit ⟨hrecursive, hagain⟩
    refine ⟨h.buffer_eq, fun _ _ => ?_, fun _ _ => ?_, fun hnot => absurd hrecursive hnot, ?_,
      fun _ => hmade⟩
    · simp [hcode, hnode, hblocks]
    · simp [hcode, hnode, hblocks]
    · simp [hcode, hnode]
  · obtain ⟨hcode, hfs⟩ := hcreated.not_supported hrecursive
    refine ⟨h.buffer_eq, fun hyes => absurd hyes hrecursive, fun hyes => absurd hyes hrecursive,
      fun _ _ _ => ⟨hcode, hfs⟩, ?_, fun hsuccess => ?_⟩
    · simp [hcode, hnode]
    · rw [hcode] at hsuccess
      cases hsuccess

theorem directoryCreateHelper_exact (flags : UInt32) (buffer : List UInt8) (fs : FileSystem)
    (habsolute : (cString buffer).head? = some slash)
    (hnot : ¬DirectoryCreateFails flags fs (cString buffer)) :
    DirectoryCreateExact flags buffer fs (directoryCreateHelper flags buffer fs) := by
  have hspec := helperSpec flags buffer fs habsolute
  rcases path_cases fs (components (cString buffer)) with
    ⟨-, hparent, -⟩ | ⟨-, hparent, hblocks⟩ | ⟨-, hblocks⟩
  · exact hspec.exact_of_below hparent
  · exact hspec.exact_of_missing hparent hblocks
      fun h => hnot ⟨h.1, h.2.1, hblocks, h.2.2⟩
  · exact hspec.exact_of_blocked hblocks

theorem directory_create_exact_iff (flags : UInt32) (buffer : List UInt8) (fs : FileSystem)
    (habsolute : (cString buffer).head? = some slash) :
    DirectoryCreateExact flags buffer fs (directoryCreateHelper flags buffer fs) ↔
      ¬DirectoryCreateFails flags fs (cString buffer) := by
  refine ⟨?_, directoryCreateHelper_exact flags buffer fs habsolute⟩
  rintro hexact ⟨hrecursive, hexclusive, hblocks, hvisit⟩
  have hspec := helperSpec flags buffer fs habsolute
  have hparent : fs.node (components (cString buffer)).dropLast = none := by
    rcases path_cases fs (components (cString buffer)) with
      ⟨-, hthere, -⟩ | ⟨-, hmissing, -⟩ | ⟨-, hblocked⟩
    · exact absurd hthere hvisit.parent_missing
    · exact hmissing
    · exact absurd hblocked hblocks
  have hcode := (hspec.recursively hparent hblocks).revisited hrecursive hexclusive hvisit
  have hdirectory := (hexact.already_exists.mp hcode).2
  rw [node_none_of_parent hparent] at hdirectory
  cases hdirectory

end Exactness

section Spellings

-- Only the root.
def emptyTree : FileSystem where
  node path := if path = [] then some .directory else none
  root := rfl
  closed path name h := by
    rw [if_neg (List.append_ne_nil_of_right_ne_nil path (List.cons_ne_nil name []))] at h
    exact absurd rfl h

-- /a/b
def plainName : List UInt8 := [47, 97, 47, 98, 0]

-- /a/b/
def slashName : List UInt8 := [47, 97, 47, 98, 47, 0]

def bothFlags : UInt32 := DIRECTORY_FLAG_RECURSIVE ||| DIRECTORY_FLAG_EXCLUSIVE

theorem plainName_not_revisited : ¬Revisited emptyTree (cString plainName) := by
  intro h
  have hslash : slash ∉ ([97] : CString) ∧ slash ∉ ([98] : CString) := by decide
  have hparent : Revisited emptyTree ([] ++ slash :: [97]) :=
    Revisited.of_append hslash.2 (List.cons_ne_nil 98 []) h
  exact (Revisited.of_append hslash.1 (List.cons_ne_nil 97 []) hparent).parent_missing rfl

theorem plainName_directory_create : DirectoryCreateExact bothFlags plainName emptyTree
    (directoryCreateHelper bothFlags plainName emptyTree) :=
  (directory_create_exact_iff bothFlags plainName emptyTree rfl).mpr
    fun h => plainName_not_revisited h.2.2.2

theorem slashName_revisited : Revisited emptyTree (cString slashName) :=
  ⟨cString slashName, List.prefix_rfl, rfl, rfl⟩

theorem emptyTree_not_blocks (path : List CString) : ¬AncestorBlocks emptyTree path := by
  rintro ⟨front, -, -, hother⟩
  unfold emptyTree at hother
  simp only at hother
  split_ifs at hother
  cases hother

-- The target was not there, but its creation is reported as a clash with itself.
theorem directory_create_clashes_with_itself :
    ¬DirectoryCreateExact bothFlags slashName emptyTree
      (directoryCreateHelper bothFlags slashName emptyTree) := by
  intro hexact
  have hflags : Recursive bothFlags ∧ Exclusive bothFlags := by
    unfold Recursive Exclusive
    decide
  have hcode := ((helperSpec bothFlags slashName emptyTree rfl).recursively rfl
    (emptyTree_not_blocks _)).revisited hflags.1 hflags.2 slashName_revisited
  have hsuccess := (hexact.exclusive hflags.1 hflags.2).mpr ⟨rfl, emptyTree_not_blocks _⟩
  rw [hcode] at hsuccess
  cases hsuccess

end Spellings

end RedApid.Files
