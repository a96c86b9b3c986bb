import RedApid.Config.Number
import RedApid.OrderedMap
import RedApid.Types

namespace RedApid

-- A ConfFile of daemonlib: an ordered map from names, compared without their case, to values.
abbrev ConfFile := OrderedMap fold CString

def confFileGetOptionValue (file : ConfFile) (name : CString) : Option CString := file.get name

def confFileSetOptionValue (file : ConfFile) (name value : CString) : ConfFile :=
  file.set name value

-- conf_file_remove_option(.., true)
def confFileRemoveOption (file : ConfFile) (start : CString) : ConfFile :=
  file.removeAll (startsWithCase start)

section Edits

-- The calls that change a ConfFile. `format` is a set whose name is formatted into a buffer of
-- `size` bytes first.
inductive ConfEdit where
  | set (name value : CString)
  | format (size : Nat) (name value : CString)
  | remove (start : CString)
deriving DecidableEq, Repr

namespace ConfEdit

def apply (file : ConfFile) : ConfEdit → ConfFile
  | set name value => confFileSetOptionValue file name value
  | format _ name value => confFileSetOptionValue file name value
  | remove start => confFileRemoveOption file start

-- Whether robust_snprintf can format the name.
def fits : ConfEdit → Bool
  | format size name _ => name.length < size
  | _ => true

-- Whether the call can change what is found under a name.
def touches (name : CString) : ConfEdit → Bool
  | set other _ => strcaseeq other name
  | format _ other _ => strcaseeq other name
  | remove start => startsWithCase start name

theorem get_apply_of_not_touches {name : CString} {edit : ConfEdit} (file : ConfFile)
    (h : edit.touches name = false) : (edit.apply file).get name = file.get name := by
  cases edit with
  | set other value =>
      exact file.get_set_of_ne value fun hsame => by simp [touches, strcaseeq, hsame] at h
  | format size other value =>
      exact file.get_set_of_ne value fun hsame => by simp [touches, strcaseeq, hsame] at h
  | remove start =>
      have hget := file.get_removeAll name (p := startsWithCase start)
        fun other hother => startsWithCase_congr hother
      have hstart : startsWithCase start name = false := h
      rw [hstart] at hget
      exact hget

-- An edit that touches only what `p` leaves out changes nothing of the rest.
theorem apply_filter {p : CString → Bool} {edit : ConfEdit} (file : ConfFile)
    (h : ∀ name, p name = true → edit.touches name = false) :
    (edit.apply file).entries.filter (fun entry => p entry.1) =
      file.entries.filter fun entry => p entry.1 := by
  have hset : ∀ name value, (∀ other, p other = true → strcaseeq name other = false) →
      (file.set name value).entries.filter (fun entry => p entry.1) =
        file.entries.filter fun entry => p entry.1 := by
    intro name value hname
    refine file.set_filter value fun other hother => ?_
    refine Bool.eq_false_iff.mpr fun hp => ?_
    have hne := hname other hp
    simp [strcaseeq, hother] at hne
  cases edit with
  | set name value => exact hset name value h
  | format size name value => exact hset name value h
  | remove start => exact file.removeAll_filter h

end ConfEdit

-- The edits in their order. Every set can run out of memory, with the next of `outcomes`.
def runEdits (tooLong : APIError) :
    List ConfEdit → List (Option APIError) → ConfFile → Except APIE ConfFile
  | [], _, file => .ok file
  | .remove start :: edits, outcomes, file =>
      runEdits tooLong edits outcomes (confFileRemoveOption file start)
  | edit :: edits, outcomes, file =>
      if edit.fits then
        match outcomes.headD none with
        | some code => .error code
        | none => runEdits tooLong edits outcomes.tail (edit.apply file)
      else .error tooLong

theorem runEdits_ok {tooLong : APIError} {edits : List ConfEdit}
    {outcomes : List (Option APIError)} {file saved : ConfFile}
    (h : runEdits tooLong edits outcomes file = .ok saved) :
    saved = edits.foldl ConfEdit.apply file := by
  induction edits generalizing outcomes file with
  | nil =>
      cases h
      rfl
  | cons edit edits ih =>
      have hother : (if edit.fits then
          match outcomes.headD none with
          | some code => .error code.val
          | none => runEdits tooLong edits outcomes.tail (edit.apply file)
        else .error tooLong.val) = Except.ok saved → saved = edits.foldl ConfEdit.apply (edit.apply file) := by
        intro h
        split at h
        · split at h
          · cases h
          · exact ih h
        · cases h
      cases edit with
      | remove start => exact ih h
      | set name value => exact hother h
      | format size name value => exact hother h

theorem get_foldl_of_not_touches {name : CString} {edits : List ConfEdit} (file : ConfFile)
    (h : ∀ edit ∈ edits, edit.touches name = false) :
    (edits.foldl ConfEdit.apply file).get name = file.get name := by
  induction edits generalizing file with
  | nil => rfl
  | cons edit edits ih =>
      rw [List.foldl_cons, ih _ fun edit hmem => h edit (List.mem_cons_of_mem _ hmem)]
      exact ConfEdit.get_apply_of_not_touches file (h edit List.mem_cons_self)

-- A name that only one edit touches has the value of this edit.
theorem get_foldl_of_unique {name value : CString} {edits : List ConfEdit} (file : ConfFile)
    (hmem : .set name value ∈ edits)
    (hunique : ∀ edit ∈ edits, edit.touches name = true → edit = .set name value) :
    (edits.foldl ConfEdit.apply file).get name = some value := by
  induction edits generalizing file with
  | nil => exact absurd hmem List.not_mem_nil
  | cons edit edits ih =>
      have htail := fun edit hedit => hunique edit (List.mem_cons_of_mem _ hedit)
      rw [List.foldl_cons]
      by_cases hrest : .set name value ∈ edits
      · exact ih _ hrest htail
      · -- no edit behind this one touches the name
        rw [get_foldl_of_not_touches]
        · have hedit := (List.mem_cons.mp hmem).resolve_right hrest
          rw [← hedit]
          exact OrderedMap.get_set_self file name value
        · intro edit hedit
          refine Bool.eq_false_iff.mpr fun htouches => hrest ?_
          rw [← htail edit hedit htouches]
          exact hedit

theorem foldl_filter {p : CString → Bool} {edits : List ConfEdit} (file : ConfFile)
    (h : ∀ edit ∈ edits, ∀ name, p name = true → edit.touches name = false) :
    (edits.foldl ConfEdit.apply file).entries.filter (fun entry => p entry.1) =
      file.entries.filter fun entry => p entry.1 := by
  induction edits generalizing file with
  | nil => rfl
  | cons edit edits ih =>
      rw [List.foldl_cons, ih _ fun edit hmem => h edit (List.mem_cons_of_mem _ hmem)]
      exact ConfEdit.apply_filter file (h edit List.mem_cons_self)

end Edits

end RedApid
