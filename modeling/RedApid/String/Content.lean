import RedApid.Memory.Text
import RedApid.String.Bounds

namespace RedApid

open Memory

def StringObject.content (string : StringObject) : List UInt8 := string.buffer.text string.length

-- What the buffer of a String holds, its capacity aside. The last two members keep
-- the content inside of what a realloc preserves.
structure StringObject.Readable (string : StringObject) : Prop where
  isStrlen : string.buffer.IsStrlen string.length
  length_le : string.length ≤ INT32_MAX
  size_eq : string.buffer.size = string.allocated
  length_le_allocated : string.length ≤ string.allocated

-- What a successful call means for the content.
def StringCall.edit (text : List UInt8) : StringCall → List UInt8
  | .truncate _ length => text.take (min length.toNat text.length)
  | .setChunk _ _ offset buffer =>
      let length := strnlen buffer STRING_MAX_SET_CHUNK_BUFFER_LENGTH
      if length = 0 then text else overwrite 32 text offset.toNat (buffer.take length)

def runCalls (grow : GrowAllocation) (string : StringObject) (calls : List StringCall) :
    StringObject :=
  calls.foldl (fun string call => (call.run grow string).2) string

-- The edits of those calls that succeed, one after the other.
def editAll (grow : GrowAllocation) (string : StringObject) (text : List UInt8) :
    List StringCall → List UInt8
  | [] => text
  | call :: calls =>
      let (code, next) := call.run grow string
      editAll grow next (if code = .success then call.edit text else text) calls

-- The pieces string_get_chunk returns at the offsets 0, 63, 126, ... below the length,
-- each cut to the remaining length.
def stringDownload (string : StringObject) (response : List UInt8) : List UInt8 :=
  let size := STRING_MAX_GET_CHUNK_BUFFER_LENGTH
  (List.range ((string.length + (size - 1)) / size)).flatMap fun k =>
    (stringGetChunk (UInt32.ofNat (size * k)) response string).2.1.take (string.length - size * k)

namespace StringObject

variable {grow : GrowAllocation} {string : StringObject}

@[simp] theorem content_length : string.content.length = string.length := by simp [content]

theorem setContents_readable {created : StringObject} (bytes : List UInt8) {length : Nat}
    (hsize : created.buffer.size = created.allocated) (hroom : length ≤ created.allocated)
    (hle : length ≤ INT32_MAX) (hbytes : length ≤ bytes.length)
    (hnonzero : ∀ b ∈ bytes.take length, b ≠ 0) :
    (created.setContents bytes length).Readable := by
  refine ⟨⟨by simp [setContents], ?_⟩, hle, by simpa [setContents] using hsize, hroom⟩
  intro i hi
  have hlen : (bytes.take length).length = length := by rw [List.length_take]; omega
  simp only [setContents] at hi ⊢
  rw [Block.write_bytes, Function.update_of_ne (by omega), Block.writeAll_bytes,
    dif_pos (by omega)]
  exact hnonzero _ (List.getElem_mem _)

theorem wrap_readable {outcome : StringCreation} {buffer : List UInt8}
    (h : stringWrap grow outcome buffer = .ok string) : string.Readable := by
  simp only [stringWrap] at h
  split at h
  · cases h
  · split at h
    · cases h
    · rename_i created hcreated
      obtain ⟨hsize, _, _, hroom⟩ := createBuffer_sound (create_eq hcreated)
      have hmod : uint32 (strlen buffer) ≤ strlen buffer := Nat.mod_le _ _
      have hlen := strlen_le_length buffer
      cases h
      refine setContents_readable buffer hsize (by omega) (by omega) (by omega) ?_
      intro b hb
      have hb : b ∈ buffer.take (strlen buffer) := List.take_subset_take_left buffer hmod hb
      exact take_strlen_ne_zero hb

theorem allocate_readable {outcome : StringCreation} {reserve : UInt32} {buffer : List UInt8}
    (h : stringAllocate grow outcome reserve buffer = .ok string) : string.Readable := by
  have hs := allocate_sound h
  simp only [stringAllocate] at h
  split at h
  · cases h
  · rename_i created hcreated
    obtain ⟨hsize, _, _, hroom⟩ := createBuffer_sound (create_eq hcreated)
    cases h
    refine setContents_readable buffer hsize ?_ hs.length_le (strnlen_le_length _ _) ?_
    · split_ifs at hroom <;> omega
    · exact fun b hb => take_strnlen_ne_zero hb

theorem asprintf_readable {outcome : StringCreation} {formatted : Option (List UInt8)}
    (h : stringAsprintf grow outcome formatted = .ok string) : string.Readable := by
  have hs := asprintf_sound h
  refine ⟨⟨hs.terminated, ?_⟩, hs.length_le, hs.size_eq, by have := hs.length_lt; omega⟩
  simp only [stringAsprintf] at h
  split at h
  · cases h
  · rename_i bytes _
    have hcreated := create_eq h
    simp only [stringCreateBuffer] at hcreated
    split at hcreated
    · cases hcreated
    · cases hcreated
      intro i hi
      have hlen := strlen_le_length bytes
      have hmod : uint32 (strlen bytes) ≤ strlen bytes := Nat.mod_le _ _
      simp only at hi
      change bytes.getD i 0 ≠ 0
      rw [List.getD_eq_getElem?_getD, List.getElem?_eq_getElem (by omega), Option.getD_some]
      have hbound : i < bytes.length := by omega
      have hmem : bytes[i] ∈ bytes.take (strlen bytes) :=
        List.mem_take_iff_getElem.mpr ⟨i, by omega, rfl⟩
      exact take_strlen_ne_zero hmem

theorem truncate_refines (hr : string.Readable) (lockCount : Nat) (length : UInt32) :
    let result := stringTruncate lockCount length string
    result.2.Readable ∧
      (result.1 = .success →
        result.2.content = (StringCall.truncate lockCount length).edit string.content) ∧
      (result.1 ≠ .success → result.2 = string) := by
  simp only [stringTruncate, StringCall.edit, content_length]
  split_ifs with hlock hshorter
  · exact ⟨hr, by simp, fun _ => rfl⟩
  · have hle := hr.length_le
    have hallocated := hr.length_le_allocated
    refine ⟨⟨⟨by simp, ?_⟩, by simp only; omega, hr.size_eq, by simp only; omega⟩, ?_, by simp⟩
    · intro i hi
      change i < length.toNat at hi
      rw [Block.write_bytes, Function.update_of_ne (by omega)]
      exact hr.isStrlen.2 i (by omega)
    · intro _
      unfold content
      rw [Nat.min_eq_left (by omega), Block.text_take _ _ _ (by omega)]
      apply Block.text_congr
      intro i hi
      change i < length.toNat at hi
      rw [Block.write_bytes, Function.update_of_ne (by omega)]
  · refine ⟨hr, fun _ => ?_, by simp⟩
    rw [Nat.min_eq_right (by omega)]
    exact (List.take_of_length_le (by simp)).symm

-- A realloc keeps the content, but not the terminator of a full buffer.
theorem reserve_content (hr : string.Readable) {memory : Allocation} {reserve : Nat}
    {reserved : StringObject}
    (h : stringReserve grow memory string reserve = (.success, reserved)) :
    reserved.length = string.length ∧
      (∀ i < string.length, reserved.buffer.bytes i = string.buffer.bytes i) ∧
      reserved.buffer.size = reserved.allocated ∧ reserve + 1 ≤ reserved.allocated := by
  simp only [stringReserve] at h
  split at h
  · cases h
  · rename_i hreserve
    have hsmall : reserve + 1 ≤ INT32_MAX + 1 := by omega
    have hu : uint32 (reserve + 1) = reserve + 1 :=
      uint32_of_lt (by simp only [INT32_MAX] at hsmall; omega)
    rw [hu, grow.grow_lt hsmall] at h
    split at h
    · cases h
      exact ⟨rfl, fun _ _ => rfl, hr.size_eq, by assumption⟩
    · cases memory with
      | none => cases h
      | some fresh =>
          have hallocated := hr.length_le_allocated
          have hsize := hr.size_eq
          cases h
          refine ⟨rfl, ?_, rfl, grow.le_grow _⟩
          intro i hi
          exact Block.realloc_bytes _ (by omega)

-- The memory behind string_set_chunk before the terminator is written.
theorem chunk_bytes (block : Block) (length offset : Nat) (bytes : List UInt8) (i : Nat) :
    ((block.writeAll length (List.replicate (offset - length) 32)).writeAll offset bytes).bytes i =
      if i < offset then if i < length then block.bytes i else 32
      else if h : i - offset < bytes.length then bytes[i - offset] else block.bytes i := by
  rw [Block.writeAll_bytes, Block.writeAll_bytes]
  simp only [List.length_replicate, List.getElem_replicate, dite_eq_ite]
  by_cases hbefore : i < offset
  · rw [dif_neg (by omega), if_pos hbefore]
    by_cases hold : i < length
    · rw [if_neg (by omega), if_pos hold]
    · rw [if_pos (by omega), if_neg hold]
  · rw [if_neg hbefore]
    by_cases hchunk : i - offset < bytes.length
    · rw [dif_pos (by omega), dif_pos hchunk]
    · rw [dif_neg (by omega), dif_neg hchunk, if_neg (by omega)]

theorem putChunk_eq (string : StringObject) {offset : Nat} {bytes : List UInt8}
    (hle : offset + bytes.length ≤ INT32_MAX) :
    (string.putChunk offset bytes).length = max string.length (offset + bytes.length) ∧
      ∀ i < max string.length (offset + bytes.length),
        (string.putChunk offset bytes).buffer.bytes i =
          ((string.buffer.writeAll string.length
            (List.replicate (offset - string.length) 32)).writeAll offset bytes).bytes i := by
  have hu : uint32 (offset + bytes.length) = offset + bytes.length :=
    uint32_of_lt (by simp only [INT32_MAX] at hle; omega)
  simp only [putChunk, hu]
  split
  · rw [Nat.max_eq_right (by omega)]
    refine ⟨rfl, fun i hi => ?_⟩
    rw [Block.write_bytes, Function.update_of_ne (by omega)]
  · rw [Nat.max_eq_left (by omega)]
    exact ⟨rfl, fun _ _ => rfl⟩

theorem putChunk_content {offset : Nat} {bytes : List UInt8}
    (hpos : 0 < bytes.length) (hle : offset + bytes.length ≤ INT32_MAX) :
    (string.putChunk offset bytes).content = overwrite 32 string.content offset bytes := by
  obtain ⟨hlength, hbytes⟩ := putChunk_eq string hle
  apply List.ext_getElem?
  intro i
  simp only [content, overwrite_getElem?, Block.text_getElem?, Block.text_length, hlength]
  by_cases hi : i < max string.length (offset + bytes.length)
  · rw [if_pos hi, hbytes i hi, chunk_bytes]
    split_ifs with hbefore hold hchunk hold
    · rfl
    · rfl
    · exact (List.getElem?_eq_getElem hchunk).symm
    · rfl
    · omega
  · rw [if_neg hi, if_neg (by omega), if_neg (by omega), if_neg (by omega)]

theorem putChunk_readable {offset : Nat} {bytes : List UInt8}
    (hnonzero : ∀ i < string.length, string.buffer.bytes i ≠ 0)
    (hterminated : offset + bytes.length ≤ string.length →
      string.buffer.bytes string.length = 0)
    (hsize : string.buffer.size = string.allocated) (hlength : string.length ≤ INT32_MAX)
    (hallocated : string.length ≤ string.allocated) (hchunk : ∀ b ∈ bytes, b ≠ 0)
    (hle : offset + bytes.length ≤ INT32_MAX) (hroom : offset + bytes.length ≤ string.allocated) :
    (string.putChunk offset bytes).Readable := by
  obtain ⟨hnew, hbytes⟩ := putChunk_eq string hle
  refine ⟨⟨?_, ?_⟩, by omega, ?_, ?_⟩
  · -- a chunk behind the old end writes the terminator, any other keeps it
    have hu : uint32 (offset + bytes.length) = offset + bytes.length :=
      uint32_of_lt (by simp only [INT32_MAX] at hle; omega)
    simp only [putChunk, hu]
    split
    · simp
    · rename_i hinside
      rw [chunk_bytes, if_neg (by simp only; omega), dif_neg (by simp only; omega)]
      exact hterminated (by omega)
  · intro i hi
    rw [hnew] at hi
    rw [hbytes i hi, chunk_bytes]
    split_ifs with hbefore hold hinside
    · exact hnonzero i hold
    · decide
    · exact hchunk _ (List.getElem_mem _)
    · exact hnonzero i (by omega)
  · simp only [putChunk]
    split <;> simpa using hsize
  · have hkeep : (string.putChunk offset bytes).allocated = string.allocated := by
      simp only [putChunk]
      split <;> rfl
    omega

theorem setChunk_refines (hr : string.Readable) (memory : Allocation) (lockCount : Nat)
    (offset : UInt32) (buffer : List UInt8) :
    let result := stringSetChunk grow memory lockCount offset buffer string
    result.2.Readable ∧
      (result.1 = .success → result.2.content =
        (StringCall.setChunk memory lockCount offset buffer).edit string.content) ∧
      (result.1 ≠ .success → result.2 = string) := by
  have hmax := strnlen_le buffer STRING_MAX_SET_CHUNK_BUFFER_LENGTH
  have hlen : (buffer.take (strnlen buffer STRING_MAX_SET_CHUNK_BUFFER_LENGTH)).length =
      strnlen buffer STRING_MAX_SET_CHUNK_BUFFER_LENGTH := by
    rw [List.length_take, Nat.min_eq_left (strnlen_le_length _ _)]
  have hchunk : ∀ b ∈ buffer.take (strnlen buffer STRING_MAX_SET_CHUNK_BUFFER_LENGTH), b ≠ 0 :=
    fun b hb => take_strnlen_ne_zero hb
  simp only [stringSetChunk, StringCall.edit]
  split
  · exact ⟨hr, by simp, fun _ => rfl⟩
  split
  · exact ⟨hr, by simp, fun _ => rfl⟩
  have hu : uint32 (offset.toNat + strnlen buffer STRING_MAX_SET_CHUNK_BUFFER_LENGTH) =
      offset.toNat + strnlen buffer STRING_MAX_SET_CHUNK_BUFFER_LENGTH := by
    apply uint32_of_lt
    simp only [STRING_MAX_SET_CHUNK_BUFFER_LENGTH, INT32_MAX] at *
    omega
  rw [hu]
  split
  · exact ⟨hr, by simp, fun _ => rfl⟩
  split
  · exact ⟨hr, fun _ => rfl, fun _ => rfl⟩
  rename_i hend hzero
  have hle : offset.toNat +
      (buffer.take (strnlen buffer STRING_MAX_SET_CHUNK_BUFFER_LENGTH)).length ≤ INT32_MAX := by
    omega
  by_cases hroom : offset.toNat + strnlen buffer STRING_MAX_SET_CHUNK_BUFFER_LENGTH >
      string.allocated
  · rw [if_pos hroom]
    split
    · rename_i reserved hreserved
      obtain ⟨hlength, hkeep, hsize, hnew⟩ := reserve_content hr hreserved
      have hold := hr.length_le
      have hallocated := hr.length_le_allocated
      have hcontent : reserved.content = string.content := by
        unfold content
        rw [hlength]
        exact Block.text_congr _ hkeep
      refine ⟨?_, fun _ => ?_, by simp⟩
      · apply putChunk_readable _ _ hsize (by omega) (by omega) hchunk hle (by omega)
        · intro i hi
          rw [hkeep i (by omega)]
          exact hr.isStrlen.2 i (by omega)
        · intro hinside
          omega
      · rw [putChunk_content (by omega) hle, hcontent]
    · rename_i code reserved hcode hreserved
      rw [reserve_error hreserved hcode]
      exact ⟨hr, fun h => absurd h hcode, fun _ => rfl⟩
  · rw [if_neg hroom]
    refine ⟨?_, fun _ => putChunk_content (by omega) hle, by simp⟩
    exact putChunk_readable hr.isStrlen.2 (fun _ => hr.isStrlen.1) hr.size_eq hr.length_le
      hr.length_le_allocated hchunk hle (by omega)

-- A chunk of the download: the content at the offset, then zeros.
theorem getChunk_content (hr : string.Readable) (response : List UInt8) {offset : Nat}
    (h : offset < string.length) :
    let result := stringGetChunk (UInt32.ofNat offset) response string
    let piece := (string.content.drop offset).take STRING_MAX_GET_CHUNK_BUFFER_LENGTH
    result.1 = .success ∧
      result.2.1 = piece ++
        List.replicate (STRING_MAX_GET_CHUNK_BUFFER_LENGTH - piece.length) 0 := by
  have hle := hr.length_le
  have hoffset : (UInt32.ofNat offset).toNat = offset := by
    exact UInt32.toNat_ofNat_of_lt' (by
      change offset < 4294967296
      simp only [INT32_MAX] at hle
      omega)
  simp only [stringGetChunk, hoffset]
  rw [if_neg (by omega), if_neg (by omega), if_neg (by omega)]
  refine ⟨rfl, ?_⟩
  simp only
  rw [Block.read_eq _ _ _ string.length (by omega)]
  unfold content
  have hpiece : ((string.buffer.text string.length).drop offset).take
      (min (string.length - offset) STRING_MAX_GET_CHUNK_BUFFER_LENGTH) =
      ((string.buffer.text string.length).drop offset).take
        STRING_MAX_GET_CHUNK_BUFFER_LENGTH := by
    rw [Nat.min_comm, ← List.take_take]
    congr 1
    exact List.take_of_length_le (by simp)
  rw [hpiece]
  congr 2
  simp only [List.length_take, List.length_drop, Block.text_length]
  omega

theorem download_content (hr : string.Readable) (response : List UInt8) :
    stringDownload string response = string.content := by
  have hpieces := flatMap_pieces string.content STRING_MAX_GET_CHUNK_BUFFER_LENGTH
    ((string.length + (STRING_MAX_GET_CHUNK_BUFFER_LENGTH - 1)) /
      STRING_MAX_GET_CHUNK_BUFFER_LENGTH)
  rw [List.take_of_length_le (by
    simp only [content_length, STRING_MAX_GET_CHUNK_BUFFER_LENGTH]; omega)] at hpieces
  rw [← hpieces]
  unfold stringDownload
  apply List.flatMap_congr
  intro k hk
  have hoffset : STRING_MAX_GET_CHUNK_BUFFER_LENGTH * k < string.length := by
    simp only [List.mem_range, STRING_MAX_GET_CHUNK_BUFFER_LENGTH] at hk ⊢
    omega
  -- all pieces but the last one are full, so the cut removes the zeros only
  rw [(getChunk_content hr response hoffset).2]
  by_cases hfull : STRING_MAX_GET_CHUNK_BUFFER_LENGTH ≤
      string.length - STRING_MAX_GET_CHUNK_BUFFER_LENGTH * k
  · rw [List.take_of_length_le]
    · simp only [List.length_take, List.length_drop, content_length, Nat.min_eq_left hfull]
      simp
    · simp only [List.length_append, List.length_take, List.length_drop, List.length_replicate,
        content_length]
      omega
  · rw [List.take_append_of_le_length, List.take_of_length_le]
    all_goals
      simp only [List.length_take, List.length_drop, content_length]
      omega

end StringObject

theorem StringSource.create_readable {grow : GrowAllocation} {string : StringObject}
    (source : StringSource) (h : source.create grow = .ok string) : string.Readable := by
  cases source with
  | wrap outcome buffer => exact StringObject.wrap_readable h
  | asprintf outcome formatted => exact StringObject.asprintf_readable h
  | allocate outcome reserve buffer => exact StringObject.allocate_readable h

theorem StringCall.run_refines (grow : GrowAllocation) {string : StringObject}
    (hr : string.Readable) (call : StringCall) :
    (call.run grow string).2.Readable ∧
      ((call.run grow string).1 = .success →
        (call.run grow string).2.content = call.edit string.content) ∧
      ((call.run grow string).1 ≠ .success → (call.run grow string).2 = string) := by
  cases call with
  | truncate lockCount length => exact StringObject.truncate_refines hr lockCount length
  | setChunk memory lockCount offset buffer =>
      exact StringObject.setChunk_refines hr memory lockCount offset buffer

theorem runCalls_readable (grow : GrowAllocation) {string : StringObject}
    (hr : string.Readable) (calls : List StringCall) :
    (runCalls grow string calls).Readable := by
  induction calls generalizing string with
  | nil => exact hr
  | cons call calls ih => exact ih (call.run_refines grow hr).1

theorem runCalls_content (grow : GrowAllocation) {string : StringObject}
    (hr : string.Readable) (calls : List StringCall) :
    (runCalls grow string calls).content = editAll grow string string.content calls := by
  induction calls generalizing string with
  | nil => rfl
  | cons call calls ih =>
      obtain ⟨hnext, hsuccess, herror⟩ := call.run_refines grow hr
      have hrun := ih hnext
      simp only [runCalls, List.foldl_cons, editAll] at hrun ⊢
      rw [hrun]
      split_ifs with hcode
      · rw [hsuccess hcode]
      · rw [herror hcode]

-- The content of a String is a text, the calls on it are edits of this text and the
-- chunked download returns it.
theorem string_refines_text (grow : GrowAllocation) (source : StringSource)
    (string : StringObject) (h : source.create grow = .ok string) (calls : List StringCall) :
    let reached := runCalls grow string calls
    (∀ call : StringCall,
      ((call.run grow reached).1 = .success →
        (call.run grow reached).2.content = call.edit reached.content) ∧
      ((call.run grow reached).1 ≠ .success → (call.run grow reached).2 = reached)) ∧
    reached.content = editAll grow string string.content calls ∧
    (∀ b ∈ reached.content, b ≠ 0) ∧
    reached.buffer.IsStrlen reached.length ∧
    (∀ response offset, offset < reached.length →
      let result := stringGetChunk (UInt32.ofNat offset) response reached
      let piece := (reached.content.drop offset).take STRING_MAX_GET_CHUNK_BUFFER_LENGTH
      result.1 = .success ∧ result.2.1 = piece ++
        List.replicate (STRING_MAX_GET_CHUNK_BUFFER_LENGTH - piece.length) 0) ∧
    ∀ response, stringDownload reached response = reached.content := by
  have hr := runCalls_readable grow (source.create_readable h) calls
  refine ⟨fun call => (call.run_refines grow hr).2,
    runCalls_content grow (source.create_readable h) calls, ?_, hr.isStrlen,
    fun response offset hoffset => StringObject.getChunk_content hr response hoffset,
    StringObject.download_content hr⟩
  exact hr.isStrlen.text_ne_zero

-- A gap is filled with blanks, a truncation forgets what lies behind it.
theorem string15_refines_text :
    (runCalls growTo16 string15 [.setChunk none 0 2 [65], .truncate 0 1,
      .setChunk none 0 1 [66]]).content = [32, 66] ∧
    stringDownload (runCalls growTo16 string15 [.setChunk none 0 2 [65], .truncate 0 1,
      .setChunk none 0 1 [66]]) [] = [32, 66] := by
  obtain ⟨_, hcontent, _, _, _, hdownload⟩ :=
    string_refines_text growTo16 reserved15 string15 rfl [.setChunk none 0 2 [65],
      .truncate 0 1, .setChunk none 0 1 [66]]
  rw [hdownload, hcontent]
  decide

end RedApid
