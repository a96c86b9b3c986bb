import RedApid.String.Basic

namespace RedApid

open Memory

-- What string.h says about the members of a String, and that every access so far
-- was inside of the buffer.
structure StringObject.Sound (string : StringObject) : Prop where
  size_eq : string.buffer.size = string.allocated
  length_lt : string.length + 1 ≤ string.allocated
  terminated : string.buffer.bytes string.length = 0
  length_le : string.length ≤ INT32_MAX
  allocated_le : string.allocated ≤ INT32_MAX + 1
  inBounds : string.buffer.InBounds

inductive StringSource where
  | wrap (outcome : StringCreation) (buffer : List UInt8)
  | asprintf (outcome : StringCreation) (formatted : Option (List UInt8))
  | allocate (outcome : StringCreation) (reserve : UInt32) (buffer : List UInt8)

def StringSource.create (grow : GrowAllocation) : StringSource → Except APIE StringObject
  | .wrap outcome buffer => stringWrap grow outcome buffer
  | .asprintf outcome formatted => stringAsprintf grow outcome formatted
  | .allocate outcome reserve buffer => stringAllocate grow outcome reserve buffer

-- A call on an existing String, with the lock count it meets.
inductive StringCall where
  | truncate (lockCount : Nat) (length : UInt32)
  | setChunk (memory : Allocation) (lockCount : Nat) (offset : UInt32) (buffer : List UInt8)

def StringCall.run (grow : GrowAllocation) (string : StringObject) :
    StringCall → APIE × StringObject
  | .truncate lockCount length => stringTruncate lockCount length string
  | .setChunk memory lockCount offset buffer =>
      stringSetChunk grow memory lockCount offset buffer string

-- Sound before the first call and after each of the calls.
def AlwaysSound (grow : GrowAllocation) (string : StringObject) : List StringCall → Prop
  | [] => string.Sound
  | call :: calls => string.Sound ∧ AlwaysSound grow (call.run grow string).2 calls

-- A chunk that is going to be written does not end where the buffer ends.
def StringCall.Fits (string : StringObject) : StringCall → Prop
  | .truncate _ _ => True
  | .setChunk _ lockCount offset buffer =>
      let length := strnlen buffer STRING_MAX_SET_CHUNK_BUFFER_LENGTH
      lockCount = 0 → length ≠ 0 → offset.toNat + length ≤ INT32_MAX →
        offset.toNat + length ≠ string.allocated

def AlwaysFits (grow : GrowAllocation) (string : StringObject) : List StringCall → Prop
  | [] => True
  | call :: calls => call.Fits string ∧ AlwaysFits grow (call.run grow string).2 calls

theorem GrowAllocation.grow_lt (grow : GrowAllocation) {n : Nat} (h : n ≤ INT32_MAX + 1) :
    uint32 (grow n) = grow n := by
  have hle := grow.grow_le n h
  exact uint32_of_lt (by simp only [INT32_MAX] at hle; omega)

namespace StringObject

variable {grow : GrowAllocation} {string : StringObject}

theorem setContents_sound (hsize : string.buffer.size = string.allocated)
    (hbounds : string.buffer.InBounds) (hallocated : string.allocated ≤ INT32_MAX + 1)
    (bytes : List UInt8) {length : Nat} (hlength : length ≤ INT32_MAX)
    (hroom : length + 1 ≤ string.allocated) : (string.setContents bytes length).Sound where
  size_eq := by simpa [setContents] using hsize
  length_lt := hroom
  terminated := by simp [setContents]
  length_le := hlength
  allocated_le := hallocated
  inBounds := by
    simp only [setContents, Block.write_inBounds_iff, Block.writeAll_inBounds_iff,
      Block.writeAll_size]
    refine ⟨⟨hbounds, fun _ => ?_⟩, by omega⟩
    simp only [List.length_take]
    omega

-- A fresh buffer for `reserve` characters.
theorem createBuffer_sound {memory : Allocation} {reserve : Nat}
    (h : stringCreateBuffer grow memory reserve none = .ok string) :
    string.buffer.size = string.allocated ∧ string.buffer.InBounds ∧
      string.allocated ≤ INT32_MAX + 1 ∧ reserve + 1 ≤ string.allocated := by
  simp only [stringCreateBuffer] at h
  split at h
  · cases h
  · rename_i hreserve
    cases memory with
    | none => cases h
    | some fresh =>
        have hsmall : reserve + 1 ≤ INT32_MAX + 1 := by omega
        have hu : uint32 (reserve + 1) = reserve + 1 :=
          uint32_of_lt (by simp only [INT32_MAX] at hsmall; omega)
        cases h
        simp only [hu, grow.grow_lt hsmall]
        exact ⟨rfl, Block.malloc_inBounds _ _, grow.grow_le _ hsmall, grow.le_grow _⟩

theorem create_eq {outcome : StringCreation} {reserve : Nat} {buffer : Option (List UInt8)}
    (h : stringCreate grow outcome reserve buffer = .ok string) :
    stringCreateBuffer grow outcome.memory reserve buffer = .ok string := by
  simp only [stringCreate] at h
  split at h
  · cases h
  · rename_i created hcreated
    split_ifs at h
    exact hcreated.trans h

theorem wrap_sound {outcome : StringCreation} {buffer : List UInt8}
    (h : stringWrap grow outcome buffer = .ok string) : string.Sound := by
  simp only [stringWrap] at h
  split at h
  · cases h
  · rename_i hlength
    split at h
    · cases h
    · rename_i created hcreated
      obtain ⟨hsize, hbounds, hallocated, hroom⟩ := createBuffer_sound (create_eq hcreated)
      cases h
      exact setContents_sound hsize hbounds hallocated _ (by omega) hroom

theorem allocate_sound {outcome : StringCreation} {reserve : UInt32} {buffer : List UInt8}
    (h : stringAllocate grow outcome reserve buffer = .ok string) : string.Sound := by
  simp only [stringAllocate] at h
  split at h
  · cases h
  · rename_i created hcreated
    obtain ⟨hsize, hbounds, hallocated, hroom⟩ := createBuffer_sound (create_eq hcreated)
    have hlength := strnlen_le buffer STRING_MAX_ALLOCATE_BUFFER_LENGTH
    cases h
    refine setContents_sound hsize hbounds hallocated _ ?_ ?_
    · simp only [STRING_MAX_ALLOCATE_BUFFER_LENGTH, INT32_MAX] at *
      omega
    · split_ifs at hroom <;> omega

theorem asprintf_sound {outcome : StringCreation} {formatted : Option (List UInt8)}
    (h : stringAsprintf grow outcome formatted = .ok string) : string.Sound := by
  simp only [stringAsprintf] at h
  split at h
  · cases h
  · rename_i bytes hbytes
    have hlength : bytes.length ≤ INT32_MAX := by
      simpa using (Option.filter_eq_some_iff.mp hbytes).2
    have hstrlen := strlen_le_length bytes
    have hcreated := create_eq h
    have hu : uint32 (strlen bytes) = strlen bytes :=
      uint32_of_lt (by simp only [INT32_MAX] at hlength; omega)
    have hu' : uint32 (strlen bytes + 1) = strlen bytes + 1 :=
      uint32_of_lt (by simp only [INT32_MAX] at hlength; omega)
    simp only [stringCreateBuffer, hu, hu'] at hcreated
    split at hcreated
    · cases hcreated
    · cases hcreated
      refine ⟨rfl, Nat.le_refl _, ?_, by simp only; omega, by simp only; omega,
        Block.malloc_inBounds _ _⟩
      -- the byte behind the string is the terminator that ended strlen
      change bytes.getD (strlen bytes) 0 = 0
      exact getD_strlen bytes

theorem reserve_sound (hs : string.Sound) {memory : Allocation} {reserve : Nat}
    {reserved : StringObject} (h : stringReserve grow memory string reserve = (.success, reserved)) :
    reserved.Sound ∧ reserved.length = string.length ∧ reserve + 1 ≤ reserved.allocated := by
  simp only [stringReserve] at h
  split at h
  · cases h
  · rename_i hreserve
    have hsmall : reserve + 1 ≤ INT32_MAX + 1 := by omega
    have hu : uint32 (reserve + 1) = reserve + 1 :=
      uint32_of_lt (by simp only [INT32_MAX] at hsmall; omega)
    rw [hu, grow.grow_lt hsmall] at h
    split at h
    · cases h
      exact ⟨hs, rfl, by assumption⟩
    · rename_i hgrow
      cases memory with
      | none => cases h
      | some fresh =>
          have hroom := grow.le_grow (reserve + 1)
          have hlength := hs.length_lt
          cases h
          refine ⟨⟨rfl, ?_, ?_, hs.length_le, grow.grow_le _ hsmall, ?_⟩, rfl, hroom⟩
          · change string.length + 1 ≤ grow (reserve + 1)
            omega
          · rw [Block.realloc_bytes _ (by rw [hs.size_eq]; exact hlength)]
            exact hs.terminated
          · exact (Block.realloc_inBounds_iff _ _ _).mpr hs.inBounds

-- The only chunk that leaves the buffer is one that fills it to its last byte:
-- the terminator is then written behind it.
theorem putChunk_sound_iff (hs : string.Sound) {offset : Nat} {bytes : List UInt8}
    (hne : bytes ≠ []) (hle : offset + bytes.length ≤ INT32_MAX)
    (hroom : offset + bytes.length ≤ string.allocated) :
    (string.putChunk offset bytes).Sound ↔ offset + bytes.length ≠ string.allocated := by
  have hu : uint32 (offset + bytes.length) = offset + bytes.length :=
    uint32_of_lt (by simp only [INT32_MAX] at hle; omega)
  have hlength := hs.length_lt
  have hcopied : ((string.buffer.writeAll string.length
      (List.replicate (offset - string.length) 32)).writeAll offset bytes).InBounds := by
    simp only [Block.writeAll_inBounds_iff, Block.writeAll_size, hs.size_eq,
      List.length_replicate]
    exact ⟨⟨hs.inBounds, fun _ => by omega⟩, fun _ => hroom⟩
  simp only [putChunk, hu]
  split
  · rename_i hextends
    constructor
    · intro h
      have := h.length_lt
      simp only at this
      omega
    · intro h
      refine ⟨by simpa using hs.size_eq, by simp only; omega, by simp, hle, hs.allocated_le, ?_⟩
      simp only [Block.write_inBounds_iff, Block.writeAll_size, hs.size_eq]
      exact ⟨hcopied, by omega⟩
  · rename_i hinside
    have hpos := List.length_pos_iff.mpr hne
    refine iff_of_true ⟨by simpa using hs.size_eq, hs.length_lt, ?_, hs.length_le,
      hs.allocated_le, hcopied⟩ (by omega)
    rw [Block.writeAll_bytes, dif_neg (by simp only; omega), Block.writeAll_bytes,
      dif_neg (by simp; omega)]
    exact hs.terminated

theorem truncate_sound (hs : string.Sound) (lockCount : Nat) (length : UInt32) :
    (stringTruncate lockCount length string).2.Sound := by
  simp only [stringTruncate]
  split_ifs with _ hshorter
  · exact hs
  · have hlength := hs.length_lt
    have hle := hs.length_le
    refine ⟨hs.size_eq, ?_, by simp, ?_, hs.allocated_le, ?_⟩
    · simp only; omega
    · simp only; omega
    · simp only [Block.write_inBounds_iff, hs.size_eq]
      exact ⟨hs.inBounds, by omega⟩
  · exact hs

theorem setChunk_sound_iff (hs : string.Sound) (memory : Allocation) (lockCount : Nat)
    (offset : UInt32) (buffer : List UInt8) :
    (stringSetChunk grow memory lockCount offset buffer string).2.Sound ↔
      (StringCall.setChunk memory lockCount offset buffer).Fits string := by
  have hchunk := strnlen_le buffer STRING_MAX_SET_CHUNK_BUFFER_LENGTH
  have hlen : (buffer.take (strnlen buffer STRING_MAX_SET_CHUNK_BUFFER_LENGTH)).length =
      strnlen buffer STRING_MAX_SET_CHUNK_BUFFER_LENGTH := by
    rw [List.length_take, Nat.min_eq_left (strnlen_le_length _ _)]
  simp only [stringSetChunk, StringCall.Fits]
  split
  · exact iff_of_true hs (by intros; omega)
  split
  · exact iff_of_true hs (by intros; omega)
  rename_i hlock hoffset
  have hu : uint32 (offset.toNat + strnlen buffer STRING_MAX_SET_CHUNK_BUFFER_LENGTH) =
      offset.toNat + strnlen buffer STRING_MAX_SET_CHUNK_BUFFER_LENGTH := by
    apply uint32_of_lt
    simp only [STRING_MAX_SET_CHUNK_BUFFER_LENGTH, INT32_MAX] at *
    omega
  rw [hu]
  split
  · exact iff_of_true hs (by intros; omega)
  split
  · exact iff_of_true hs (by intros; contradiction)
  rename_i hend hzero
  have hne : buffer.take (strnlen buffer STRING_MAX_SET_CHUNK_BUFFER_LENGTH) ≠ [] := by
    apply List.ne_nil_of_length_pos
    omega
  have happlies : ∀ p : Prop, (lockCount = 0 →
      strnlen buffer STRING_MAX_SET_CHUNK_BUFFER_LENGTH ≠ 0 →
      offset.toNat + strnlen buffer STRING_MAX_SET_CHUNK_BUFFER_LENGTH ≤ INT32_MAX → p) ↔ p :=
    fun p => ⟨fun h => h (by omega) hzero (by omega), fun h _ _ _ => h⟩
  rw [happlies]
  by_cases hroom : offset.toNat + strnlen buffer STRING_MAX_SET_CHUNK_BUFFER_LENGTH >
      string.allocated
  · rw [if_pos hroom]
    refine iff_of_true ?_ (by omega)
    split
    · rename_i reserved hreserved
      obtain ⟨hr, _, hroom'⟩ := reserve_sound hs hreserved
      exact (putChunk_sound_iff hr hne (by omega) (by omega)).mpr (by omega)
    · rename_i code reserved hcode hreserved
      rw [reserve_error hreserved hcode]
      exact hs
  · rw [if_neg hroom]
    simp only
    rw [putChunk_sound_iff hs hne (by omega) (by omega), hlen]

theorem getChunk_sound (hs : string.Sound) (offset : UInt32) (response : List UInt8) :
    (stringGetChunk offset response string).2.2.Sound := by
  have hlength := hs.length_lt
  simp only [stringGetChunk]
  split_ifs
  · exact hs
  · exact hs
  · exact hs
  · refine ⟨hs.size_eq, hs.length_lt, hs.terminated, hs.length_le, hs.allocated_le, ?_⟩
    simp only [Block.read_inBounds_iff, hs.size_eq]
    exact ⟨hs.inBounds, by omega⟩

end StringObject

theorem StringSource.create_sound {grow : GrowAllocation} {string : StringObject}
    (source : StringSource) (h : source.create grow = .ok string) : string.Sound := by
  cases source with
  | wrap outcome buffer => exact StringObject.wrap_sound h
  | asprintf outcome formatted => exact StringObject.asprintf_sound h
  | allocate outcome reserve buffer => exact StringObject.allocate_sound h

theorem StringCall.run_sound_iff (grow : GrowAllocation) {string : StringObject}
    (hs : string.Sound) (call : StringCall) :
    (call.run grow string).2.Sound ↔ call.Fits string := by
  cases call with
  | truncate lockCount length =>
      exact iff_of_true (StringObject.truncate_sound hs lockCount length) trivial
  | setChunk memory lockCount offset buffer =>
      exact StringObject.setChunk_sound_iff hs memory lockCount offset buffer

theorem AlwaysSound.first {grow : GrowAllocation} {string : StringObject}
    {calls : List StringCall} (h : AlwaysSound grow string calls) : string.Sound := by
  cases calls with
  | nil => exact h
  | cons call calls => exact h.1

theorem alwaysSound_iff_alwaysFits (grow : GrowAllocation) {string : StringObject}
    (hs : string.Sound) (calls : List StringCall) :
    AlwaysSound grow string calls ↔ AlwaysFits grow string calls := by
  induction calls generalizing string with
  | nil => exact iff_of_true hs trivial
  | cons call calls ih =>
      simp only [AlwaysSound, AlwaysFits]
      constructor
      · rintro ⟨_, h⟩
        exact ⟨(call.run_sound_iff grow hs).mp h.first, (ih h.first).mp h⟩
      · rintro ⟨hfits, h⟩
        have hnext := (call.run_sound_iff grow hs).mpr hfits
        exact ⟨hs, (ih hnext).mpr h⟩

-- A String stays inside of its buffer exactly as long as no chunk ends at the end
-- of the buffer.
theorem string_sound_iff_fits (grow : GrowAllocation) (source : StringSource)
    (string : StringObject) (h : source.create grow = .ok string) (calls : List StringCall) :
    AlwaysSound grow string calls ↔ AlwaysFits grow string calls :=
  alwaysSound_iff_alwaysFits grow (source.create_sound h) calls

-- An empty string with room for 15 characters.
def reserved15 : StringSource := .allocate ⟨some fun _ => 0, true, .success⟩ 15 []

def string15 : StringObject := (⟨Block.malloc (fun _ => 0) 16, 0, 16⟩ : StringObject).setContents [] 0

-- Appending one character to it fits.
theorem string15_sound_iff_fits :
    reserved15.create growTo16 = .ok string15 ∧
      (AlwaysSound growTo16 string15 [.setChunk none 0 0 [65]] ↔
        AlwaysFits growTo16 string15 [.setChunk none 0 0 [65]]) :=
  ⟨rfl, string_sound_iff_fits growTo16 reserved15 string15 rfl _⟩

-- 16 characters fill the buffer, the terminator is written behind it.
theorem string15_overflow :
    reserved15.create growTo16 = .ok string15 ∧
      ¬ AlwaysSound growTo16 string15 [.setChunk none 0 0 (List.replicate 16 65)] ∧
      ((StringCall.setChunk none 0 0 (List.replicate 16 65)).run growTo16
        string15).2.buffer.accesses.getLast? = some ⟨16, 16⟩ := by
  refine ⟨rfl, ?_, by decide⟩
  rintro ⟨_, h⟩
  exact absurd h.length_lt (by decide)

end RedApid
