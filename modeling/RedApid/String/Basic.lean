import RedApid.Types
import RedApid.Memory.Block

namespace RedApid

open Memory

-- string.h
def STRING_MAX_ALLOCATE_BUFFER_LENGTH : Nat := 58
def STRING_MAX_SET_CHUNK_BUFFER_LENGTH : Nat := 58
def STRING_MAX_GET_CHUNK_BUFFER_LENGTH : Nat := 63

-- GROW_ALLOCATION of daemonlib. Only these two bounds are relied on.
structure GrowAllocation where
  grow : Nat → Nat
  le_grow : ∀ n, n ≤ grow n
  grow_le : ∀ n, n ≤ INT32_MAX + 1 → grow n ≤ INT32_MAX + 1

instance : CoeFun GrowAllocation fun _ => Nat → Nat := ⟨GrowAllocation.grow⟩

-- Rounds up to the next multiple of 16.
def growTo16 : GrowAllocation where
  grow n := (n + 15) / 16 * 16
  le_grow n := by omega
  grow_le n h := by simp only [INT32_MAX] at *; omega

-- The members of a String object behind its Object base. `allocated` is the
-- recorded size of `buffer`, `buffer.size` the size the allocator gave to it.
structure StringObject where
  buffer : Block
  length : Nat
  allocated : Nat

-- The outcome of `malloc` or `realloc`: NULL, or a block with the given memory
-- wherever the call leaves its contents open.
abbrev Allocation := Option (Nat → UInt8)

section Functions

variable (grow : GrowAllocation)

def stringReserve (memory : Allocation) (string : StringObject) (reserve : Nat) :
    APIE × StringObject :=
  if reserve > INT32_MAX then
    (.outOfRange, string)
  else
    let reserve := uint32 (reserve + 1) -- one extra byte for the NULL-terminator
    if reserve ≤ string.allocated then
      (.success, string)
    else
      let allocated := uint32 (grow reserve)
      match memory with
      | none => (.noFreeMemory, string)
      | some fresh =>
          (.success, { string with
            buffer := string.buffer.realloc fresh allocated
            allocated := allocated })

-- string_create up to the allocation of the String object itself. `buffer` is the
-- block that string_asprintf passes, which ends behind the NULL-terminator.
def stringCreateBuffer (memory : Allocation) (reserve : Nat) (buffer : Option (List UInt8)) :
    Except APIE StringObject :=
  match buffer with
  | none =>
      if reserve > INT32_MAX then
        .error .outOfRange
      else
        let reserve := uint32 (reserve + 1) -- one extra byte for the NULL-terminator
        let allocated := uint32 (grow reserve)
        match memory with
        | none => .error .noFreeMemory
        | some fresh => .ok ⟨Block.malloc fresh allocated, 0, allocated⟩
  | some bytes =>
      let length := uint32 (strlen bytes)
      if length > INT32_MAX then
        .error .outOfRange
      else
        .ok ⟨Block.malloc (fun i => bytes.getD i 0) (strlen bytes + 1), length,
          uint32 (length + 1)⟩

-- `memcpy(string->buffer, buffer, length)`, then the new length and its terminator.
def StringObject.setContents (string : StringObject) (bytes : List UInt8) (length : Nat) :
    StringObject :=
  { string with
    buffer := (string.buffer.writeAll 0 (bytes.take length)).write length 0
    length := length }

-- The outcomes of the steps of string_create that a String cannot decide itself:
-- the allocation of its buffer, of the object, and object_create.
structure StringCreation where
  memory : Allocation
  calloc : Bool
  objectCreate : APIE

def stringCreate (outcome : StringCreation) (reserve : Nat) (buffer : Option (List UInt8)) :
    Except APIE StringObject :=
  match stringCreateBuffer grow outcome.memory reserve buffer with
  | .error code => .error code
  | .ok string =>
      if !outcome.calloc then .error .noFreeMemory
      else if outcome.objectCreate ≠ .success then .error outcome.objectCreate
      else .ok string

def stringWrap (outcome : StringCreation) (buffer : List UInt8) : Except APIE StringObject :=
  let length := uint32 (strlen buffer)
  if length > INT32_MAX then
    .error .outOfRange
  else
    match stringCreate grow outcome length none with
    | .error code => .error code
    | .ok string => .ok (string.setContents buffer length)

-- `formatted` is the output of vasprintf, which fails beyond INT_MAX characters.
def stringAsprintf (outcome : StringCreation) (formatted : Option (List UInt8)) :
    Except APIE StringObject :=
  match formatted.filter (·.length ≤ INT32_MAX) with
  | none => .error .noFreeMemory
  | some buffer => stringCreate grow outcome 0 (some buffer)

def stringAllocate (outcome : StringCreation) (reserve : UInt32) (buffer : List UInt8) :
    Except APIE StringObject :=
  let length := strnlen buffer STRING_MAX_ALLOCATE_BUFFER_LENGTH
  let reserve := if reserve.toNat < length then length else reserve.toNat
  match stringCreate grow outcome reserve none with
  | .error code => .error code
  | .ok string => .ok (string.setContents buffer length)

def stringTruncate (lockCount : Nat) (length : UInt32) (string : StringObject) :
    APIE × StringObject :=
  if lockCount > 0 then
    (.objectIsLocked, string)
  else if length.toNat < string.length then
    (.success, { string with
      buffer := string.buffer.write length.toNat 0
      length := length.toNat })
  else
    (.success, string)

-- The tail of string_set_chunk once the buffer is large enough: fill the gap
-- between old buffer end and offset with whitespace, then copy the chunk.
def StringObject.putChunk (string : StringObject) (offset : Nat) (bytes : List UInt8) :
    StringObject :=
  let gap := List.replicate (offset - string.length) (32 : UInt8)
  let buffer := (string.buffer.writeAll string.length gap).writeAll offset bytes
  if uint32 (offset + bytes.length) > string.length then
    { string with
      buffer := buffer.write (uint32 (offset + bytes.length)) 0
      length := uint32 (offset + bytes.length) }
  else
    { string with buffer := buffer }

def stringSetChunk (memory : Allocation) (lockCount : Nat) (offset : UInt32)
    (buffer : List UInt8) (string : StringObject) : APIE × StringObject :=
  if lockCount > 0 then
    (.objectIsLocked, string)
  else if offset.toNat > INT32_MAX then
    (.outOfRange, string)
  else
    let length := strnlen buffer STRING_MAX_SET_CHUNK_BUFFER_LENGTH
    if uint32 (offset.toNat + length) > INT32_MAX then
      (.outOfRange, string)
    else if length = 0 then
      (.success, string)
    else
      -- reallocate if necessary
      let reserved :=
        if uint32 (offset.toNat + length) > string.allocated then
          stringReserve grow memory string (uint32 (offset.toNat + length))
        else
          (.success, string)
      match reserved with
      | (.success, string) => (.success, string.putChunk offset.toNat (buffer.take length))
      | (code, string) => (code, string)

-- Returns the error code, the new contents of the 63 bytes at `response` and the string.
def stringGetChunk (offset : UInt32) (response : List UInt8) (string : StringObject) :
    APIE × List UInt8 × StringObject :=
  let zeros := List.replicate STRING_MAX_GET_CHUNK_BUFFER_LENGTH (0 : UInt8)
  if offset.toNat > INT32_MAX then
    (.outOfRange, response, string)
  else if offset.toNat > string.length then
    (.outOfRange, zeros, string)
  else
    let length := string.length - offset.toNat
    if length = 0 then
      (.success, zeros, string)
    else
      let length := min length STRING_MAX_GET_CHUNK_BUFFER_LENGTH
      let (bytes, buffer) := string.buffer.read offset.toNat length
      (.success, bytes ++ List.replicate (STRING_MAX_GET_CHUNK_BUFFER_LENGTH - length) 0,
        { string with buffer := buffer })

end Functions

-- A failing string_reserve leaves the string alone.
theorem StringObject.reserve_error {grow : GrowAllocation} {memory : Allocation}
    {string reserved : StringObject} {reserve : Nat} {code : APIE}
    (h : stringReserve grow memory string reserve = (code, reserved)) (hcode : code ≠ .success) :
    reserved = string := by
  simp only [stringReserve] at h
  split at h
  · exact (congrArg Prod.snd h).symm
  split at h
  · exact absurd (congrArg Prod.fst h).symm hcode
  cases memory with
  | none => exact (congrArg Prod.snd h).symm
  | some fresh => exact absurd (congrArg Prod.fst h).symm hcode

end RedApid
