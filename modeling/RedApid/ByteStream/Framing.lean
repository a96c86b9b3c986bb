import Mathlib.Data.List.Basic

namespace RedApid.ByteStream

-- A packet format for a stream: every packet starts with a header of fixed size, a
-- valid header tells the length of its packet.
structure Framing (α : Type*) where
  headerSize : Nat
  maxSize : Nat
  valid : List α → Bool
  length : List α → Nat
  headerSize_pos : 0 < headerSize
  headerSize_le : ∀ header, valid header → headerSize ≤ length header
  length_le : ∀ header, valid header → length header ≤ maxSize

-- The complete packets of a stream and what is left behind the last of them, or
-- none if the stream goes on with an invalid header.
structure Decoded (α : Type*) where
  packets : List (List α)
  rest : Option (List α)

namespace Framing

variable {α : Type*} (framing : Framing α)

def header (stream : List α) : List α := stream.take framing.headerSize

def decode (stream : List α) : Decoded α :=
  if _hshort : stream.length < framing.headerSize then ⟨[], some stream⟩
  else if _hvalid : framing.valid (framing.header stream) then
    let length := framing.length (framing.header stream)
    if stream.length < length then ⟨[], some stream⟩
    else
      let following := decode (stream.drop length)
      ⟨stream.take length :: following.packets, following.rest⟩
  else ⟨[], none⟩
termination_by stream.length
decreasing_by
  have := framing.headerSize_pos
  have := framing.headerSize_le _ _hvalid
  simp only [List.length_drop]
  omega

-- The first packet of a stream is all there or not.
def Pending (stream : List α) : Prop :=
  stream.length < framing.headerSize ∨
    framing.valid (framing.header stream) ∧
      stream.length < framing.length (framing.header stream)

variable {framing}

theorem decode_pending {stream : List α} (h : framing.Pending stream) :
    framing.decode stream = ⟨[], some stream⟩ := by
  rw [decode]
  rcases h with hshort | ⟨hvalid, hlength⟩
  · rw [dif_pos hshort]
  · by_cases hshort : stream.length < framing.headerSize
    · rw [dif_pos hshort]
    · simp only [dif_neg hshort, dif_pos hvalid, if_pos hlength]

variable (framing) in
theorem decode_invalid {stream : List α} (hheader : framing.headerSize ≤ stream.length)
    (hvalid : ¬ framing.valid (framing.header stream)) :
    framing.decode stream = ⟨[], none⟩ := by
  rw [decode, dif_neg (by omega), dif_neg hvalid]

variable (framing) in
theorem decode_packet {stream : List α} (hheader : framing.headerSize ≤ stream.length)
    (hvalid : framing.valid (framing.header stream))
    (hlength : framing.length (framing.header stream) ≤ stream.length) :
    framing.decode stream =
      ⟨stream.take (framing.length (framing.header stream)) ::
          (framing.decode (stream.drop (framing.length (framing.header stream)))).packets,
        (framing.decode (stream.drop (framing.length (framing.header stream)))).rest⟩ := by
  rw [decode, dif_neg (by omega), dif_pos hvalid]
  simp only [if_neg (show ¬ stream.length < framing.length (framing.header stream) by omega)]

variable (framing) in
theorem header_append {stream : List α} (h : framing.headerSize ≤ stream.length)
    (more : List α) : framing.header (stream ++ more) = framing.header stream :=
  List.take_append_of_le_length h

-- More input never changes the packets that are already complete: decoding goes on
-- with what was left, and an invalid header is final.
theorem decode_append (stream more : List α) :
    framing.decode (stream ++ more) =
      match (framing.decode stream).rest with
      | none => framing.decode stream
      | some rest =>
          ⟨(framing.decode stream).packets ++ (framing.decode (rest ++ more)).packets,
            (framing.decode (rest ++ more)).rest⟩ := by
  induction stream using decode.induct framing with
  | case1 stream hshort => rw [decode_pending (Or.inl hshort)]; rfl
  | case2 stream hshort hvalid length hlength =>
      rw [decode_pending (Or.inr ⟨hvalid, hlength⟩)]; rfl
  | case3 stream hshort hvalid length hlength ih =>
      have hheader := header_append framing (Nat.le_of_not_lt hshort) more
      have hcomplete : length ≤ stream.length := Nat.le_of_not_lt hlength
      rw [decode_packet framing (Nat.le_of_not_lt hshort) hvalid hcomplete,
        decode_packet framing (by simp; omega) (by rw [hheader]; exact hvalid)
          (by rw [hheader]; simp; omega)]
      simp only [hheader]
      rw [List.take_append_of_le_length hcomplete, List.drop_append_of_le_length hcomplete, ih]
      cases hrest : (framing.decode (stream.drop length)).rest with
      | none => simp only [length] at hrest ⊢; simp only [hrest]
      | some rest => rfl
  | case4 stream hshort hvalid =>
      have hheader := header_append framing (Nat.le_of_not_lt hshort) more
      rw [decode_invalid framing (Nat.le_of_not_lt hshort) hvalid,
        decode_invalid framing (by simp; omega) (by rw [hheader]; exact hvalid)]

-- An incomplete packet is shorter than the longest packet.
theorem Pending.length_lt {stream : List α} (h : framing.Pending stream)
    (hsize : framing.headerSize ≤ framing.maxSize) : stream.length < framing.maxSize := by
  rcases h with hshort | ⟨hvalid, hlength⟩
  · omega
  · have := framing.length_le _ hvalid
    omega

-- A whole packet on its own.
structure Whole (framing : Framing α) (packet : List α) : Prop where
  headerSize_le : framing.headerSize ≤ packet.length
  valid : framing.valid (framing.header packet)
  length_eq : framing.length (framing.header packet) = packet.length

-- Packets that follow each other are taken apart again.
theorem decode_flatten {packets : List (List α)} (h : ∀ packet ∈ packets, framing.Whole packet)
    {rest : List α} (hrest : framing.Pending rest) :
    framing.decode (packets.flatten ++ rest) = ⟨packets, some rest⟩ := by
  induction packets with
  | nil => exact decode_pending hrest
  | cons packet packets ih =>
      have hwhole := h packet List.mem_cons_self
      have hheader := header_append framing hwhole.headerSize_le (packets.flatten ++ rest)
      have hlength : framing.length (framing.header (packet ++ (packets.flatten ++ rest))) =
          packet.length := by rw [hheader, hwhole.length_eq]
      rw [List.flatten_cons, List.append_assoc, decode_packet framing ?_ ?_ ?_, hlength,
        List.take_left, List.drop_left, ih fun other hother => h other (List.mem_cons_of_mem _ hother)]
      · have := hwhole.headerSize_le
        rw [List.length_append]
        omega
      · rw [hheader]
        exact hwhole.valid
      · rw [hlength, List.length_append]
        omega

end Framing

end RedApid.ByteStream
