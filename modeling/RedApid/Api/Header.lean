import RedApid.Brickd.Basic
import RedApid.ByteStream.LittleEndian

namespace RedApid

open ByteStream

-- The header of a packet. Its last two bytes are bit fields with bits to spare.
@[ext]
structure PacketHeader where
  uid : UInt32
  length : UInt8
  functionId : UInt8
  sequenceNumber : BitVec 4
  responseExpected : Bool
  errorCode : BitVec 2
deriving DecidableEq, Repr

structure Packet where
  header : PacketHeader
  payload : List UInt8
deriving DecidableEq, Repr

namespace PacketHeader

variable (header : PacketHeader)

def sequenceNumberAndOptions : UInt8 :=
  (header.sequenceNumber.toNat * 16 + if header.responseExpected then 8 else 0).toUInt8

def errorCodeAndFutureUse : UInt8 := (header.errorCode.toNat * 64).toUInt8

def bytes : List UInt8 :=
  bytesOf 4 header.uid.toNat ++
    [header.length, header.functionId, header.sequenceNumberAndOptions,
      header.errorCodeAndFutureUse]

def read (bytes : List UInt8) : PacketHeader where
  uid := UInt32.ofNat (littleEndian (bytes.take 4))
  length := bytes.getD 4 0
  functionId := bytes.getD 5 0
  sequenceNumber := BitVec.ofNat 4 ((bytes.getD 6 0).toNat / 16)
  responseExpected := (bytes.getD 6 0).toNat / 8 % 2 = 1
  errorCode := BitVec.ofNat 2 ((bytes.getD 7 0).toNat / 64)

@[simp] theorem bytes_length : header.bytes.length = 8 := by simp [bytes]

theorem sequenceNumberAndOptions_toNat : header.sequenceNumberAndOptions.toNat =
    header.sequenceNumber.toNat * 16 + if header.responseExpected then 8 else 0 := by
  have hlt := header.sequenceNumber.isLt
  unfold sequenceNumberAndOptions
  rw [UInt8.toNat_ofNat', Nat.mod_eq_of_lt]
  split <;> omega

theorem errorCodeAndFutureUse_toNat :
    header.errorCodeAndFutureUse.toNat = header.errorCode.toNat * 64 := by
  have hlt := header.errorCode.isLt
  unfold errorCodeAndFutureUse
  rw [UInt8.toNat_ofNat', Nat.mod_eq_of_lt (by omega)]

variable {header} in
theorem read_bytes (rest : List UInt8) : read (header.bytes ++ rest) = header := by
  have hsequence := header.sequenceNumber.isLt
  have herror := header.errorCode.isLt
  have huid : (header.bytes ++ rest).take 4 = bytesOf 4 header.uid.toNat := by
    rw [bytes, List.append_assoc, List.take_left' (bytesOf_length 4 _)]
  have hget : ∀ i, (header.bytes ++ rest).getD (4 + i) 0 =
      ([header.length, header.functionId, header.sequenceNumberAndOptions,
        header.errorCodeAndFutureUse] ++ rest).getD i 0 := by
    intro i
    rw [bytes, List.append_assoc, List.getD_eq_getElem?_getD,
      List.getElem?_append_right (by rw [bytesOf_length]; omega), bytesOf_length,
      Nat.add_sub_cancel_left, List.getD_eq_getElem?_getD]
  refine PacketHeader.ext ?_ ?_ ?_ ?_ ?_ ?_
  · simp only [read, huid, littleEndian_bytesOf]
    have hlt := header.uid.toNat_lt
    rw [Nat.mod_eq_of_lt (by omega), UInt32.ofNat_toNat]
  · exact hget 0
  · exact hget 1
  · refine BitVec.eq_of_toNat_eq ?_
    change (BitVec.ofNat 4 (((header.bytes ++ rest).getD (4 + 2) 0).toNat / 16)).toNat = _
    rw [hget 2]
    change header.sequenceNumberAndOptions.toNat / 16 % 16 = _
    rw [sequenceNumberAndOptions_toNat]
    split <;> omega
  · change decide (((header.bytes ++ rest).getD (4 + 2) 0).toNat / 8 % 2 = 1) = _
    rw [hget 2]
    change decide (header.sequenceNumberAndOptions.toNat / 8 % 2 = 1) = _
    rw [sequenceNumberAndOptions_toNat]
    cases header.responseExpected with
    | false => exact decide_eq_false (by simp only [Bool.false_eq_true, if_false]; omega)
    | true => exact decide_eq_true (by simp only [if_true]; omega)
  · refine BitVec.eq_of_toNat_eq ?_
    change (BitVec.ofNat 2 (((header.bytes ++ rest).getD (4 + 3) 0).toNat / 64)).toNat = _
    rw [hget 3]
    change header.errorCodeAndFutureUse.toNat / 64 % 4 = _
    rw [errorCodeAndFutureUse_toNat]
    omega

theorem read_take {size : Nat} (h : 8 ≤ size) (bytes : List UInt8) :
    read (bytes.take size) = read bytes := by
  have hget : ∀ i < 8, (bytes.take size).getD i 0 = bytes.getD i 0 := by
    intro i hi
    rw [List.getD_eq_getElem?_getD, List.getD_eq_getElem?_getD, List.getElem?_take_of_lt (by omega)]
  simp only [read, List.take_take, Nat.min_eq_left (show 4 ≤ size by omega), hget 4 (by omega),
    hget 5 (by omega), hget 6 (by omega), hget 7 (by omega)]

end PacketHeader

namespace Packet

variable (packet : Packet)

def bytes : List UInt8 := packet.header.bytes ++ packet.payload

def read (bytes : List UInt8) : Packet := ⟨.read bytes, bytes.drop 8⟩

theorem read_bytes : read packet.bytes = packet := by
  unfold read bytes
  rw [PacketHeader.read_bytes, List.drop_left' packet.header.bytes_length]

-- The header tells the length of the packet.
def Sized : Prop := packet.header.length.toNat = 8 + packet.payload.length

theorem bytes_length : packet.bytes.length = 8 + packet.payload.length := by
  rw [bytes, List.length_append, PacketHeader.bytes_length]

end Packet

-- What daemonlib documents of its packets.
structure PacketFormat.Standard (format : PacketFormat) : Prop where
  sizeofPacketHeader : format.sizeofPacketHeader = 8
  sizeofPacket : format.sizeofPacket = 80
  headerLength : ∀ bytes : List UInt8, bytes.length = 8 →
    format.headerLength bytes = (PacketHeader.read bytes).length.toNat
  headerUid : ∀ bytes : List UInt8, bytes.length = 8 →
    format.headerUid bytes = (PacketHeader.read bytes).uid
  valid_iff : ∀ bytes : List UInt8, bytes.length = 8 →
    (format.packetHeaderIsValidRequest bytes = true ↔
      8 ≤ (PacketHeader.read bytes).length.toNat ∧ (PacketHeader.read bytes).length.toNat ≤ 80 ∧
        (PacketHeader.read bytes).functionId ≠ 0 ∧ (PacketHeader.read bytes).sequenceNumber ≠ 0)

theorem PacketHeader.size_pos : 0 < 8 := by decide

theorem PacketHeader.size_le : 8 ≤ 80 := by decide

def PacketHeader.format : PacketFormat where
  sizeofPacketHeader := 8
  sizeofPacket := 80
  packetHeaderIsValidRequest bytes :=
    8 ≤ (read bytes).length.toNat && (read bytes).length.toNat ≤ 80 &&
      (read bytes).functionId != 0 && (read bytes).sequenceNumber != 0
  headerLength bytes := (read bytes).length.toNat
  headerUid bytes := (read bytes).uid
  sizeofPacketHeader_pos := size_pos
  sizeofPacketHeader_le := size_le
  header_le_length := by simp only [Bool.and_eq_true, decide_eq_true_eq]; tauto
  length_le_packet := by simp only [Bool.and_eq_true, decide_eq_true_eq]; tauto

theorem PacketHeader.format_standard : PacketHeader.format.Standard where
  sizeofPacketHeader := rfl
  sizeofPacket := rfl
  headerLength _ _ := rfl
  headerUid _ _ := rfl
  valid_iff bytes _ := by simp [PacketHeader.format, and_assoc]

end RedApid
