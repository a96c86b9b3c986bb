import RedApid.Brickd.Basic
import RedApid.Memory.Text
import RedApid.ByteStream.Framing

namespace RedApid

open Memory ByteStream

-- The packets of the byte stream, as delimited by their headers.
def PacketFormat.framing (format : PacketFormat) : Framing UInt8 where
  headerSize := format.sizeofPacketHeader
  maxSize := format.sizeofPacket
  valid := format.packetHeaderIsValidRequest
  length := format.headerLength
  headerSize_pos := format.sizeofPacketHeader_pos
  headerSize_le := format.header_le_length
  length_le := format.length_le_packet

def PacketFormat.hasUid (format : PacketFormat) (uid : UInt32) (packet : List UInt8) : Bool :=
  format.headerUid (packet.take format.sizeofPacketHeader) == uid

def ReceiveResult.bytes : ReceiveResult → List UInt8
  | .data bytes => bytes
  | _ => []

-- A result that socket_receive can return while the connection stays up, if it is asked
-- for `room` bytes.
def ReceiveResult.Received (room : Nat) : ReceiveResult → Prop
  | .data bytes => bytes ≠ [] ∧ bytes.length ≤ room
  | .ioContinue | .interrupted | .wouldBlock => True
  | .closedByPeer | .failed => False

namespace BrickDaemon

variable (format : PacketFormat) (uid : UInt32)

-- The part of the request buffer that is in use.
def text (brickd : BrickDaemon) : List UInt8 := brickd.request.text brickd.requestUsed

-- A checked header is there and valid.
def Checked (brickd : BrickDaemon) : Prop :=
  brickd.requestHeaderChecked →
    format.sizeofPacketHeader ≤ brickd.requestUsed ∧
      format.packetHeaderIsValidRequest (format.framing.header brickd.text)

-- The state between two read events of a connection that is up.
structure Idle (brickd : BrickDaemon) : Prop where
  connected : brickd.disconnected = false
  checked : brickd.Checked format
  pending : format.framing.Pending brickd.text

-- The read events of a connection: each one gets what fits into the room that is left.
def Received (brickd : BrickDaemon) : List ReceiveResult → Prop
  | [] => True
  | received :: following =>
      brickd.disconnected ∨
        received.Received (format.sizeofPacket - brickd.requestUsed) ∧
          match brickdHandleRead format uid received brickd with
          | none => True
          | some (_, next) => next.Received following

-- What the loop leaves behind: the incomplete packet that follows the complete ones, or a
-- closed connection if the stream goes on with an invalid header.
def Left (brickd : BrickDaemon) : Option (List UInt8) → Prop
  | none => brickd.disconnected = true
  | some rest => brickd.Idle format ∧ brickd.text = rest

end BrickDaemon

namespace PacketFormat

variable {format : PacketFormat} {uid : UInt32}

@[simp] theorem framing_headerSize : format.framing.headerSize = format.sizeofPacketHeader := rfl

@[simp] theorem framing_maxSize : format.framing.maxSize = format.sizeofPacket := rfl

@[simp] theorem framing_length (header : List UInt8) :
    format.framing.length header = format.headerLength header := rfl

@[simp] theorem framing_valid (header : List UInt8) :
    format.framing.valid header = format.packetHeaderIsValidRequest header := rfl

end PacketFormat

open BrickDaemon

variable {format : PacketFormat} {uid : UInt32} {brickd : BrickDaemon}

@[simp] theorem text_length : brickd.text.length = brickd.requestUsed := by simp [text]

theorem read_header (h : format.sizeofPacketHeader ≤ brickd.requestUsed) :
    (brickd.request.read 0 format.sizeofPacketHeader).1 = format.framing.header brickd.text := by
  rw [Block.read_eq _ _ _ brickd.requestUsed (by omega)]
  rfl

variable (format uid) in
theorem passRequest_text (header : List UInt8) (request : Block) (length : Nat) :
    (passRequest format uid header request).2.text length = request.text length := by
  unfold passRequest
  split_ifs <;> rfl

theorem passRequest_handled (request : Block) {used : Nat}
    (hvalid : format.packetHeaderIsValidRequest (format.framing.header (request.text used)))
    (hlength : format.headerLength (format.framing.header (request.text used)) ≤ used) :
    (passRequest format uid (format.framing.header (request.text used)) request).1 =
      [(request.text used).take (format.headerLength (format.framing.header (request.text used)))].filter
        (format.hasUid uid) := by
  have hle := format.header_le_length _ hvalid
  simp only [passRequest, List.filter_cons, List.filter_nil, PacketFormat.hasUid,
    List.take_take, Nat.min_eq_left hle]
  change _ = if format.headerUid (format.framing.header (request.text used)) == uid then _ else _
  split_ifs with h h' h'
  · simp_all
  · rfl
  · rw [Block.read_eq _ _ _ used (by omega)]
    rfl
  · simp_all

-- A loop that is left before the end of the buffer waits for more input, or the header
-- is invalid.
theorem requestPass_leave {next : BrickDaemon} (hup : brickd.disconnected = false)
    (hchecked : brickd.Checked format) (h : requestPass format uid brickd = .leave next) :
    next.text = brickd.text ∧ next.requestUsed = brickd.requestUsed ∧
      (next.Idle format ∨
        next.disconnected = true ∧ format.sizeofPacketHeader ≤ brickd.requestUsed ∧
          ¬ format.packetHeaderIsValidRequest (format.framing.header brickd.text)) := by
  simp only [requestPass, hup, Bool.false_eq_true, false_or] at h
  split at h
  · rename_i hempty
    cases h
    refine ⟨rfl, rfl, Or.inl ⟨hup, hchecked, Or.inl ?_⟩⟩
    have := format.sizeofPacketHeader_pos
    simp only [text_length, PacketFormat.framing_headerSize]
    omega
  · split at h
    · rename_i hshort
      cases h
      exact ⟨rfl, rfl, Or.inl ⟨hup, hchecked, Or.inl (by simpa using hshort)⟩⟩
    · rename_i hheader
      rw [Nat.not_lt] at hheader
      rw [read_header hheader] at h
      split at h
      · rename_i hinvalid
        cases h
        exact ⟨rfl, rfl, Or.inr ⟨rfl, hheader, hinvalid.2⟩⟩
      · rename_i hvalid
        have hvalid : format.packetHeaderIsValidRequest (format.framing.header brickd.text) := by
          by_contra hinvalid
          exact hvalid ⟨fun hc => hinvalid (hchecked hc).2, hinvalid⟩
        split at h
        · rename_i hlength
          cases h
          exact ⟨rfl, rfl, Or.inl ⟨rfl, fun _ => ⟨hheader, hvalid⟩,
            Or.inr ⟨hvalid, by simpa [text] using hlength⟩⟩⟩
        · cases h

-- Going on with the loop takes one complete packet off the buffer.
theorem requestPass_again {handled : List (List UInt8)} {next : BrickDaemon}
    (hup : brickd.disconnected = false) (hchecked : brickd.Checked format)
    (h : requestPass format uid brickd = .again handled next) :
    let length := format.headerLength (format.framing.header brickd.text)
    format.sizeofPacketHeader ≤ brickd.requestUsed ∧
      format.packetHeaderIsValidRequest (format.framing.header brickd.text) ∧
      length ≤ brickd.requestUsed ∧
      handled = [brickd.text.take length].filter (format.hasUid uid) ∧
      next.text = brickd.text.drop length ∧
      next.disconnected = false ∧ next.requestHeaderChecked = false ∧
      next.requestUsed = brickd.requestUsed - length := by
  simp only [requestPass, hup, Bool.false_eq_true, false_or] at h
  split at h
  · cases h
  · split at h
    · cases h
    · rename_i hheader
      rw [Nat.not_lt] at hheader
      rw [read_header hheader] at h
      split at h
      · cases h
      · rename_i hvalid
        have hvalid : format.packetHeaderIsValidRequest (format.framing.header brickd.text) := by
          by_contra hinvalid
          exact hvalid ⟨fun hc => hinvalid (hchecked hc).2, hinvalid⟩
        split at h
        · cases h
        · rename_i hlength
          rw [Nat.not_lt] at hlength
          simp only [RequestPass.again.injEq] at h
          obtain ⟨rfl, rfl⟩ := h
          refine ⟨hheader, hvalid, hlength, ?_, ?_, rfl, rfl, rfl⟩
          · exact passRequest_handled (brickd.request.read 0 _).2 hvalid hlength
          · have hbytes := passRequest_text format uid
              (format.framing.header brickd.text)
              (brickd.request.read 0 format.sizeofPacketHeader).2 brickd.requestUsed
            exact (Block.writeAll_read_text _ _ _).trans (congrArg (List.drop _) hbytes)

-- Every pass that goes on shortens the buffer or clears the mark of a checked header,
-- whatever the buffer holds.
theorem requestPass_passes {handled : List (List UInt8)} {next : BrickDaemon}
    (h : requestPass format uid brickd = .again handled next) : next.passes < brickd.passes := by
  simp only [requestPass] at h
  split at h
  · cases h
  · split at h
    · cases h
    · split at h
      · cases h
      · rename_i hvalid
        split at h
        · cases h
        · simp only [RequestPass.again.injEq] at h
          obtain ⟨-, rfl⟩ := h
          simp only [passes, Bool.false_eq_true, if_false]
          cases hc : brickd.requestHeaderChecked with
          | true => simp only [if_true]; omega
          | false =>
              rw [hc] at hvalid
              have hle := format.header_le_length _ (by simpa using hvalid)
              have := format.sizeofPacketHeader_pos
              simp only [Bool.false_eq_true, if_false]
              omega

theorem requestLoop_ends (fuel : Nat) (brickd : BrickDaemon) (h : brickd.passes ≤ fuel) :
    (requestLoop format uid fuel brickd).isSome := by
  induction fuel generalizing brickd with
  | zero =>
      unfold passes at h
      split at h <;> omega
  | succ fuel ih =>
      unfold requestLoop
      split
      · rfl
      · rename_i handled next hpass
        have := requestPass_passes hpass
        rw [Option.isSome_map]
        exact ih next (by omega)

variable (uid) in
-- The loop takes all complete packets off the buffer.
theorem requestLoop_decode (fuel : Nat) (brickd : BrickDaemon) (h : brickd.passes ≤ fuel)
    (hup : brickd.disconnected = false) (hchecked : brickd.Checked format) :
    ∃ next, requestLoop format uid fuel brickd =
        some ((format.framing.decode brickd.text).packets.filter (format.hasUid uid), next) ∧
      next.Left format (format.framing.decode brickd.text).rest := by
  induction fuel generalizing brickd with
  | zero =>
      unfold passes at h
      split at h <;> omega
  | succ fuel ih =>
      cases hpass : requestPass format uid brickd with
      | leave next =>
          obtain ⟨htext, -, hidle | ⟨hdown, hheader, hinvalid⟩⟩ := requestPass_leave hup hchecked hpass
          · have hpending := hidle.pending
            rw [htext] at hpending
            refine ⟨next, ?_, ?_⟩
            · simp only [requestLoop, hpass, Framing.decode_pending hpending, List.filter_nil]
            · rw [Framing.decode_pending hpending]
              exact ⟨hidle, htext⟩
          · have hdecode := Framing.decode_invalid format.framing
              (by simpa using hheader) hinvalid
            refine ⟨next, ?_, ?_⟩
            · simp only [requestLoop, hpass, hdecode, List.filter_nil]
            · rw [hdecode]
              exact hdown
      | again handled next =>
          obtain ⟨hheader, hvalid, hlength, hhandled, htext, hup', hunchecked, -⟩ :=
            requestPass_again hup hchecked hpass
          have hpasses := requestPass_passes hpass
          obtain ⟨last, hlast, hleft⟩ := ih next (by omega) hup' (by simp [Checked, hunchecked])
          have hdecode := Framing.decode_packet format.framing
            (by simpa using hheader) hvalid (by simpa using hlength)
          refine ⟨last, ?_, ?_⟩
          · simp only [requestLoop, hpass, hlast, Option.map_some, hdecode, hhandled, htext]
            simp only [PacketFormat.framing_length, List.filter_cons, List.filter_nil]
            split_ifs <;> rfl
          · rw [hdecode]
            rwa [htext] at hleft

-- One read event extends the stream by the received bytes.
variable (uid) in
theorem brickdHandleRead_decode {received : ReceiveResult} (hidle : brickd.Idle format)
    (hreceived : received.Received (format.sizeofPacket - brickd.requestUsed)) :
    let decoded := format.framing.decode (brickd.text ++ received.bytes)
    ∃ next, brickdHandleRead format uid received brickd =
        some (decoded.packets.filter (format.hasUid uid), next) ∧
      next.Left format decoded.rest := by
  have hretry : ∃ next, some ([], brickd) =
        some ((format.framing.decode (brickd.text ++ [])).packets.filter (format.hasUid uid), next) ∧
      next.Left format (format.framing.decode (brickd.text ++ [])).rest := by
    rw [List.append_nil, Framing.decode_pending hidle.pending]
    exact ⟨brickd, rfl, hidle, rfl⟩
  cases received with
  | closedByPeer => exact hreceived.elim
  | failed => exact hreceived.elim
  | ioContinue => exact hretry
  | interrupted => exact hretry
  | wouldBlock => exact hretry
  | data bytes =>
      have htext := brickd.request.writeAll_text brickd.requestUsed bytes
      let extended : BrickDaemon :=
        { brickd with
          request := brickd.request.writeAll brickd.requestUsed bytes
          requestUsed := brickd.requestUsed + bytes.length }
      have hextended : extended.text = brickd.text ++ bytes := htext
      have hchecked : extended.Checked format := by
        intro hc
        obtain ⟨hheader, hvalid⟩ := hidle.checked hc
        refine ⟨by simp only [extended]; omega, ?_⟩
        rw [hextended, Framing.header_append _ (by simpa using hheader)]
        exact hvalid
      have h := requestLoop_decode uid _ extended (Nat.le_refl _) hidle.connected hchecked
      rw [hextended] at h
      exact h

theorem brickdHandleReads_decode (results : List ReceiveResult) (brickd : BrickDaemon)
    (hidle : brickd.Idle format) (hreceived : brickd.Received format uid results) :
    let decoded := format.framing.decode (brickd.text ++ results.flatMap ReceiveResult.bytes)
    ∃ next, brickdHandleReads format uid brickd results =
        some (decoded.packets.filter (format.hasUid uid), next) ∧
      next.Left format decoded.rest := by
  induction results generalizing brickd with
  | nil =>
      rw [List.flatMap_nil, List.append_nil, Framing.decode_pending hidle.pending]
      exact ⟨brickd, rfl, hidle, rfl⟩
  | cons received following ih =>
      simp only [BrickDaemon.Received, hidle.connected, Bool.false_eq_true, false_or] at hreceived
      obtain ⟨hfits, hfollowing⟩ := hreceived
      obtain ⟨next, hnext, hleft⟩ := brickdHandleRead_decode uid hidle hfits
      simp only [hnext] at hfollowing
      simp only [List.flatMap_cons, ← List.append_assoc]
      rw [Framing.decode_append]
      cases hrest : (format.framing.decode (brickd.text ++ received.bytes)).rest with
      | none =>
          rw [hrest] at hleft
          change next.disconnected = true at hleft
          refine ⟨next, ?_, by rw [hrest]; exact hleft⟩
          simp only [brickdHandleReads, hidle.connected, hnext]
          cases following <;> simp [brickdHandleReads, hleft]
      | some rest =>
          rw [hrest] at hleft
          obtain ⟨hidle', htext⟩ := hleft
          obtain ⟨last, hlast, hleft'⟩ := ih next hidle' hfollowing
          rw [htext] at hlast hleft'
          refine ⟨last, ?_, hleft'⟩
          simp [brickdHandleReads, hidle.connected, hnext, hlast]

theorem brickdCreate_idle (memory : Nat → UInt8) : (brickdCreate format memory).Idle format := by
  refine ⟨rfl, by simp [Checked, brickdCreate], Or.inl ?_⟩
  simpa [brickdCreate] using format.sizeofPacketHeader_pos

-- However the stream is cut, the same packets are handed on: the complete ones with the
-- own UID, up to the first invalid header. There is room for more input as long as the
-- connection is up.
theorem brickd_requests_framed (memory : Nat → UInt8) {results : List ReceiveResult}
    (hreceived : (brickdCreate format memory).Received format uid results) :
    let decoded := format.framing.decode (results.flatMap ReceiveResult.bytes)
    (∃ brickd, brickdHandleReads format uid (brickdCreate format memory) results =
        some (decoded.packets.filter (format.hasUid uid), brickd) ∧
      (brickd.disconnected = true ↔ decoded.rest = none) ∧
      (brickd.disconnected = false → brickd.requestUsed < format.sizeofPacket)) ∧
    (∀ (memory' : Nat → UInt8) (results' : List ReceiveResult),
      (brickdCreate format memory').Received format uid results' →
      results'.flatMap ReceiveResult.bytes = results.flatMap ReceiveResult.bytes →
      (brickdHandleReads format uid (brickdCreate format memory') results').map Prod.fst =
        (brickdHandleReads format uid (brickdCreate format memory) results).map Prod.fst) ∧
    ∀ brickd : BrickDaemon, (requestLoop format uid brickd.passes brickd).isSome := by
  intro decoded
  have hstart (memory : Nat → UInt8) : (brickdCreate format memory).text = [] := rfl
  refine ⟨?_, ?_, fun brickd => requestLoop_ends _ brickd (Nat.le_refl _)⟩
  · obtain ⟨brickd, hrun, hleft⟩ := brickdHandleReads_decode results _ (brickdCreate_idle memory)
      hreceived
    rw [hstart, List.nil_append] at hrun hleft
    refine ⟨brickd, hrun, ?_⟩
    change brickd.Left format decoded.rest at hleft
    cases hrest : decoded.rest with
    | none =>
        rw [hrest] at hleft
        change brickd.disconnected = true at hleft
        simp [hleft]
    | some rest =>
        rw [hrest] at hleft
        obtain ⟨hidle, -⟩ := hleft
        have hlength := hidle.pending.length_lt format.sizeofPacketHeader_le
        simpa [hidle.connected] using hlength
  · intro memory' results' hreceived' hstream
    obtain ⟨_, hrun, -⟩ := brickdHandleReads_decode results _ (brickdCreate_idle memory) hreceived
    obtain ⟨_, hrun', -⟩ := brickdHandleReads_decode results' _ (brickdCreate_idle memory')
      hreceived'
    rw [hrun, hrun', hstart, hstart, hstream]
    rfl

-- The header of daemonlib: UID, length, function ID, sequence number and options.
def packetHeaderOfEightBytes : PacketFormat where
  sizeofPacketHeader := 8
  sizeofPacket := 80
  packetHeaderIsValidRequest header :=
    8 ≤ (header.getD 4 0).toNat && (header.getD 4 0).toNat ≤ 80 && header.getD 5 0 != 0 &&
      header.getD 6 0 >>> 4 != 0
  headerLength header := (header.getD 4 0).toNat
  headerUid header :=
    (header.getD 0 0).toUInt32 + (header.getD 1 0).toUInt32 <<< 8 +
      (header.getD 2 0).toUInt32 <<< 16 + (header.getD 3 0).toUInt32 <<< 24
  sizeofPacketHeader_pos := by decide
  sizeofPacketHeader_le := by decide
  header_le_length := by simp only [Bool.and_eq_true, decide_eq_true_eq]; tauto
  length_le_packet := by simp only [Bool.and_eq_true, decide_eq_true_eq]; tauto

-- Two requests, the second cut inside of its header.
def requestsOfUidFive : List ReceiveResult :=
  [.data [5, 0, 0, 0, 8, 1, 16, 0, 5, 0, 0], .wouldBlock, .data [0, 9, 2, 32, 0, 7]]

theorem requestsOfUidFive_received :
    (brickdCreate packetHeaderOfEightBytes fun _ => 0).Received packetHeaderOfEightBytes 5
      requestsOfUidFive :=
  Or.inr ⟨⟨by decide, by decide⟩, Or.inr ⟨trivial, Or.inr ⟨⟨by decide, by decide⟩, trivial⟩⟩⟩

theorem requestsOfUidFive_framed :
    let format := packetHeaderOfEightBytes
    let decoded := format.framing.decode (requestsOfUidFive.flatMap ReceiveResult.bytes)
    ∃ brickd, brickdHandleReads format 5 (brickdCreate format fun _ => 0) requestsOfUidFive =
        some (decoded.packets.filter (format.hasUid 5), brickd) ∧
      (brickd.disconnected = true ↔ decoded.rest = none) ∧
      (brickd.disconnected = false → brickd.requestUsed < format.sizeofPacket) :=
  (brickd_requests_framed (fun _ => 0) requestsOfUidFive_received).1

end RedApid
