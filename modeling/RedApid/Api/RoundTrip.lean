import RedApid.Api.Exchange
import RedApid.Api.Objects

namespace RedApid

open ByteStream

-- What a client asks for: the members that it packs into the request, and the options of its header.
structure Call where
  id : APIFunctionID
  members : Members
  sequenceNumber : BitVec 4
  responseExpected : Bool

namespace Call

variable (uid : UInt32) (call : Call)

def packet : Packet where
  header :=
    { uid
      length := (APIFunctionID.sizeofPacket call.id.request).toUInt8
      functionId := call.id.number
      sequenceNumber := call.sequenceNumber
      responseExpected := call.responseExpected
      errorCode := 0 }
  payload := Record.pack call.id.request call.members

-- A call of something that is no callback, with a sequence number that no callback has.
structure Proper : Prop where
  dispatched : call.id ∈ APIFunctionID.dispatched
  sequenceNumber : call.sequenceNumber ≠ 0

variable {uid call}

theorem packet_length :
    (call.packet uid).header.length.toNat = APIFunctionID.sizeofPacket call.id.request :=
  sizeofPacket_toNat call.id.sizeofPacket_le.1

theorem packet_bytes_length :
    (call.packet uid).bytes.length = APIFunctionID.sizeofPacket call.id.request := by
  rw [Packet.bytes_length]
  exact congrArg (8 + ·) (Record.pack_length _)

theorem packet_read_header :
    PacketHeader.read (call.packet uid).header.bytes = (call.packet uid).header := by
  simpa using @PacketHeader.read_bytes (call.packet uid).header []

theorem packet_header {format : PacketFormat} (hformat : format.Standard) :
    (call.packet uid).bytes.take format.sizeofPacketHeader = (call.packet uid).header.bytes := by
  rw [hformat.sizeofPacketHeader]
  exact List.take_left' (PacketHeader.bytes_length _)

theorem packet_whole {format : PacketFormat} (hformat : format.Standard) (h : call.Proper) :
    format.framing.Whole (call.packet uid).bytes := by
  have hheader : format.framing.header (call.packet uid).bytes = (call.packet uid).header.bytes :=
    packet_header hformat
  have hlength := PacketHeader.bytes_length (call.packet uid).header
  have hle := call.id.sizeofPacket_le.1
  have hge : 8 ≤ APIFunctionID.sizeofPacket call.id.request := Nat.le_add_right 8 _
  refine ⟨?_, ?_, ?_⟩
  · rw [PacketFormat.framing_headerSize, hformat.sizeofPacketHeader, packet_bytes_length]
    exact hge
  · rw [PacketFormat.framing_valid, hheader, hformat.valid_iff _ hlength, packet_read_header,
      packet_length]
    exact ⟨hge, by omega, call.id.number_ne_zero, h.sequenceNumber⟩
  · rw [PacketFormat.framing_length, hheader, hformat.headerLength _ hlength, packet_read_header,
      packet_length, packet_bytes_length]

theorem packet_hasUid {format : PacketFormat} (hformat : format.Standard) :
    format.hasUid uid (call.packet uid).bytes = true := by
  rw [PacketFormat.hasUid, packet_header hformat,
    hformat.headerUid _ (PacketHeader.bytes_length _), packet_read_header]
  exact beq_self_eq_true uid

theorem packet_called (h : call.Proper) : (call.packet uid).called = some call.id := by
  have hfind : (APIFunctionID.dispatched.find? fun id =>
      id.number = (call.packet uid).header.functionId) = some call.id := by
    cases hfind : APIFunctionID.dispatched.find? fun id =>
        id.number = (call.packet uid).header.functionId with
    | none => exact absurd (List.find?_eq_none.mp hfind call.id h.dispatched) (by simp [packet])
    | some id =>
        have hnumber : id.number = (call.packet uid).header.functionId := by
          simpa using List.find?_some hfind
        change id.number = call.id.number at hnumber
        rw [List.inj_on_of_nodup_map APIFunctionID.dispatched_nodup
          (List.mem_of_find?_eq_some hfind) h.dispatched hnumber]
  unfold Packet.called
  rw [hfind]
  exact Option.filter_eq_some_iff.mpr ⟨rfl, decide_eq_true packet_length⟩

-- The members of the request as the body gets them.
def received (call : Call) : Members := fun name =>
  Record.member name call.id.request (Record.pack call.id.request call.members)

theorem received_eq {field : Member MemberName} (hfield : field ∈ call.id.request) :
    call.received field.name = fit field.size (call.members field.name) :=
  Record.member_pack call.id.request_nodup hfield call.members

variable {σ : Type} {bodies : APIBodies σ} {state : σ}

theorem apiHandleRequest_packet (h : call.Proper) :
    apiHandleRequest uid bodies (call.packet uid) state =
      if call.id.IsFunction then
        callFunction uid bodies call.id (call.packet uid) call.received state
      else callProcedure uid bodies call.id (call.packet uid) call.received state :=
  apiHandleRequest_of_called (packet_called h) state

end Call

-- What a function returns, with its callbacks and the new state.
def APIBodies.result {σ : Type} (bodies : APIBodies σ) (id : APIFunctionID) (members : Members)
    (state : σ) : (APIE × Members) × List APICallback × σ :=
  match id.lookup.find members (bodies.store state) with
  | .error code => ((code, .zero), [], state)
  | .ok (object, session) => bodies.function id members object session state

theorem callFunction_eq {σ : Type} (uid : UInt32) (bodies : APIBodies σ) (id : APIFunctionID)
    (request : Packet) (members : Members) (state : σ) :
    callFunction uid bodies id request members state =
      ((bodies.result id members state).2.1.map (APICallback.packet uid) ++
        [apiResponse id request (bodies.result id members state).1.1
          (bodies.result id members state).1.2],
        (bodies.result id members state).2.2) := by
  unfold callFunction APIBodies.result
  cases id.lookup.find members (bodies.store state) <;> rfl

-- What a procedure returns. If the lookup fails, its error handler makes the callbacks.
def APIBodies.outcome {σ : Type} (bodies : APIBodies σ) (id : APIFunctionID) (members : Members)
    (state : σ) : PacketE × List APICallback × σ :=
  match id.lookup.find members (bodies.store state) with
  | .error code => (apiGetPacketErrorCode code, id.errorHandler members code, state)
  | .ok (object, session) => bodies.procedure id members object session state

theorem callProcedure_eq {σ : Type} (uid : UInt32) (bodies : APIBodies σ) (id : APIFunctionID)
    (request : Packet) (members : Members) (state : σ) :
    callProcedure uid bodies id request members state =
      ((bodies.outcome id members state).2.1.map (APICallback.packet uid) ++
        apiSendResponseIfExpected request (bodies.outcome id members state).1,
        (bodies.outcome id members state).2.2) := by
  unfold callProcedure APIBodies.outcome
  cases id.lookup.find members (bodies.store state) <;> rfl

theorem apiSendResponseIfExpected_code {request answer : Packet} {code : PacketE}
    (h : answer ∈ apiSendResponseIfExpected request code) :
    answer.header.errorCode = code.number ∧ answer.payload = [] := by
  unfold apiSendResponseIfExpected at h
  split_ifs at h
  · cases h
  · rw [List.mem_singleton.mp h]
    exact ⟨rfl, rfl⟩

theorem APIFunctionID.errorCode_size (id : APIFunctionID) :
    ∀ field ∈ id.response, field.name = .errorCode → field.size = uint8_t := by
  cases id <;> decide

theorem member_apiResponse {id : APIFunctionID} (request : Packet) (code : APIE) (members : Members)
    {field : Member MemberName} (hfield : field ∈ id.response) :
    Record.member field.name id.response (apiResponse id request code members).payload =
      if field.name = .errorCode then [code.number] else fit field.size (members field.name) := by
  refine (Record.member_pack id.response_nodup hfield _).trans ?_
  unfold Members.set
  split_ifs with hcode
  · rw [hcode, Function.update_self, id.errorCode_size field hfield hcode]
    rfl
  · rw [Function.update_of_ne hcode]

-- What becomes of a call. The body behind it gets the members that the client packed. From the
-- answer of a function the client reads the code and the members that the body returned, none of
-- them with another code. A procedure answers if it is expected to, with the code that its body
-- returned.
structure Call.RoundTrip {σ : Type} (uid : UInt32) (bodies : APIBodies σ) (call : Call) (state : σ) :
    Prop where
  received : ∀ field ∈ call.id.request,
    call.received field.name = fit field.size (call.members field.name)
  function : call.id.IsFunction → ∃ code response callbacks after answer,
    bodies.result call.id call.received state = ((code, response), callbacks, after) ∧
    apiHandleRequest uid bodies (call.packet uid) state =
      (callbacks.map (APICallback.packet uid) ++ [answer], after) ∧
    (call.packet uid).Answers answer ∧
    ∀ field ∈ call.id.response, Record.member field.name call.id.response answer.payload =
      if field.name = .errorCode then [code.number] else fit field.size (response field.name)
  procedure : ¬call.id.IsFunction → ∃ code callbacks after answers,
    bodies.outcome call.id call.received state = (code, callbacks, after) ∧
    apiHandleRequest uid bodies (call.packet uid) state =
      (callbacks.map (APICallback.packet uid) ++ answers, after) ∧
    List.Forall₂ Packet.Answers (if call.responseExpected then [call.packet uid] else []) answers ∧
    ∀ answer ∈ answers, answer.header.errorCode = code.number ∧ answer.payload = []

theorem Call.Proper.roundTrip {call : Call} (h : call.Proper) {σ : Type} (uid : UInt32)
    (bodies : APIBodies σ) (state : σ) : call.RoundTrip uid bodies state where
  received _ := Call.received_eq
  function hfunction := by
    obtain ⟨code, response, callbacks, after, hresult⟩ : ∃ code response callbacks after,
        bodies.result call.id call.received state = ((code, response), callbacks, after) :=
      ⟨_, _, _, _, rfl⟩
    refine ⟨code, response, callbacks, after, apiResponse call.id (call.packet uid) code response,
      hresult, ?_, apiResponse_answers call.id (call.packet uid) code response,
      fun field hfield => member_apiResponse (call.packet uid) code response hfield⟩
    rw [Call.apiHandleRequest_packet h, if_pos hfunction, callFunction_eq, hresult]
  procedure hprocedure := by
    obtain ⟨code, callbacks, after, houtcome⟩ : ∃ code callbacks after,
        bodies.outcome call.id call.received state = (code, callbacks, after) := ⟨_, _, _, rfl⟩
    refine ⟨code, callbacks, after, apiSendResponseIfExpected (call.packet uid) code, houtcome, ?_,
      apiSendResponseIfExpected_answers (call.packet uid) code,
      fun answer hanswer => apiSendResponseIfExpected_code hanswer⟩
    rw [Call.apiHandleRequest_packet h, if_neg hprocedure, callProcedure_eq, houtcome]

-- A stream of calls is taken apart into just these calls.
theorem calls_round_trip {format : PacketFormat} (hformat : format.Standard) {σ : Type}
    (uid : UInt32) (bodies : APIBodies σ) {calls : List Call} (hcalls : ∀ call ∈ calls, call.Proper) :
    (let decoded := format.framing.decode (calls.flatMap fun call => (call.packet uid).bytes);
      (decoded.packets.filter (format.hasUid uid)).map .read = calls.map (Call.packet uid) ∧
        decoded.rest = some []) ∧
    ∀ call ∈ calls, ∀ state, call.RoundTrip uid bodies state := by
  refine ⟨?_, fun call hcall => (hcalls call hcall).roundTrip uid bodies⟩
  have hwhole : ∀ packet ∈ calls.map fun call => (call.packet uid).bytes,
      format.framing.Whole packet := by
    intro packet hpacket
    obtain ⟨call, hcall, rfl⟩ := List.mem_map.mp hpacket
    exact Call.packet_whole hformat (hcalls call hcall)
  have hpending : format.framing.Pending [] := Or.inl format.framing.headerSize_pos
  have hdecode := Framing.decode_flatten hwhole hpending
  rw [List.append_nil, ← List.flatMap_def] at hdecode
  have hown : (calls.map fun call => (call.packet uid).bytes).filter (format.hasUid uid) =
      calls.map fun call => (call.packet uid).bytes := by
    refine List.filter_eq_self.mpr fun packet hpacket => ?_
    obtain ⟨call, -, rfl⟩ := List.mem_map.mp hpacket
    exact Call.packet_hasUid hformat
  simp only [hdecode, hown, List.map_map]
  exact ⟨List.map_congr_left fun call _ => (call.packet uid).read_bytes, trivial⟩

-- A session is created, and expired without an answer.
def sessionCalls : List Call :=
  [⟨.createSession, Members.zero.set .lifetime [10], 1, true⟩,
    ⟨.expireSessionUnchecked, Members.zero.set .sessionId [1], 2, false⟩]

def succeeding : Outcomes where
  session := ⟨true, none, none, none⟩
  timerConfigure := none
  memory := some fun _ => 0
  stringCalloc := true
  objectCreate := ⟨true, none⟩
  list := ⟨true, none, ⟨true, none⟩⟩
  referenceCalloc := true
  append := none

theorem sessionCalls_round_trip :
    (let decoded := PacketHeader.format.framing.decode
        (sessionCalls.flatMap fun call => (call.packet 7).bytes);
      (decoded.packets.filter (PacketHeader.format.hasUid 7)).map .read =
          sessionCalls.map (Call.packet 7) ∧
        decoded.rest = some []) ∧
    ∀ call ∈ sessionCalls, ∀ state,
      call.RoundTrip 7 (objectBodies .byIndex growTo16 succeeding) state :=
  calls_round_trip PacketHeader.format_standard 7 (objectBodies .byIndex growTo16 succeeding)
    fun call hcall => by
      rcases List.mem_cons.mp hcall with rfl | hcall
      · exact ⟨by decide, by decide⟩
      · rw [List.mem_singleton.mp hcall]
        exact ⟨by decide, by decide⟩

end RedApid
