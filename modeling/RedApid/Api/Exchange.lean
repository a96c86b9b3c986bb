import RedApid.Api.Dispatch
import RedApid.Brickd.Framing

namespace RedApid

open ByteStream

-- A packet that answers the request, as its sender can tell by their headers.
structure Packet.Answers (request answer : Packet) : Prop where
  uid : answer.header.uid = request.header.uid
  functionId : answer.header.functionId = request.header.functionId
  sequenceNumber : answer.header.sequenceNumber = request.header.sequenceNumber
  responseExpected : answer.header.responseExpected = true
  sized : answer.Sized

-- No request has the sequence number of a callback.
structure Packet.IsCallback (uid : UInt32) (packet : Packet) : Prop where
  uid : packet.header.uid = uid
  sequenceNumber : packet.header.sequenceNumber = 0
  sized : packet.Sized

-- The function that a request of the right length calls.
def Packet.called (request : Packet) : Option APIFunctionID :=
  (APIFunctionID.dispatched.find? fun id => id.number = request.header.functionId).filter fun id =>
    request.header.length.toNat = APIFunctionID.sizeofPacket id.request

def Packet.members (request : Packet) (id : APIFunctionID) : Members := fun name =>
  Record.member name id.request request.payload

-- A function always answers, anything else only if it is expected to.
def Packet.wantsAnswer (request : Packet) : Bool :=
  request.header.responseExpected || request.called.any fun id => id.IsFunction

section Answers

variable {σ : Type} (uid : UInt32) (bodies : APIBodies σ)

theorem sizeofPacket_toNat {length : Nat} (h : length ≤ 72) : length.toUInt8.toNat = length := by
  rw [Nat.toUInt8, UInt8.toNat_ofNat', Nat.mod_eq_of_lt (by omega)]

theorem APICallback.packet_isCallback (callback : APICallback) :
    (callback.packet uid).IsCallback uid := by
  refine ⟨rfl, rfl, ?_⟩
  change (APIFunctionID.sizeofPacket callback.id.response).toUInt8.toNat = _
  rw [sizeofPacket_toNat callback.id.sizeofPacket_le.2]
  exact congrArg (8 + ·) (Record.pack_length _).symm

theorem apiResponse_answers (id : APIFunctionID) (request : Packet) (code : APIE)
    (members : Members) : request.Answers (apiResponse id request code members) := by
  refine ⟨rfl, rfl, rfl, rfl, ?_⟩
  change (APIFunctionID.sizeofPacket id.response).toUInt8.toNat = _
  rw [sizeofPacket_toNat id.sizeofPacket_le.2]
  exact congrArg (8 + ·) (Record.pack_length _).symm

theorem apiSendResponseIfExpected_answers (request : Packet) (code : PacketE) :
    List.Forall₂ Packet.Answers (if request.header.responseExpected then [request] else [])
      (apiSendResponseIfExpected request code) := by
  unfold apiSendResponseIfExpected
  cases request.header.responseExpected with
  | false => exact .nil
  | true => exact .cons ⟨rfl, rfl, rfl, rfl, rfl⟩ .nil

-- Callbacks, then the answer if there is one.
structure Sent (request : Packet) (packets : List Packet) : Prop where
  split : ∃ callbacks answers, packets = callbacks ++ answers ∧
    (∀ packet ∈ callbacks, packet.IsCallback uid) ∧
    List.Forall₂ Packet.Answers (if request.wantsAnswer then [request] else []) answers

variable {uid}

theorem Sent.of_callbacks {request : Packet} {answers : List Packet} (callbacks : List APICallback)
    (h : List.Forall₂ Packet.Answers (if request.wantsAnswer then [request] else []) answers) :
    Sent uid request (callbacks.map (APICallback.packet uid) ++ answers) := by
  refine ⟨_, answers, rfl, fun packet hpacket => ?_, h⟩
  obtain ⟨callback, -, rfl⟩ := List.mem_map.mp hpacket
  exact callback.packet_isCallback uid

variable {bodies}

theorem callFunction_sent {id : APIFunctionID} {request : Packet}
    (hwants : request.wantsAnswer = true) (members : Members) (state : σ) :
    Sent uid request (callFunction uid bodies id request members state).1 := by
  have hanswer : ∀ code response, List.Forall₂ Packet.Answers
      (if request.wantsAnswer then [request] else []) [apiResponse id request code response] := by
    intro code response
    rw [if_pos hwants]
    exact .cons (apiResponse_answers id request code response) .nil
  unfold callFunction
  rcases id.lookup.find members (bodies.store state) with code | ⟨object, session⟩
  · exact .of_callbacks [] (hanswer code .zero)
  · exact .of_callbacks _ (hanswer _ _)

theorem callProcedure_sent {id : APIFunctionID} {request : Packet}
    (hwants : request.wantsAnswer = request.header.responseExpected) (members : Members) (state : σ) :
    Sent uid request (callProcedure uid bodies id request members state).1 := by
  have hanswer : ∀ code, List.Forall₂ Packet.Answers
      (if request.wantsAnswer then [request] else []) (apiSendResponseIfExpected request code) := by
    intro code
    rw [hwants]
    exact apiSendResponseIfExpected_answers request code
  unfold callProcedure
  rcases id.lookup.find members (bodies.store state) with code | ⟨object, session⟩
  · exact .of_callbacks _ (hanswer _)
  · exact .of_callbacks _ (hanswer _)

theorem apiHandleRequest_of_called {request : Packet} {id : APIFunctionID}
    (hcalled : request.called = some id) (state : σ) :
    apiHandleRequest uid bodies request state =
      if id.IsFunction then callFunction uid bodies id request (request.members id) state
      else callProcedure uid bodies id request (request.members id) state := by
  unfold Packet.called at hcalled
  obtain ⟨hfind, hlength⟩ := Option.filter_eq_some_iff.mp hcalled
  unfold apiHandleRequest
  rw [hfind]
  dsimp only
  rw [if_neg (not_not.mpr (of_decide_eq_true hlength))]
  rfl

-- A request for no function, or with the wrong length for it.
theorem apiHandleRequest_of_not_called {request : Packet} (hcalled : request.called = none)
    (state : σ) : ∃ code, apiHandleRequest uid bodies request state =
      (apiSendResponseIfExpected request code, state) := by
  unfold apiHandleRequest
  cases hfind : APIFunctionID.dispatched.find? fun id => id.number = request.header.functionId with
  | none => exact ⟨.functionNotSupported, rfl⟩
  | some id =>
      have hlength : request.header.length.toNat ≠ APIFunctionID.sizeofPacket id.request := by
        unfold Packet.called at hcalled
        rw [hfind, Option.filter_eq_none_iff] at hcalled
        simpa using hcalled id rfl
      dsimp only
      rw [if_pos hlength]
      exact ⟨.invalidParameter, rfl⟩

-- Exactly the requests that want an answer get one.
theorem apiHandleRequest_sent (request : Packet) (state : σ) :
    Sent uid request (apiHandleRequest uid bodies request state).1 := by
  cases hcalled : request.called with
  | none =>
      obtain ⟨code, hhandle⟩ := @apiHandleRequest_of_not_called σ uid bodies request hcalled state
      have hwants : request.wantsAnswer = request.header.responseExpected := by
        rw [Packet.wantsAnswer, hcalled]
        exact Bool.or_false _
      rw [hhandle]
      refine .of_callbacks [] ?_
      rw [hwants]
      exact apiSendResponseIfExpected_answers request code
  | some id =>
      rw [apiHandleRequest_of_called hcalled]
      split_ifs with hfunction
      · refine callFunction_sent ?_ _ state
        rw [Packet.wantsAnswer, hcalled]
        simp [hfunction]
      · refine callProcedure_sent ?_ _ state
        rw [Packet.wantsAnswer, hcalled]
        simp [hfunction]

-- What a function or procedure does.
def APIBodies.effect (bodies : APIBodies σ) (id : APIFunctionID) (members : Members) (state : σ) : σ :=
  match id.lookup.find members (bodies.store state) with
  | .error _ => state
  | .ok (object, session) =>
      if id.IsFunction then (bodies.function id members object session state).2.2
      else (bodies.procedure id members object session state).2.2

theorem apiHandleRequest_effect {request : Packet} {id : APIFunctionID}
    (hcalled : request.called = some id) (state : σ) :
    (apiHandleRequest uid bodies request state).2 = bodies.effect id (request.members id) state := by
  rw [apiHandleRequest_of_called hcalled]
  unfold callFunction callProcedure APIBodies.effect
  split_ifs <;> cases id.lookup.find (request.members id) (bodies.store state) <;> rfl

theorem apiHandleRequest_idle {request : Packet} (hcalled : request.called = none) (state : σ) :
    (apiHandleRequest uid bodies request state).2 = state := by
  obtain ⟨code, hhandle⟩ := @apiHandleRequest_of_not_called σ uid bodies request hcalled state
  rw [hhandle]

end Answers

end RedApid
