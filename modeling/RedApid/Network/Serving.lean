import RedApid.Api.RoundTrip
import RedApid.Network.Basic
import RedApid.Trace

namespace RedApid

open ByteStream

-- What the requests do, one after the other.
def Daemon.act {σ : Type} (daemon : Daemon σ) (state : σ) (requests : List Packet) : σ :=
  requests.foldl (fun state request => (apiHandleRequest daemon.uid daemon.bodies request state).2) state

theorem Daemon.act_append {σ : Type} (daemon : Daemon σ) (state : σ) (requests more : List Packet) :
    daemon.act state (requests ++ more) = daemon.act (daemon.act state requests) more :=
  List.foldl_append

namespace BrickdPeer

variable {σ : Type} (daemon : Daemon σ) (peer : BrickdPeer)

-- The requests in what was received so far.
def requests : List Packet :=
  ((daemon.format.framing.decode peer.stream).packets.filter
    (daemon.format.hasUid daemon.uid)).map .read

def answers : List Packet :=
  peer.written.filter fun packet => packet.header.sequenceNumber ≠ 0

-- The writer has disconnected the Brick Daemon because of one of the packets.
def WriteFails : Prop := ∃ i < peer.written.length, daemon.disconnects peer.socket i = true

-- The requests that want an answer got it in their order. The last ones have none if a write
-- disconnected the Brick Daemon.
structure Serves (requests : List Packet) : Prop where
  answered : ∃ served, served <+: requests.filter Packet.wantsAnswer ∧
    List.Forall₂ Packet.Answers served peer.answers ∧
    (peer.failed = false → served = requests.filter Packet.wantsAnswer)
  callbacks : ∀ packet ∈ peer.written, packet.header.sequenceNumber = 0 →
    packet.IsCallback daemon.uid
  failure : peer.failed = true ↔ peer.WriteFails daemon

-- Between two events.
structure Served : Prop where
  serves : peer.Serves daemon (peer.requests daemon)
  waiting : peer.brickd.disconnected = false →
    peer.failed = false ∧ peer.brickd.Idle daemon.format ∧
      (daemon.format.framing.decode peer.stream).rest = some peer.brickd.text

-- Packets that were handed to the writer, the first ones of a list.
structure Dispatched (next : BrickdPeer) (packets : List Packet) : Prop where
  socket : next.socket = peer.socket
  stream : next.stream = peer.stream
  request : next.brickd.request = peer.brickd.request
  requestUsed : next.brickd.requestUsed = peer.brickd.requestUsed
  requestHeaderChecked : next.brickd.requestHeaderChecked = peer.brickd.requestHeaderChecked
  failed : next.failed = next.brickd.disconnected
  written : ∃ sent, sent <+: packets ∧ next.written = peer.written ++ sent ∧
    (next.failed = false → sent = packets)
  failure : (peer.failed = true ↔ peer.WriteFails daemon) →
    (next.failed = true ↔ next.WriteFails daemon)

-- The requests of a list that were handled, all of them unless the writer disconnects.
structure Handled (next : BrickdPeer) (state state' : σ) (requests : List Packet) : Prop where
  acted : ∃ handled, handled <+: requests ∧ (next.failed = false → handled = requests) ∧
    state' = daemon.act state handled

variable {daemon peer}

variable (daemon) in
theorem dispatchResponse_dispatched (hfailed : peer.failed = peer.brickd.disconnected)
    (response : Packet) : peer.Dispatched daemon (peer.dispatchResponse daemon response) [response] := by
  unfold dispatchResponse
  split_ifs with hdown
  · refine ⟨rfl, rfl, rfl, rfl, rfl, hfailed,
      ⟨[], List.nil_prefix, (List.append_nil _).symm, fun h => ?_⟩, id⟩
    rw [hfailed, hdown] at h
    cases h
  · refine ⟨rfl, rfl, rfl, rfl, rfl, rfl, ⟨[response], List.prefix_rfl, rfl, fun _ => rfl⟩,
      fun hbefore => ⟨fun hfails => ⟨peer.written.length, ?_, hfails⟩, fun hfails => ?_⟩⟩
    · rw [List.length_append]
      exact Nat.lt_succ_self _
    · obtain ⟨i, hi, hfails⟩ := hfails
      rw [List.length_append, List.length_singleton] at hi
      rcases Nat.lt_succ_iff_lt_or_eq.mp hi with hearlier | rfl
      · exact absurd (hfailed.symm.trans (hbefore.mpr ⟨i, hearlier, hfails⟩)) hdown
      · exact hfails

theorem dispatchResponse_of_disconnected (hdown : peer.brickd.disconnected = true)
    (response : Packet) : peer.dispatchResponse daemon response = peer := if_pos hdown

theorem dispatchAll_of_disconnected (hdown : peer.brickd.disconnected = true)
    (responses : List Packet) : peer.dispatchAll daemon responses = peer := by
  induction responses with
  | nil => rfl
  | cons response responses ih =>
      rw [dispatchAll, List.foldl_cons, dispatchResponse_of_disconnected hdown]
      exact ih

variable (daemon) in
theorem dispatchAll_dispatched (hfailed : peer.failed = peer.brickd.disconnected)
    (responses : List Packet) :
    peer.Dispatched daemon (peer.dispatchAll daemon responses) responses := by
  induction responses generalizing peer with
  | nil =>
      exact ⟨rfl, rfl, rfl, rfl, rfl, hfailed,
        ⟨[], List.prefix_rfl, (List.append_nil _).symm, fun _ => rfl⟩, id⟩
  | cons response responses ih =>
      have hfirst := dispatchResponse_dispatched daemon hfailed response
      obtain ⟨sent, hsent, hwritten, hall⟩ := hfirst.written
      cases hdown : (peer.dispatchResponse daemon response).brickd.disconnected with
      | true =>
          have hsame : peer.dispatchAll daemon (response :: responses) =
              peer.dispatchResponse daemon response := dispatchAll_of_disconnected hdown responses
          rw [hsame]
          refine ⟨hfirst.socket, hfirst.stream, hfirst.request, hfirst.requestUsed,
            hfirst.requestHeaderChecked, hfirst.failed, ⟨sent,
              hsent.trans (List.prefix_append [response] responses), hwritten, fun h => ?_⟩,
            hfirst.failure⟩
          rw [hfirst.failed, hdown] at h
          cases h
      | false =>
          have hnext := ih hfirst.failed
          obtain ⟨more, hmore, hwritten', hall'⟩ := hnext.written
          rw [hall (hfirst.failed.trans hdown)] at hwritten
          refine ⟨hnext.socket.trans hfirst.socket, hnext.stream.trans hfirst.stream,
            hnext.request.trans hfirst.request, hnext.requestUsed.trans hfirst.requestUsed,
            hnext.requestHeaderChecked.trans hfirst.requestHeaderChecked, hnext.failed,
            ⟨response :: more, List.cons_prefix_cons.mpr ⟨rfl, hmore⟩, ?_, fun h => ?_⟩,
            fun hpeer => hnext.failure (hfirst.failure hpeer)⟩
          · exact hwritten'.trans (by rw [hwritten, List.append_assoc, List.singleton_append])
          · rw [hall' h]

theorem Dispatched.answers {next : BrickdPeer} {packets : List Packet}
    (h : peer.Dispatched daemon next packets) :
    ∃ sent, sent <+: packets.filter (fun packet => packet.header.sequenceNumber ≠ 0) ∧
      next.answers = peer.answers ++ sent ∧
      (next.failed = false →
        sent = packets.filter fun packet => packet.header.sequenceNumber ≠ 0) := by
  obtain ⟨sent, hsent, hwritten, hall⟩ := h.written
  refine ⟨_, hsent.filter _, ?_, fun hup => by rw [hall hup]⟩
  rw [BrickdPeer.answers, hwritten, List.filter_append]
  rfl

theorem Serves.of_failed {taken : List Packet} (h : peer.Serves daemon taken)
    (hfailed : peer.failed = true) (more : List Packet) : peer.Serves daemon (taken ++ more) := by
  obtain ⟨served, hserved, hanswered, -⟩ := h.answered
  refine ⟨⟨served, ?_, hanswered, fun hup => ?_⟩, h.callbacks, h.failure⟩
  · rw [List.filter_append]
    exact hserved.trans (List.prefix_append _ _)
  · rw [hfailed] at hup
    cases hup

theorem Serves.callbacks_of_dispatched {taken packets : List Packet} {next : BrickdPeer}
    (h : peer.Serves daemon taken) (hnext : peer.Dispatched daemon next packets)
    (hpackets : ∀ packet ∈ packets, packet.header.sequenceNumber = 0 →
      packet.IsCallback daemon.uid) :
    ∀ packet ∈ next.written, packet.header.sequenceNumber = 0 → packet.IsCallback daemon.uid := by
  obtain ⟨sent, hsent, hwritten, -⟩ := hnext.written
  intro packet hpacket hzero
  rw [hwritten, List.mem_append] at hpacket
  rcases hpacket with hold | hnew
  · exact h.callbacks packet hold hzero
  · exact hpackets packet (hsent.subset hnew) hzero

-- Callbacks answer nothing.
theorem Serves.dispatchAll {taken : List Packet} (h : peer.Serves daemon taken)
    (hfailed : peer.failed = peer.brickd.disconnected) {packets : List Packet}
    (hpackets : ∀ packet ∈ packets, packet.IsCallback daemon.uid) :
    (peer.dispatchAll daemon packets).Serves daemon taken := by
  have hnext := dispatchAll_dispatched daemon hfailed packets
  obtain ⟨sent, hsent, hanswers, -⟩ := hnext.answers
  have hnone : packets.filter (fun packet => packet.header.sequenceNumber ≠ 0) = [] := by
    rw [List.filter_eq_nil_iff]
    intro packet hpacket
    simp [(hpackets packet hpacket).sequenceNumber]
  rw [hnone, List.prefix_nil] at hsent
  obtain ⟨served, hserved, hanswered, hall⟩ := h.answered
  refine ⟨⟨served, hserved, ?_, fun hup => ?_⟩,
    h.callbacks_of_dispatched hnext fun packet hpacket _ => hpackets packet hpacket,
    hnext.failure h.failure⟩
  · rw [hanswers, hsent, List.append_nil]
    exact hanswered
  · cases hbefore : peer.failed with
    | false => exact hall hbefore
    | true =>
        rw [dispatchAll_of_disconnected (hfailed.symm.trans hbefore), hbefore] at hup
        cases hup

-- The answers of a request come with its sequence number, which is not that of a callback.
theorem sent_filter {request : Packet} (hrequest : request.header.sequenceNumber ≠ 0)
    {packets : List Packet} (h : Sent daemon.uid request packets) :
    List.Forall₂ Packet.Answers (if request.wantsAnswer then [request] else [])
        (packets.filter fun packet => packet.header.sequenceNumber ≠ 0) ∧
      ∀ packet ∈ packets, packet.header.sequenceNumber = 0 → packet.IsCallback daemon.uid := by
  obtain ⟨callbacks, answers, rfl, hcallbacks, hanswers⟩ := h.split
  have hnonzero : ∀ answer ∈ answers, answer.header.sequenceNumber ≠ 0 := by
    intro answer hanswer
    cases hwants : request.wantsAnswer with
    | false =>
        rw [hwants, if_neg (by simp)] at hanswers
        cases hanswers
        cases hanswer
    | true =>
        rw [hwants, if_pos rfl] at hanswers
        obtain ⟨first, hfirst, rfl⟩ : ∃ first, request.Answers first ∧ answers = [first] := by
          cases hanswers with
          | cons hfirst hrest =>
              cases hrest
              exact ⟨_, hfirst, rfl⟩
        rw [List.mem_singleton.mp hanswer, hfirst.sequenceNumber]
        exact hrequest
  constructor
  · have hnone : callbacks.filter (fun packet => packet.header.sequenceNumber ≠ 0) = [] := by
      rw [List.filter_eq_nil_iff]
      intro packet hpacket
      simp [(hcallbacks packet hpacket).sequenceNumber]
    have hsame : answers.filter (fun packet => packet.header.sequenceNumber ≠ 0) = answers :=
      List.filter_eq_self.mpr fun answer hanswer => by simpa using hnonzero answer hanswer
    rw [List.filter_append, hnone, List.nil_append, hsame]
    exact hanswers
  · intro packet hpacket hzero
    rcases List.mem_append.mp hpacket with hcallback | hanswer
    · exact hcallbacks packet hcallback
    · exact absurd hzero (hnonzero packet hanswer)

theorem Serves.dispatchAll_sent {taken : List Packet} (h : peer.Serves daemon taken)
    (hfailed : peer.failed = peer.brickd.disconnected) {request : Packet}
    (hrequest : request.header.sequenceNumber ≠ 0) {packets : List Packet}
    (hsent : Sent daemon.uid request packets) :
    (peer.dispatchAll daemon packets).Serves daemon (taken ++ [request]) := by
  obtain ⟨hanswer, hcallbacks⟩ := sent_filter hrequest hsent
  have hnext := dispatchAll_dispatched daemon hfailed packets
  have hwanted : (taken ++ [request]).filter Packet.wantsAnswer =
      taken.filter Packet.wantsAnswer ++ if request.wantsAnswer then [request] else [] := by
    rw [List.filter_append, List.filter_cons, List.filter_nil]
  cases hbefore : peer.failed with
  | true =>
      rw [dispatchAll_of_disconnected (hfailed.symm.trans hbefore)]
      exact h.of_failed hbefore [request]
  | false =>
      obtain ⟨served, -, hanswered, hall⟩ := h.answered
      obtain ⟨new, hnew, hanswers, hcomplete⟩ := hnext.answers
      refine ⟨⟨served ++ (if request.wantsAnswer then [request] else []).take new.length, ?_, ?_,
        fun hup => ?_⟩, h.callbacks_of_dispatched hnext hcallbacks, hnext.failure h.failure⟩
      · rw [hwanted, hall hbefore]
        exact (List.prefix_append_right_inj _).mpr (List.take_prefix _ _)
      · rw [hanswers, List.prefix_iff_eq_take.mp hnew, List.length_take,
          Nat.min_eq_left hnew.length_le]
        exact List.rel_append hanswered (List.forall₂_take _ hanswer)
      · rw [hwanted, hall hbefore, hcomplete hup, ← hanswer.length_eq, List.take_length]

-- A valid header has the sequence number of a request.
theorem read_sequenceNumber {format : PacketFormat} (hformat : format.Standard)
    {stream : List UInt8} (hheader : format.sizeofPacketHeader ≤ stream.length)
    (hvalid : format.packetHeaderIsValidRequest (format.framing.header stream)) {size : Nat}
    (hsize : 8 ≤ size) : (Packet.read (stream.take size)).header.sequenceNumber ≠ 0 := by
  have hlength : (format.framing.header stream).length = 8 := by
    change (stream.take format.sizeofPacketHeader).length = 8
    rw [List.length_take, Nat.min_eq_left hheader, hformat.sizeofPacketHeader]
  have hread : PacketHeader.read (format.framing.header stream) =
      (Packet.read (stream.take size)).header := by
    change PacketHeader.read (stream.take format.sizeofPacketHeader) = _
    rw [hformat.sizeofPacketHeader, PacketHeader.read_take (Nat.le_refl 8)]
    exact (PacketHeader.read_take hsize stream).symm
  rw [← hread]
  exact ((hformat.valid_iff _ hlength).mp hvalid).2.2.2

-- One packet off the buffer, which is handled if it carries the own UID.
theorem Serves.handleRequests {taken : List Packet} (h : peer.Serves daemon taken)
    (hfailed : peer.failed = peer.brickd.disconnected) {bytes : List UInt8}
    (hrequest : (Packet.read bytes).header.sequenceNumber ≠ 0) (state : σ) :
    let own := [bytes].filter (daemon.format.hasUid daemon.uid)
    ∃ next packets, own.foldl (handleRequest daemon) (peer, state) =
        (next, daemon.act state (own.map .read)) ∧
      peer.Dispatched daemon next packets ∧ next.Serves daemon (taken ++ own.map .read) := by
  intro own
  cases hown : daemon.format.hasUid daemon.uid bytes with
  | false =>
      have hnone : own = [] := by simp [own, hown]
      rw [hnone]
      refine ⟨peer, [], rfl, dispatchAll_dispatched daemon hfailed [], ?_⟩
      rw [List.map_nil, List.append_nil]
      exact h
  | true =>
      have hsome : own = [bytes] := by simp [own, hown]
      rw [hsome]
      exact ⟨_, _, rfl, dispatchAll_dispatched daemon hfailed _,
        h.dispatchAll_sent hfailed hrequest (apiHandleRequest_sent _ state)⟩

theorem Handled.append {next : BrickdPeer} {state state' : σ} {requests more : List Packet}
    (h : Handled daemon next (daemon.act state requests) state' more) :
    Handled daemon next state state' (requests ++ more) := by
  obtain ⟨handled, hhandled, hall, hacted⟩ := h.acted
  refine ⟨requests ++ handled, (List.prefix_append_right_inj _).mpr hhandled,
    fun hup => by rw [hall hup], ?_⟩
  rw [hacted, daemon.act_append]

theorem requestLoop_serves (hformat : daemon.format.Standard) (fuel : Nat) (peer : BrickdPeer)
    (state : σ) {taken : List Packet} (hfuel : peer.brickd.passes ≤ fuel)
    (hfailed : peer.failed = peer.brickd.disconnected)
    (hchecked : peer.brickd.Checked daemon.format) (h : peer.Serves daemon taken) :
    let decoded := daemon.format.framing.decode peer.brickd.text
    let own := (decoded.packets.filter (daemon.format.hasUid daemon.uid)).map .read
    ∃ next state', requestLoop daemon fuel (peer, state) = some (next, state') ∧
      next.socket = peer.socket ∧ next.stream = peer.stream ∧ next.Serves daemon (taken ++ own) ∧
      Handled daemon next state state' own ∧
      (next.brickd.disconnected = false →
        next.failed = false ∧ next.brickd.Idle daemon.format ∧
          decoded.rest = some next.brickd.text) := by
  induction fuel generalizing peer state taken with
  | zero =>
      unfold BrickDaemon.passes at hfuel
      split at hfuel <;> omega
  | succ fuel ih =>
      intro decoded own
      cases hdown : peer.brickd.disconnected with
      | true =>
          have hpass : requestPass daemon.format daemon.uid peer.brickd = .leave peer.brickd := by
            rw [requestPass, if_pos (Or.inl hdown)]
          refine ⟨peer, state, ?_, rfl, rfl, h.of_failed (hfailed.trans hdown) _,
            ⟨[], List.nil_prefix, fun hup => ?_, rfl⟩, fun hup => ?_⟩
          · simp only [requestLoop, hpass]
          · rw [hfailed, hdown] at hup
            cases hup
          · rw [hdown] at hup
            cases hup
      | false =>
          cases hpass : requestPass daemon.format daemon.uid peer.brickd with
          | leave brickd =>
              obtain ⟨htext, -, hend⟩ := requestPass_leave hdown hchecked hpass
              have hnone : decoded.packets = [] ∧
                  (brickd.disconnected = false →
                    brickd.Idle daemon.format ∧ decoded.rest = some brickd.text) := by
                rcases hend with hidle | ⟨hclosed, hheader, hinvalid⟩
                · have hpending := hidle.pending
                  rw [htext] at hpending
                  simp only [decoded, Framing.decode_pending hpending, htext]
                  exact ⟨trivial, fun _ => ⟨hidle, trivial⟩⟩
                · simp only [decoded, Framing.decode_invalid daemon.format.framing
                    (by simpa using hheader) hinvalid, hclosed]
                  exact ⟨trivial, fun hup => by cases hup⟩
              have hown : own = [] := by simp only [own, hnone.1, List.filter_nil, List.map_nil]
              refine ⟨{ peer with brickd }, state, by simp only [requestLoop, hpass], rfl, rfl, ?_,
                ⟨[], List.nil_prefix, fun _ => hown.symm, rfl⟩,
                fun hup => ⟨hfailed.trans hdown, hnone.2 hup⟩⟩
              rw [hown, List.append_nil]
              exact ⟨h.answered, h.callbacks, h.failure⟩
          | again handled brickd =>
              obtain ⟨hheader, hvalid, hlength, rfl, htext, hup, hunchecked, -⟩ :=
                requestPass_again hdown hchecked hpass
              have hpasses := requestPass_passes hpass
              have hsize := daemon.format.header_le_length _ hvalid
              rw [hformat.sizeofPacketHeader] at hsize
              have hrequest := read_sequenceNumber hformat (by simpa using hheader) hvalid hsize
              have hbefore : Serves daemon { peer with brickd } taken := ⟨h.answered, h.callbacks, h.failure⟩
              obtain ⟨next, packets, hhandled, hnext, hserves⟩ :=
                hbefore.handleRequests ((hfailed.trans hdown).trans hup.symm) hrequest state
              have hrest : next.brickd.text = brickd.text := by
                rw [BrickDaemon.text, hnext.requestUsed, hnext.request]
                rfl
              have hunchecked' : next.brickd.requestHeaderChecked = false :=
                hnext.requestHeaderChecked.trans hunchecked
              have hfewer : next.brickd.passes ≤ fuel := by
                rw [BrickDaemon.passes, hnext.requestUsed, hnext.requestHeaderChecked]
                exact Nat.le_of_lt_succ (Nat.lt_of_lt_of_le hpasses hfuel)
              obtain ⟨last, state', hlast, hsocket, hstream, hserves', hhandled', hend⟩ :=
                ih next _ hfewer hnext.failed (by simp [BrickDaemon.Checked, hunchecked']) hserves
              have hdecode : decoded = _ := Framing.decode_packet daemon.format.framing
                (by simpa using hheader) hvalid (by simpa using hlength)
              rw [hrest, htext] at hserves' hhandled' hend
              have hown : own = ([peer.brickd.text.take (daemon.format.headerLength
                  (daemon.format.framing.header peer.brickd.text))].filter
                    (daemon.format.hasUid daemon.uid)).map .read ++
                  ((daemon.format.framing.decode (peer.brickd.text.drop (daemon.format.headerLength
                    (daemon.format.framing.header peer.brickd.text)))).packets.filter
                      (daemon.format.hasUid daemon.uid)).map .read := by
                simp only [own, hdecode]
                rw [← List.map_append, ← List.filter_append, List.singleton_append]
                rfl
              refine ⟨last, state', ?_, hsocket.trans hnext.socket, hstream.trans hnext.stream, ?_,
                ?_, ?_⟩
              · simp only [requestLoop, hpass]
                exact (congrArg (requestLoop daemon fuel) hhandled).trans hlast
              · rw [hown, ← List.append_assoc]
                exact hserves'
              · rw [hown]
                exact hhandled'.append
              · rw [hdecode]
                exact hend

theorem handleRead_served (hformat : daemon.format.Standard) (h : peer.Served daemon)
    (hup : peer.brickd.disconnected = false) (received : ReceiveResult) (state : σ) :
    ∃ next state' more, peer.handleRead daemon received state = some (next, state') ∧
      (next.socket = peer.socket ∧ next.stream = peer.stream ++ received.bytes) ∧
      next.Served daemon ∧
      next.requests daemon = peer.requests daemon ++ more ∧ Handled daemon next state state' more := by
  have hclosed : BrickdPeer.Served daemon
      { peer with brickd := { peer.brickd with disconnected := true } } :=
    ⟨⟨h.serves.answered, h.serves.callbacks, h.serves.failure⟩, fun hup => by cases hup⟩
  have hnothing : ∀ next : BrickdPeer, next.requests daemon = peer.requests daemon →
      next.requests daemon = peer.requests daemon ++ [] ∧ Handled daemon next state state [] :=
    fun next hsame =>
      ⟨hsame.trans (List.append_nil _).symm, [], List.prefix_rfl, fun _ => rfl, rfl⟩
  cases received with
  | closedByPeer | failed =>
      exact ⟨_, _, [], rfl, ⟨rfl, (List.append_nil _).symm⟩, hclosed, hnothing _ rfl⟩
  | ioContinue | interrupted | wouldBlock =>
      exact ⟨_, _, [], rfl, ⟨rfl, (List.append_nil _).symm⟩, h, hnothing _ rfl⟩
  | data bytes =>
      obtain ⟨hwritten, hidle, hrest⟩ := h.waiting hup
      let brickd : BrickDaemon :=
        { peer.brickd with
          request := peer.brickd.request.writeAll peer.brickd.requestUsed bytes
          requestUsed := peer.brickd.requestUsed + bytes.length }
      have htext : brickd.text = peer.brickd.text ++ bytes :=
        peer.brickd.request.writeAll_text peer.brickd.requestUsed bytes
      have hchecked : brickd.Checked daemon.format := by
        intro hc
        obtain ⟨hheader, hvalid⟩ := hidle.checked hc
        refine ⟨by simp only [brickd]; omega, ?_⟩
        rw [htext, Framing.header_append _ (by simpa using hheader)]
        exact hvalid
      obtain ⟨next, state', hloop, hsocket, hstream, hserves, hhandled, hend⟩ :=
        requestLoop_serves hformat brickd.passes
          { peer with brickd, stream := peer.stream ++ bytes } state (Nat.le_refl _)
          (hwritten.trans hup.symm) hchecked ⟨h.serves.answered, h.serves.callbacks, h.serves.failure⟩
      have hstream : next.stream = peer.stream ++ bytes := hstream
      -- the stream goes on behind what the buffer held
      have hdecode := @Framing.decode_append _ daemon.format.framing peer.stream bytes
      rw [hrest] at hdecode
      simp only [htext] at hserves hhandled hend
      have hrequests : next.requests daemon = peer.requests daemon ++
          ((daemon.format.framing.decode (peer.brickd.text ++ bytes)).packets.filter
            (daemon.format.hasUid daemon.uid)).map .read := by
        rw [requests, hstream, hdecode, List.filter_append, List.map_append]
        rfl
      refine ⟨next, state', _, hloop, ⟨hsocket, hstream⟩, ⟨?_, fun hup => ?_⟩, hrequests, hhandled⟩
      · rw [hrequests]
        exact hserves
      · rw [hstream, hdecode]
        exact hend hup

theorem Served.dispatchAll (h : peer.Served daemon) (hup : peer.brickd.disconnected = false)
    {packets : List Packet} (hpackets : ∀ packet ∈ packets, packet.IsCallback daemon.uid) :
    (peer.dispatchAll daemon packets).Served daemon := by
  obtain ⟨hwritten, hidle, hrest⟩ := h.waiting hup
  have hfailed := hwritten.trans hup.symm
  have hnext := dispatchAll_dispatched daemon hfailed packets
  have htext : (peer.dispatchAll daemon packets).brickd.text = peer.brickd.text := by
    rw [BrickDaemon.text, hnext.requestUsed, hnext.request]
    rfl
  refine ⟨?_, fun hup' => ⟨hnext.failed.trans hup', ⟨hup', ?_, ?_⟩, ?_⟩⟩
  · rw [requests, hnext.stream]
    exact h.serves.dispatchAll hfailed hpackets
  · intro hc
    rw [hnext.requestUsed, htext]
    exact hidle.checked (hnext.requestHeaderChecked.symm.trans hc)
  · rw [htext]
    exact hidle.pending
  · rw [hnext.stream, htext]
    exact hrest

theorem served_of_brickdCreate (socket : ClientSocket) (memory : Nat → UInt8) :
    BrickdPeer.Served daemon ⟨socket, brickdCreate daemon.format memory, [], [], false⟩ := by
  have hidle : (brickdCreate daemon.format memory).Idle daemon.format := brickdCreate_idle memory
  have hdecode : daemon.format.framing.decode [] = ⟨[], some []⟩ :=
    Framing.decode_pending hidle.pending
  refine ⟨⟨⟨[], List.nil_prefix, .nil, fun _ => ?_⟩, fun packet hpacket => (nomatch hpacket),
    ⟨fun hfailed => (nomatch hfailed), fun ⟨i, hi, _⟩ => absurd hi (Nat.not_lt_zero i)⟩⟩,
    fun _ => ⟨rfl, hidle, ?_⟩⟩
  · rw [requests, hdecode]
    rfl
  · rw [hdecode]
    rfl

end BrickdPeer

namespace Network

variable {σ : Type} (daemon : Daemon σ) (network : Network σ)

def connections : List BrickdPeer := network.former ++ network.brickd.toList

def Serving : Prop := ∀ peer ∈ network.connections, peer.Served daemon

def Connected : Prop := ∀ peer ∈ network.brickd, peer.brickd.disconnected = false

variable {daemon network}

theorem mem_connections {peer : BrickdPeer} :
    peer ∈ network.connections ↔ peer ∈ network.former ∨ peer ∈ network.brickd := by
  rw [connections, List.mem_append, Option.mem_toList, Option.mem_def]

theorem Serving.apply (h : network.Serving daemon) (hup : network.Connected) (effect : Effect σ) :
    (network.apply daemon effect).Serving daemon := by
  intro peer hpeer
  rcases mem_connections.mp hpeer with hformer | hcurrent
  · exact h peer (mem_connections.mpr (Or.inl hformer))
  · obtain ⟨before, hbefore, rfl⟩ := Option.mem_map.mp hcurrent
    refine (h before (mem_connections.mpr (Or.inr hbefore))).dispatchAll (hup before hbefore) ?_
    intro packet hpacket
    obtain ⟨callback, -, rfl⟩ := List.mem_map.mp hpacket
    exact callback.packet_isCallback daemon.uid

theorem handle_serving (hformat : daemon.format.Standard) (h : network.Serving daemon)
    (hup : network.Connected) {event : NetworkEvent σ} {next : Network σ}
    (hnext : network.handle daemon event = some next) : next.Serving daemon := by
  have hchanged : ∀ current brickd state, network.brickd = some current →
      BrickdPeer.Served daemon brickd →
      Serving daemon { network with brickd := some brickd, state } := by
    intro current brickd state hcurrent hserved peer hpeer
    rcases mem_connections.mp hpeer with hformer | hnew
    · exact h peer (mem_connections.mpr (Or.inl hformer))
    · cases hnew
      exact hserved
  cases event with
  | brickdAccept create memory =>
      cases hnext
      unfold handleBrickdAccept accept
      dsimp only
      split
      · exact h
      · split_ifs with hcreate
        · exact h
        · refine Serving.apply ?_ (fun peer hpeer => by cases hpeer; rfl) daemon.brickdConnected
          intro peer hpeer
          rcases mem_connections.mp hpeer with hformer | hnew
          · exact h peer (mem_connections.mpr (Or.inl hformer))
          · cases hnew
            exact BrickdPeer.served_of_brickdCreate network.accepted memory
  | brickdReceive received =>
      unfold handle at hnext
      cases hcurrent : network.brickd with
      | none =>
          rw [hcurrent] at hnext
          cases hnext
      | some peer =>
          simp only [hcurrent] at hnext
          split_ifs at hnext with hfits
          obtain ⟨peer', state', -, hread, -, hserved, -⟩ := BrickdPeer.handleRead_served hformat
            (h peer (mem_connections.mpr (Or.inr hcurrent))) (hup peer hcurrent) received network.state
          rw [hread] at hnext
          cases hnext
          exact hchanged peer peer' state' hcurrent hserved
  | brickdRecipientDisconnect =>
      obtain ⟨peer, hcurrent, rfl⟩ := Option.map_eq_some_iff.mp hnext
      have hserved := h peer (mem_connections.mpr (Or.inr hcurrent))
      exact hchanged peer _ network.state hcurrent
        ⟨⟨hserved.serves.answered, hserved.serves.callbacks, hserved.serves.failure⟩, fun hup => by cases hup⟩
  | cronAccept append create memory =>
      cases hnext
      unfold handleCronAccept accept
      dsimp only
      split_ifs
      all_goals exact h
  | socatReceive socket received =>
      cases hnext
      unfold handleSocatReceive
      cases network.socats.find? (·.1 = socket) with
      | none => exact h
      | some entry =>
          cases hsocat : (Cron.socatHandleReceive received entry.2).1 with
          | none =>
              dsimp only
              rw [hsocat]
              exact h
          | some notification =>
              dsimp only
              rw [hsocat]
              exact Serving.apply h hup (daemon.cronNotified notification)
  | other effect =>
      cases hnext
      exact h.apply hup effect

theorem cleanupSocats_same (n : Nat) (network : Network σ) :
    (network.cleanupSocats n).brickd = network.brickd ∧
      (network.cleanupSocats n).former = network.former ∧
      (network.cleanupSocats n).state = network.state := by
  induction n generalizing network with
  | zero => exact ⟨rfl, rfl, rfl⟩
  | succ n ih =>
      unfold cleanupSocats
      split
      · exact ih network
      · split
        · exact ih _
        · exact ih network

theorem networkCleanup_connections (network : Network σ) :
    network.networkCleanupBrickdAndSocats.connections = network.connections := by
  obtain ⟨hbrickd, hformer, -⟩ := cleanupSocats_same network.cleanupBrickd.socats.length
    network.cleanupBrickd
  unfold networkCleanupBrickdAndSocats connections
  rw [hbrickd, hformer]
  unfold cleanupBrickd
  cases hpeer : network.brickd with
  | none => simp only [hpeer]
  | some peer =>
      dsimp only
      split_ifs
      · exact List.append_nil _
      · simp only [hpeer]

theorem networkCleanup_serving (h : network.Serving daemon) :
    network.networkCleanupBrickdAndSocats.Serving daemon ∧
      network.networkCleanupBrickdAndSocats.Connected := by
  unfold networkCleanupBrickdAndSocats Serving Connected
  obtain ⟨hbrickd, hformer, -⟩ := cleanupSocats_same network.cleanupBrickd.socats.length
    network.cleanupBrickd
  simp only [connections, hbrickd, hformer]
  unfold cleanupBrickd
  cases hcurrent : network.brickd with
  | none =>
      refine ⟨fun peer hpeer => h peer ?_, fun peer hpeer => ?_⟩
      · rw [hcurrent] at hpeer
        rwa [connections, hcurrent]
      · rw [hcurrent] at hpeer
        cases hpeer
  | some peer =>
      dsimp only
      split_ifs with hdown
      · refine ⟨fun other hother => h other ?_, fun other hother => by cases hother⟩
        rw [connections, hcurrent]
        exact (List.append_nil (network.former ++ [peer])) ▸ hother
      · refine ⟨fun other hother => h other hother, fun other hother => ?_⟩
        rw [hcurrent] at hother
        cases hother
        exact Bool.eq_false_iff.mpr hdown

theorem next_serving (hformat : daemon.format.Standard) (network : Network σ)
    (event : NetworkEvent σ) (next : Network σ) (h : network.Serving daemon ∧ network.Connected)
    (hnext : network.next daemon event = some next) : next.Serving daemon ∧ next.Connected := by
  obtain ⟨handled, hhandled, rfl⟩ := Option.map_eq_some_iff.mp hnext
  exact networkCleanup_serving (handle_serving hformat h.1 h.2 hhandled)

-- Received bytes are always handled to the end.
theorem next_isSome (hformat : daemon.format.Standard) (h : network.Serving daemon)
    (hup : network.Connected) {peer : BrickdPeer} (hpeer : network.brickd = some peer)
    {received : ReceiveResult}
    (hfits : received.fits (daemon.format.sizeofPacket - peer.brickd.requestUsed)) :
    (network.next daemon (.brickdReceive received)).isSome := by
  obtain ⟨next, state', -, hread, -⟩ := BrickdPeer.handleRead_served hformat
    (h peer (mem_connections.mpr (Or.inr hpeer))) (hup peer hpeer) received network.state
  rw [Network.next, handle, hpeer]
  simp only [hfits, if_true, hread, Option.map_some, Option.isSome_some]

theorem init_serving (state : σ) :
    Serving daemon (networkInit state) ∧ (networkInit state).Connected := by
  constructor
  · intro peer hpeer
    cases hpeer
  · intro peer hpeer
    cases hpeer

-- The bytes that each connection has received so far.
def streams (network : Network σ) : List (ClientSocket × List UInt8) :=
  network.connections.map fun peer => (peer.socket, peer.stream)

end Network

-- What they are after an event: a new connection starts with none, and what the current connection
-- receives is added to its own.
def NetworkEvent.streams {σ : Type} (network : Network σ) :
    NetworkEvent σ → List (ClientSocket × List UInt8)
  | .brickdAccept create _ =>
      if create && network.brickd.isNone then network.streams ++ [(network.accepted, [])]
      else network.streams
  | .brickdReceive received =>
      network.former.map (fun peer => (peer.socket, peer.stream)) ++
        network.brickd.toList.map fun peer => (peer.socket, peer.stream ++ received.bytes)
  | _ => network.streams

namespace Network

variable {σ : Type} {daemon : Daemon σ} {network : Network σ}

def Receives (network : Network σ) (event : NetworkEvent σ) (next : Network σ) : Prop :=
  next.streams = event.streams network

theorem streams_some {peer : BrickdPeer} (hpeer : network.brickd = some peer) :
    network.streams = network.former.map (fun peer => (peer.socket, peer.stream)) ++
      [(peer.socket, peer.stream)] := by
  rw [streams, connections, hpeer, List.map_append]
  rfl

theorem streams_apply (h : network.Serving daemon) (hup : network.Connected) (effect : Effect σ) :
    (network.apply daemon effect).streams = network.streams := by
  cases hpeer : network.brickd with
  | none => simp only [streams, connections, Network.apply, hpeer, Option.map_none]
  | some peer =>
      have hserved := h peer (mem_connections.mpr (Or.inr hpeer))
      have hnext := BrickdPeer.dispatchAll_dispatched daemon
        ((hserved.waiting (hup peer hpeer)).1.trans (hup peer hpeer).symm)
        ((effect network.state).1.map (APICallback.packet daemon.uid))
      have hsome : (network.apply daemon effect).brickd = some (peer.dispatchAll daemon
          ((effect network.state).1.map (APICallback.packet daemon.uid))) := by
        simp only [Network.apply, hpeer, Option.map_some]
      rw [streams_some hsome, streams_some hpeer, hnext.socket, hnext.stream]
      rfl

theorem handle_receives (hformat : daemon.format.Standard) (h : network.Serving daemon)
    (hup : network.Connected) {event : NetworkEvent σ} {next : Network σ}
    (hnext : network.handle daemon event = some next) : network.Receives event next := by
  unfold Receives
  cases event with
  | brickdAccept create memory =>
      cases hnext
      simp only [NetworkEvent.streams]
      unfold handleBrickdAccept Network.accept
      dsimp only
      cases hcurrent : network.brickd with
      | some peer =>
          rw [Option.isNone_some, Bool.and_false, if_neg Bool.false_ne_true]
          simp only [streams, connections, destroySocket, hcurrent]
      | none =>
          rw [Option.isNone_none, Bool.and_true]
          cases create with
          | false => simp only [streams, connections, loseSocket, hcurrent, Bool.not_false, if_true,
              Bool.false_eq_true, if_false]
          | true =>
              simp only [Bool.not_true, Bool.false_eq_true, if_false, if_true]
              rw [streams_apply (fun peer hpeer => ?_) (fun peer hpeer => by cases hpeer; rfl)]
              · simp only [streams, connections, hcurrent, Option.toList_some, Option.toList_none,
                  List.map_append, List.append_nil, List.map_cons, List.map_nil]
              · rcases mem_connections.mp hpeer with hformer | hnew
                · exact h peer (mem_connections.mpr (Or.inl hformer))
                · cases hnew
                  exact BrickdPeer.served_of_brickdCreate network.accepted memory
  | brickdReceive received =>
      unfold handle at hnext
      cases hcurrent : network.brickd with
      | none =>
          rw [hcurrent] at hnext
          cases hnext
      | some peer =>
          simp only [hcurrent] at hnext
          split_ifs at hnext with hfits
          obtain ⟨peer', state', -, hread, ⟨hsocket, hstream⟩, -⟩ :=
            BrickdPeer.handleRead_served hformat (h peer (mem_connections.mpr (Or.inr hcurrent)))
              (hup peer hcurrent) received network.state
          rw [hread] at hnext
          cases hnext
          simp only [NetworkEvent.streams, hcurrent]
          rw [streams_some rfl, hsocket, hstream]
          rfl
  | brickdRecipientDisconnect =>
      obtain ⟨peer, hcurrent, rfl⟩ := Option.map_eq_some_iff.mp hnext
      simp only [NetworkEvent.streams]
      rw [streams_some rfl, streams_some hcurrent]
  | cronAccept append create memory =>
      cases hnext
      unfold handleCronAccept Network.accept
      dsimp only
      split_ifs <;> rfl
  | socatReceive socket received =>
      cases hnext
      unfold handleSocatReceive
      split
      · rfl
      · dsimp only
        split
        · rfl
        · exact @streams_apply σ daemon { network with socats := _ } h hup _
  | other effect =>
      cases hnext
      exact streams_apply h hup effect

theorem next_receives (hformat : daemon.format.Standard) (h : network.Serving daemon)
    (hup : network.Connected) {event : NetworkEvent σ} {next : Network σ}
    (hnext : network.next daemon event = some next) : network.Receives event next := by
  obtain ⟨handled, hhandled, rfl⟩ := Option.map_eq_some_iff.mp hnext
  have hreceives := handle_receives hformat h hup hhandled
  unfold Receives streams at hreceives ⊢
  rw [networkCleanup_connections]
  exact hreceives

theorem requests_received (hformat : daemon.format.Standard) (state : σ)
    (events : List (NetworkEvent σ)) :
    Trace.Along (Network.next daemon) Receives (networkInit state) events :=
  Trace.along_of_step (next_serving hformat)
    (fun _ _ _ h hnext => next_receives hformat h.1 h.2 hnext) (init_serving state) events

-- On every connection the requests in the received bytes that want an answer are answered once and
-- in their order, and all of them are answered unless the writer disconnects. Everything else that
-- is sent is a callback. Received bytes are always handled to the end.
structure Answering (daemon : Daemon σ) (network : Network σ) : Prop where
  answered : ∀ peer ∈ network.connections,
    ∃ served, served <+: (peer.requests daemon).filter Packet.wantsAnswer ∧
      List.Forall₂ Packet.Answers served peer.answers ∧
      (¬peer.WriteFails daemon → served = (peer.requests daemon).filter Packet.wantsAnswer)
  callbacks : ∀ peer ∈ network.connections, ∀ packet ∈ peer.written,
    packet.header.sequenceNumber = 0 → packet.IsCallback daemon.uid
  handled : ∀ peer received, network.brickd = some peer →
    received.fits (daemon.format.sizeofPacket - peer.brickd.requestUsed) →
      (network.next daemon (.brickdReceive received)).isSome

-- In any interleaving of events, where the received bytes are those of the events.
theorem requests_answered_in_order (hformat : daemon.format.Standard) (state : σ)
    (events : List (NetworkEvent σ)) :
    Trace.Always (Network.next daemon) (Answering daemon) (networkInit state) events ∧
      Trace.Along (Network.next daemon) Receives (networkInit state) events := by
  refine ⟨Trace.always_of_step (next_serving hformat) (fun network h => ?_) (init_serving state) events,
    requests_received hformat state events⟩
  refine ⟨fun peer hpeer => ?_, fun peer hpeer => (h.1 peer hpeer).serves.callbacks,
    fun peer received hpeer hfits => next_isSome hformat h.1 h.2 hpeer hfits⟩
  have hserves := (h.1 peer hpeer).serves
  obtain ⟨served, hserved, hanswered, hall⟩ := hserves.answered
  refine ⟨served, hserved, hanswered, fun hwrites => hall ?_⟩
  exact Bool.eq_false_iff.mpr fun hfailed => hwrites (hserves.failure.mp hfailed)

-- There are no programs that a connection or a cron job could matter to.
def objectDaemon (outcome : Outcomes) : Daemon TimedStore where
  format := PacketHeader.format
  uid := 7
  bodies := objectBodies .byIndex growTo16 outcome
  brickdConnected t := ([], t)
  cronNotified _ t := ([], t)
  disconnects _ _ := false

-- A Brick Daemon connects and passes two requests on.
def sessionEvents : List (NetworkEvent TimedStore) :=
  [.brickdAccept true fun _ => 0,
    .brickdReceive (.data (sessionCalls.flatMap fun call => (call.packet 7).bytes)),
    .brickdReceive .closedByPeer]

theorem sessionEvents_answered_in_order :
    (Trace.run (Network.next (objectDaemon succeeding)) (networkInit TimedStore.init)
      sessionEvents).isSome ∧
    Trace.Always (Network.next (objectDaemon succeeding)) (Answering (objectDaemon succeeding))
      (networkInit TimedStore.init) sessionEvents ∧
    Trace.Along (Network.next (objectDaemon succeeding)) Receives (networkInit TimedStore.init)
      sessionEvents :=
  ⟨rfl, requests_answered_in_order PacketHeader.format_standard TimedStore.init sessionEvents⟩

end Network

end RedApid
