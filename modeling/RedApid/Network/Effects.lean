import RedApid.Network.Feeds

namespace RedApid

-- What acts on the objects.
inductive Action (σ : Type) where
  | request (packet : Packet)
  | connected
  | notified (notification : Cron.CronNotification)
  | other (effect : Effect σ)

namespace Action

variable {σ : Type} (daemon : Daemon σ)

def run (state : σ) : Action σ → σ
  | .request packet => (apiHandleRequest daemon.uid daemon.bodies packet state).2
  | .connected => (daemon.brickdConnected state).2
  | .notified notification => (daemon.cronNotified notification state).2
  | .other effect => (effect state).2

def request? : Action σ → Option Packet
  | .request packet => some packet
  | _ => none

def notified? : Action σ → Option Cron.CronNotification
  | .notified notification => some notification
  | _ => none

def other? : Action σ → Option (Effect σ)
  | .other effect => some effect
  | _ => none

def connected? : Action σ → Bool
  | .connected => true
  | _ => false

end Action

def NetworkEvent.other? {σ : Type} : NetworkEvent σ → Option (Effect σ)
  | .other effect => some effect
  | _ => none

namespace Network

variable {σ : Type} (daemon : Daemon σ)

-- The requests of a connection that were handled, all of them unless the writer disconnected.
def Taken (packets : List Packet) (peer : BrickdPeer) : Prop :=
  packets <+: peer.requests daemon ∧
    (¬peer.WriteFails daemon → packets = peer.requests daemon)

-- The actions that led here from `initial`: the requests of each connection once and in their order,
-- each connection, each notification that came in completely and each other effect once.
structure Acted (initial : σ) (events : List (NetworkEvent σ)) (network : Network σ)
    (actions : List (Action σ)) : Prop where
  state : network.state = actions.foldl (Action.run daemon) initial
  requests : ∃ handled, List.Forall₂ (Taken daemon) handled network.connections ∧
    actions.filterMap Action.request? = handled.flatten
  connected : actions.countP Action.connected? = network.connections.length
  notified : actions.filterMap Action.notified? = CronFeed.init.notifications events
  others : actions.filterMap Action.other? = events.filterMap NetworkEvent.other?

variable {daemon} {initial : σ} {events : List (NetworkEvent σ)} {network : Network σ}
  {actions : List (Action σ)}

theorem connections_of_some {peer : BrickdPeer} (hpeer : network.brickd = some peer) :
    network.connections = network.former ++ [peer] := by
  rw [connections, hpeer, Option.toList_some]

-- More of the requests of the current connection.
theorem taken_last {peer next : BrickdPeer} {handled : List (List Packet)} {more : List Packet}
    (hwrites : ¬peer.WriteFails daemon)
    (h : List.Forall₂ (Taken daemon) handled (network.former ++ [peer]))
    (hnext : Taken daemon (peer.requests daemon ++ more) next) :
    ∃ handled', List.Forall₂ (Taken daemon) handled' (network.former ++ [next]) ∧
      handled'.flatten = handled.flatten ++ more := by
  have hformer := List.forall₂_take_append handled network.former [peer] h
  have hlast := List.forall₂_drop_append handled network.former [peer] h
  obtain ⟨packets, hpackets, hdrop⟩ : ∃ packets, Taken daemon packets peer ∧
      handled.drop network.former.length = [packets] := by
    generalize handled.drop network.former.length = last at hlast
    cases hlast with
    | cons hpackets hrest =>
        cases hrest
        exact ⟨_, hpackets, rfl⟩
  have hsplit : handled = handled.take network.former.length ++ [peer.requests daemon] := by
    rw [← hpackets.2 hwrites, ← hdrop, List.take_append_drop]
  refine ⟨handled.take network.former.length ++ [peer.requests daemon ++ more],
    List.rel_append hformer (.cons hnext .nil), ?_⟩
  conv_rhs => rw [hsplit]
  simp

theorem writes_of_served {peer : BrickdPeer} (h : peer.Served daemon)
    (hup : peer.brickd.disconnected = false) : ¬peer.WriteFails daemon := by
  intro hwrites
  have hfailed := h.serves.failure.mpr hwrites
  rw [(h.waiting hup).1] at hfailed
  cases hfailed

theorem taken_dispatchAll {peer : BrickdPeer} (h : peer.Served daemon)
    (hup : peer.brickd.disconnected = false) (packets : List Packet) :
    Taken daemon (peer.requests daemon ++ []) (peer.dispatchAll daemon packets) := by
  have hfailed := (h.waiting hup).1.trans hup.symm
  have hsame : (peer.dispatchAll daemon packets).requests daemon = peer.requests daemon := by
    rw [BrickdPeer.requests, (BrickdPeer.dispatchAll_dispatched daemon hfailed packets).stream]
    rfl
  rw [List.append_nil, Taken, hsame]
  exact ⟨List.prefix_rfl, fun _ => rfl⟩

-- Callbacks that go to the current connection.
theorem taken_apply (hserving : network.Serving daemon) (hup : network.Connected)
    {handled : List (List Packet)} (h : List.Forall₂ (Taken daemon) handled network.connections)
    (effect : Effect σ) : ∃ handled',
      List.Forall₂ (Taken daemon) handled' (network.apply daemon effect).connections ∧
      handled'.flatten = handled.flatten := by
  cases hpeer : network.brickd with
  | none =>
      refine ⟨handled, ?_, rfl⟩
      have hsame : (network.apply daemon effect).connections = network.connections := by
        simp only [connections, Network.apply, hpeer, Option.map_none]
      rw [hsame]
      exact h
  | some peer =>
      have hserved := hserving peer (mem_connections.mpr (Or.inr hpeer))
      rw [connections_of_some hpeer] at h
      obtain ⟨handled', htaken, hflatten⟩ := taken_last (writes_of_served hserved (hup peer hpeer)) h
        (taken_dispatchAll hserved (hup peer hpeer)
          ((effect network.state).1.map (APICallback.packet daemon.uid)))
      refine ⟨handled', ?_, hflatten.trans (List.append_nil _)⟩
      have hnext : (network.apply daemon effect).brickd = some (peer.dispatchAll daemon
          ((effect network.state).1.map (APICallback.packet daemon.uid))) := by
        simp only [Network.apply, hpeer, Option.map_some]
      rw [connections_of_some hnext]
      exact htaken

theorem connections_apply_length (effect : Effect σ) :
    (network.apply daemon effect).connections.length = network.connections.length := by
  simp only [connections, Network.apply, List.length_append]
  cases network.brickd <;> rfl

theorem Acted.congr (h : Acted daemon initial events network actions) {next : Network σ}
    (hstate : next.state = network.state) (hconnections : next.connections = network.connections) :
    Acted daemon initial events next actions :=
  ⟨hstate.trans h.state, by rw [hconnections]; exact h.requests,
    by rw [hconnections]; exact h.connected, h.notified, h.others⟩

theorem notifications_next (events : List (NetworkEvent σ)) (event : NetworkEvent σ) :
    CronFeed.init.notifications (events ++ [event]) = CronFeed.init.notifications events ++
      ((CronFeed.init.after events).next event).1.toList := by
  rw [CronFeed.notifications_append, CronFeed.notifications, CronFeed.notifications,
    List.append_nil]

-- An event that hands nothing to the objects.
theorem Acted.idle (h : Acted daemon initial events network actions) {event : NetworkEvent σ}
    (hnotified : ((CronFeed.init.after events).next event).1 = none)
    (hother : event.other? = none) : Acted daemon initial (events ++ [event]) network actions := by
  refine ⟨h.state, h.requests, h.connected, ?_, ?_⟩
  · rw [notifications_next, hnotified, Option.toList_none, List.append_nil]
    exact h.notified
  · rw [List.filterMap_append, List.filterMap_cons_none hother, List.filterMap_nil, List.append_nil]
    exact h.others

-- An event that has one effect.
theorem Acted.applied (h : Acted daemon initial events network actions)
    (hserving : network.Serving daemon) (hup : network.Connected) {effect : Effect σ}
    {action : Action σ} {event : NetworkEvent σ}
    (hrun : ∀ state, action.run daemon state = (effect state).2) (hrequest : action.request? = none)
    (hconnected : action.connected? = false)
    (hnotified : action.notified? = ((CronFeed.init.after events).next event).1)
    (hother : action.other? = event.other?) :
    Acted daemon initial (events ++ [event]) (network.apply daemon effect) (actions ++ [action]) := by
  obtain ⟨handled, htaken, hflatten⟩ := h.requests
  obtain ⟨handled', htaken', hflatten'⟩ := taken_apply hserving hup htaken effect
  refine ⟨?_, ⟨handled', htaken', ?_⟩, ?_, ?_, ?_⟩
  · rw [List.foldl_append, ← h.state]
    exact (hrun network.state).symm
  · rw [List.filterMap_append, List.filterMap_cons_none hrequest, List.filterMap_nil, List.append_nil,
      hflatten, hflatten']
  · rw [connections_apply_length, ← h.connected, List.countP_append, List.countP_singleton, hconnected]
    rfl
  · rw [List.filterMap_append, notifications_next, h.notified, ← hnotified, List.filterMap_cons,
      List.filterMap_nil]
    cases action.notified? <;> rfl
  · rw [List.filterMap_append, List.filterMap_append, h.others]
    simp only [List.filterMap_cons, hother, List.filterMap_nil]

-- The first effect on a new connection.
theorem Acted.accepted (h : Acted daemon initial events network actions)
    (hserving : network.Serving daemon) (hnone : network.brickd = none) {socket : ClientSocket}
    {memory : Nat → UInt8} {accepted : Nat} {event : NetworkEvent σ}
    (hnotified : ((CronFeed.init.after events).next event).1 = none)
    (hother : event.other? = none) :
    Acted daemon initial (events ++ [event])
      (Network.apply daemon
        { network with
          accepted
          brickd := some ⟨socket, brickdCreate daemon.format memory, [], [], false⟩ }
        daemon.brickdConnected) (actions ++ [.connected]) := by
  obtain ⟨handled, htaken, hflatten⟩ := h.requests
  have hserved := @BrickdPeer.served_of_brickdCreate σ daemon socket memory
  have hformer : network.connections = network.former := by
    rw [connections, hnone, Option.toList_none, List.append_nil]
  generalize hpeer : BrickdPeer.mk socket (brickdCreate daemon.format memory) [] [] false = peer
    at hserved
  have hempty : peer.requests daemon = [] := by
    have hdecode : daemon.format.framing.decode [] = ⟨[], some []⟩ :=
      ByteStream.Framing.decode_pending (Or.inl daemon.format.framing.headerSize_pos)
    rw [← hpeer, BrickdPeer.requests, hdecode]
    rfl
  have hnext : Network.Serving daemon { network with accepted, brickd := some peer } := by
    intro other hother
    rcases mem_connections.mp hother with hold | hnew
    · exact hserving other (mem_connections.mpr (Or.inl hold))
    · cases hnew
      exact hserved
  have hup : Network.Connected { network with accepted, brickd := some peer } := by
    intro other hother
    cases hother
    rw [← hpeer]
    rfl
  have htaken' : List.Forall₂ (Taken daemon) (handled ++ [[]])
      (connections { network with accepted, brickd := some peer }) := by
    rw [hformer] at htaken
    refine List.rel_append htaken (.cons ⟨?_, fun _ => hempty.symm⟩ .nil)
    exact List.nil_prefix
  obtain ⟨handled', htaken'', hflatten'⟩ := taken_apply hnext hup htaken' daemon.brickdConnected
  refine ⟨?_, ⟨handled', htaken'', ?_⟩, ?_, ?_, ?_⟩
  · rw [List.foldl_append, ← h.state]
    rfl
  · rw [List.filterMap_append, hflatten, hflatten', List.flatten_append]
    rfl
  · rw [connections_apply_length, List.countP_append, h.connected, hformer]
    exact (@List.length_append _ network.former [peer]).symm
  · rw [List.filterMap_append, h.notified, notifications_next, hnotified]
    rfl
  · rw [List.filterMap_append, List.filterMap_append, h.others, List.filterMap_cons_none hother]
    rfl

theorem Acted.received (h : Acted daemon initial events network actions)
    {peer next : BrickdPeer} {state' : σ} {more : List Packet} {event : NetworkEvent σ}
    (hpeer : network.brickd = some peer) (hwrites : ¬peer.WriteFails daemon)
    (hrequests : next.requests daemon = peer.requests daemon ++ more)
    (hhandled : BrickdPeer.Handled daemon next network.state state' more)
    (hfailure : next.failed = true → next.WriteFails daemon)
    (hnotified : ((CronFeed.init.after events).next event).1 = none)
    (hother : event.other? = none) : ∃ handled,
      Acted daemon initial (events ++ [event]) { network with brickd := some next, state := state' }
        (actions ++ handled) := by
  obtain ⟨taken, htaken, hflatten⟩ := h.requests
  obtain ⟨handled, hprefix, hall, hacted⟩ := hhandled.acted
  rw [connections_of_some hpeer] at htaken
  have hnext : Taken daemon (peer.requests daemon ++ handled) next := by
    refine ⟨?_, fun hnone => ?_⟩
    · rw [hrequests]
      exact (List.prefix_append_right_inj _).mpr hprefix
    · rw [hrequests, hall (Bool.eq_false_iff.mpr fun hfailed => hnone (hfailure hfailed))]
  obtain ⟨taken', htaken', hflatten'⟩ := taken_last hwrites htaken hnext
  refine ⟨handled.map .request, ?_, ⟨taken', htaken', ?_⟩, ?_, ?_, ?_⟩
  · rw [List.foldl_append, ← h.state, List.foldl_map]
    exact hacted
  · rw [List.filterMap_append, hflatten, hflatten', List.filterMap_map]
    congr 1
    exact List.filterMap_some
  · rw [List.countP_append, h.connected, connections_of_some hpeer, List.countP_map]
    simp [connections, Function.comp_def, Action.connected?]
  · rw [List.filterMap_append, h.notified, notifications_next, hnotified, List.filterMap_map]
    simp [Function.comp_def, Action.notified?]
  · rw [List.filterMap_append, List.filterMap_append, h.others, List.filterMap_cons_none hother,
      List.filterMap_map]
    simp [Function.comp_def, Action.other?]

theorem Acted.cleanup (h : Acted daemon initial events network actions) :
    Acted daemon initial events network.networkCleanupBrickdAndSocats actions := by
  obtain ⟨-, -, hstate⟩ := cleanupSocats_same network.cleanupBrickd.socats.length
    network.cleanupBrickd
  refine h.congr (hstate.trans ?_) (networkCleanup_connections network)
  unfold cleanupBrickd
  cases network.brickd with
  | none => rfl
  | some peer =>
      dsimp only
      split_ifs <;> rfl

theorem Acted.handle (hformat : daemon.format.Standard)
    (h : Acted daemon initial events network actions) (hserving : network.Serving daemon)
    (hfeeds : network.Feeds (CronFeed.init.after events)) (hclean : network.Clean)
    {event : NetworkEvent σ} {next : Network σ}
    (hhandle : network.handle daemon event = some next) : ∃ more,
      Acted daemon initial (events ++ [event]) next (actions ++ more) := by
  have hup := hclean.brickd
  have hidle : ∀ next : Network σ, next.state = network.state →
      next.connections = network.connections →
      ((CronFeed.init.after events).next event).1 = none → event.other? = none →
      ∃ more, Acted daemon initial (events ++ [event]) next (actions ++ more) := by
    intro next hstate hconnections hnotified hother
    refine ⟨[], ?_⟩
    rw [List.append_nil]
    exact (h.idle hnotified hother).congr hstate hconnections
  cases event with
  | brickdAccept create memory =>
      cases hhandle
      unfold handleBrickdAccept accept
      dsimp only
      split
      · exact hidle _ rfl rfl rfl rfl
      · rename_i hnone
        split_ifs
        · exact hidle _ rfl rfl rfl rfl
        · exact ⟨[.connected], h.accepted hserving hnone rfl rfl⟩
  | brickdReceive received =>
      unfold Network.handle at hhandle
      cases hpeer : network.brickd with
      | none =>
          rw [hpeer] at hhandle
          cases hhandle
      | some peer =>
          simp only [hpeer] at hhandle
          split_ifs at hhandle
          have hserved := hserving peer (mem_connections.mpr (Or.inr hpeer))
          obtain ⟨peer', state', more, hread, -, hserved', hrequests, hhandled⟩ :=
            BrickdPeer.handleRead_served hformat hserved (hup peer hpeer) received network.state
          rw [hread] at hhandle
          cases hhandle
          exact h.received hpeer (writes_of_served hserved (hup peer hpeer)) hrequests hhandled
            hserved'.serves.failure.mp rfl rfl
  | brickdRecipientDisconnect =>
      obtain ⟨peer, hpeer, rfl⟩ := Option.map_eq_some_iff.mp hhandle
      have hserved := hserving peer (mem_connections.mpr (Or.inr hpeer))
      have hsame : BrickdPeer.requests daemon
          { peer with brickd := { peer.brickd with disconnected := true } } =
            peer.requests daemon ++ [] := (List.append_nil _).symm
      exact h.received hpeer (writes_of_served hserved (hup peer hpeer)) hsame
        ⟨[], List.prefix_rfl, fun _ => rfl, rfl⟩ hserved.serves.failure.mp rfl rfl
  | cronAccept append create memory =>
      cases hhandle
      unfold handleCronAccept accept
      dsimp only
      split_ifs <;> exact hidle _ rfl rfl rfl rfl
  | socatReceive socket received =>
      cases hhandle
      have hfeed := (@handleSocatReceive_feeds σ daemon network _ hfeeds hclean socket received).1
      unfold handleSocatReceive
      cases hentry : network.socats.find? (·.1 = socket) with
      | none =>
          rw [hentry] at hfeed
          exact hidle _ rfl rfl hfeed.symm rfl
      | some entry =>
          rw [hentry] at hfeed
          cases hnotified : (Cron.socatHandleReceive received entry.2).1 with
          | none =>
              dsimp only
              rw [hnotified]
              exact hidle _ rfl rfl (hfeed.symm.trans hnotified) rfl
          | some notification =>
              dsimp only
              rw [hnotified]
              have hkept : Acted daemon initial events
                  { network with
                    socats := network.socats.map fun other =>
                      if other.1 = socket then (socket, (Cron.socatHandleReceive received entry.2).2)
                      else other } actions := h.congr rfl rfl
              exact ⟨[.notified notification],
                hkept.applied hserving hup (fun _ => rfl) rfl rfl (hnotified.symm.trans hfeed) rfl⟩
  | other effect =>
      cases hhandle
      exact ⟨[.other effect], h.applied hserving hup (fun _ => rfl) rfl rfl rfl rfl⟩

theorem Acted.next (hformat : daemon.format.Standard)
    (h : Acted daemon initial events network actions) (hserving : network.Serving daemon)
    (hfeeds : network.Feeds (CronFeed.init.after events)) (hclean : network.Clean)
    {event : NetworkEvent σ} {next : Network σ}
    (hnext : network.next daemon event = some next) : ∃ more,
      Acted daemon initial (events ++ [event]) next (actions ++ more) := by
  obtain ⟨handled, hhandled, rfl⟩ := Option.map_eq_some_iff.mp hnext
  obtain ⟨more, hmore⟩ := h.handle hformat hserving hfeeds hclean hhandled
  exact ⟨more, hmore.cleanup⟩

theorem Acted.run (hformat : daemon.format.Standard)
    (h : Acted daemon initial events network actions) (hserving : network.Serving daemon)
    (hfeeds : network.Feeds (CronFeed.init.after events)) (hplaced : network.Placed)
    (hclean : network.Clean) {todo : List (NetworkEvent σ)} {last : Network σ}
    (hrun : Trace.run (Network.next daemon) network todo = some last) : ∃ more,
      Acted daemon initial (events ++ todo) last (actions ++ more) := by
  induction todo generalizing events network actions with
  | nil =>
      cases hrun
      refine ⟨[], ?_⟩
      rw [List.append_nil, List.append_nil]
      exact h
  | cons event todo ih =>
      cases hnext : network.next daemon event with
      | none =>
          rw [Trace.run, hnext] at hrun
          cases hrun
      | some next =>
          rw [Trace.run_cons hnext] at hrun
          obtain ⟨hserving', -⟩ :=
            next_serving hformat network event next ⟨hserving, hclean.brickd⟩ hnext
          obtain ⟨hplaced', hclean'⟩ := next_placed network event next ⟨hplaced, hclean⟩ hnext
          have hfeeds' : next.Feeds (CronFeed.init.after (events ++ [event])) := by
            rw [CronFeed.after_append]
            exact next_feeds hfeeds hplaced hclean hnext
          obtain ⟨first, hfirst⟩ := h.next hformat hserving hfeeds hclean hnext
          obtain ⟨more, hmore⟩ := ih hfirst hserving' hfeeds' hplaced' hclean' hrun
          refine ⟨first ++ more, ?_⟩
          rw [List.append_assoc, List.singleton_append] at hmore
          rw [← List.append_assoc]
          exact hmore

-- In any interleaving of events, where the requests are read from the bytes of the events.
theorem requests_take_effect_once (hformat : daemon.format.Standard) (initial : σ)
    (events : List (NetworkEvent σ)) {network : Network σ}
    (hrun : Trace.run (Network.next daemon) (networkInit initial) events = some network) :
    (∃ actions, Acted daemon initial events network actions) ∧
      Trace.Along (Network.next daemon) Receives (networkInit initial) events := by
  have hinit : Acted daemon initial [] (networkInit initial) [] :=
    ⟨rfl, ⟨[], .nil, rfl⟩, rfl, rfl, rfl⟩
  obtain ⟨hserving, -⟩ := @init_serving σ daemon initial
  obtain ⟨hplaced, hclean⟩ := init_placed initial
  obtain ⟨actions, hacted⟩ :=
    hinit.run hformat hserving ⟨rfl, fun _ => rfl⟩ hplaced hclean hrun
  exact ⟨⟨actions, hacted⟩, requests_received hformat initial events⟩

theorem sessionEvents_take_effect_once : ∃ network,
    Trace.run (Network.next (objectDaemon succeeding)) (networkInit TimedStore.init) sessionEvents =
      some network ∧
    (∃ actions, Acted (objectDaemon succeeding) TimedStore.init sessionEvents network actions) ∧
    Trace.Along (Network.next (objectDaemon succeeding)) Receives (networkInit TimedStore.init)
      sessionEvents := by
  have hsome : (Trace.run (Network.next (objectDaemon succeeding)) (networkInit TimedStore.init)
      sessionEvents).isSome := rfl
  obtain ⟨network, hrun⟩ := Option.isSome_iff_exists.mp hsome
  exact ⟨network, hrun,
    requests_take_effect_once PacketHeader.format_standard TimedStore.init sessionEvents hrun⟩

end Network

end RedApid
