import RedApid.Network.Serving

namespace RedApid

namespace BrickdPeer

variable {σ : Type} {daemon : Daemon σ}

theorem dispatchAll_socket (responses : List Packet) (peer : BrickdPeer) :
    (peer.dispatchAll daemon responses).socket = peer.socket := by
  induction responses generalizing peer with
  | nil => rfl
  | cons response responses ih =>
      refine (ih _).trans ?_
      unfold dispatchResponse
      split_ifs <;> rfl

theorem handleRequests_socket (handled : List (List UInt8)) (peer : BrickdPeer × σ) :
    (handled.foldl (handleRequest daemon) peer).1.socket = peer.1.socket := by
  induction handled generalizing peer with
  | nil => rfl
  | cons bytes handled ih => exact (ih _).trans (dispatchAll_socket _ peer.1)

theorem requestLoop_socket (fuel : Nat) (peer : BrickdPeer × σ) {next : BrickdPeer × σ}
    (h : requestLoop daemon fuel peer = some next) : next.1.socket = peer.1.socket := by
  induction fuel generalizing peer with
  | zero => cases h
  | succ fuel ih =>
      obtain ⟨peer, state⟩ := peer
      unfold requestLoop at h
      split at h
      · cases h
        rfl
      · exact (ih _ h).trans (handleRequests_socket _ _)

theorem handleRead_socket {peer : BrickdPeer} {state : σ} {received : ReceiveResult}
    {next : BrickdPeer × σ} (h : peer.handleRead daemon received state = some next) :
    next.1.socket = peer.socket := by
  cases received with
  | data bytes => exact requestLoop_socket _ _ h
  | closedByPeer | ioContinue | interrupted | wouldBlock | failed =>
      cases h
      rfl

end BrickdPeer

namespace Network

variable {σ : Type} {daemon : Daemon σ} {network : Network σ}

-- The sockets with a handle that is still open and has an owner.
def owned (network : Network σ) : List ClientSocket :=
  (network.brickd.map BrickdPeer.socket).toList ++ network.socats.map Prod.fst

-- Every accepted socket is at exactly one place.
def Placed (network : Network σ) : Prop :=
  (network.owned ++ (network.destroyed ++ network.lost)).Perm (List.range network.accepted)

-- Nothing is disconnected any more.
structure Clean (network : Network σ) : Prop where
  brickd : network.Connected
  socats : ∀ entry ∈ network.socats, entry.2.disconnected = false

namespace Placed

theorem congr {next : Network σ} (h : network.Placed) (howned : next.owned = network.owned)
    (hdestroyed : next.destroyed = network.destroyed) (hlost : next.lost = network.lost)
    (haccepted : next.accepted = network.accepted) : next.Placed := by
  unfold Placed
  rw [howned, hdestroyed, hlost, haccepted]
  exact h

-- A new socket goes to any of the places.
theorem accept {next : Network σ} (h : network.Placed)
    (hplaces : (next.owned ++ (next.destroyed ++ next.lost)).Perm
      (network.owned ++ (network.destroyed ++ network.lost) ++ [network.accepted]))
    (haccepted : next.accepted = network.accepted + 1) : next.Placed := by
  unfold Placed
  rw [haccepted, List.range_succ]
  exact hplaces.trans (h.append_right _)

end Placed

theorem owned_apply (network : Network σ) (effect : Effect σ) :
    (network.apply daemon effect).owned = network.owned := by
  unfold owned apply
  cases network.brickd with
  | none => rfl
  | some peer => simp only [Option.map_some, BrickdPeer.dispatchAll_socket]

theorem Placed.apply (h : network.Placed) (effect : Effect σ) :
    (network.apply daemon effect).Placed :=
  h.congr (owned_apply network effect) rfl rfl rfl

theorem handleBrickdAccept_placed (h : network.Placed) (create : Bool) (memory : Nat → UInt8) :
    (network.handleBrickdAccept daemon create memory).Placed := by
  unfold handleBrickdAccept Network.accept
  dsimp only
  split
  · refine h.accept ?_ rfl
    change (network.owned ++ (network.destroyed ++ [network.accepted] ++ network.lost)).Perm _
    rw [List.append_assoc network.destroyed, List.append_assoc]
    refine List.Perm.append_left _ ?_
    rw [List.append_assoc]
    exact List.perm_append_comm.append_left _
  · split_ifs
    · refine h.accept ?_ rfl
      change (network.owned ++ (network.destroyed ++ (network.lost ++ [network.accepted]))).Perm _
      simp only [List.append_assoc]
      exact List.Perm.refl _
    · refine Placed.apply (h.accept ?_ rfl) daemon.brickdConnected
      rename_i hnone _
      have howned : network.owned = network.socats.map Prod.fst := by
        rw [owned, hnone]
        rfl
      rw [howned]
      exact @List.perm_append_comm _ [network.accepted] _

theorem handleCronAccept_placed (h : network.Placed) (append create : Bool)
    (memory : Nat → UInt8) : (network.handleCronAccept append create memory).Placed := by
  have hlost : Placed ({ network with accepted := network.accepted + 1 }.loseSocket
      network.accepted) := by
    refine h.accept ?_ rfl
    change (network.owned ++ (network.destroyed ++ (network.lost ++ [network.accepted]))).Perm _
    simp only [List.append_assoc]
    exact List.Perm.refl _
  unfold handleCronAccept Network.accept
  dsimp only
  split_ifs
  · exact hlost
  · exact hlost
  · refine h.accept ?_ rfl
    have hlast : ([(network.accepted, Cron.socatCreate memory)].map Prod.fst ++ (network.destroyed ++ network.lost)).Perm
        (network.destroyed ++ network.lost ++ [network.accepted]) := List.perm_append_comm
    unfold owned
    rw [List.map_append]
    simpa only [List.append_assoc] using (hlast.append_left _).append_left _

theorem handleSocatReceive_placed (h : network.Placed) (socket : ClientSocket)
    (received : Cron.Received) : (network.handleSocatReceive daemon socket received).Placed := by
  unfold handleSocatReceive
  split
  · exact h
  · rename_i socat hfind
    have hsame : Placed { network with
        socats := network.socats.map fun entry => if entry.1 = socket then
          (socket, (Cron.socatHandleReceive received socat).2) else entry } := by
      refine h.congr ?_ rfl rfl rfl
      unfold owned
      rw [List.map_map]
      congr 1
      refine List.map_congr_left fun entry _ => ?_
      simp only [Function.comp_apply]
      split_ifs with heq
      · exact heq.symm
      · rfl
    dsimp only
    split
    · exact hsame
    · exact hsame.apply _

theorem handle_placed (h : network.Placed) {event : NetworkEvent σ} {next : Network σ}
    (hnext : network.handle daemon event = some next) : next.Placed := by
  cases event with
  | brickdAccept create memory =>
      cases hnext
      exact handleBrickdAccept_placed h create memory
  | brickdReceive received =>
      unfold handle at hnext
      dsimp only at hnext
      split at hnext
      · cases hnext
      · rename_i peer hcurrent
        split_ifs at hnext
        obtain ⟨result, hread, rfl⟩ := Option.map_eq_some_iff.mp hnext
        refine h.congr ?_ rfl rfl rfl
        unfold owned
        rw [hcurrent, Option.map_some, Option.map_some, BrickdPeer.handleRead_socket hread]
  | brickdRecipientDisconnect =>
      obtain ⟨peer, hcurrent, rfl⟩ := Option.map_eq_some_iff.mp hnext
      refine h.congr ?_ rfl rfl rfl
      unfold owned
      rw [hcurrent]
      rfl
  | cronAccept append create memory =>
      cases hnext
      exact handleCronAccept_placed h append create memory
  | socatReceive socket received =>
      cases hnext
      exact handleSocatReceive_placed h socket received
  | other effect =>
      cases hnext
      exact h.apply effect

-- The loop over the socats goes down, so the ones in front of index `n` are still to come.
theorem cleanupSocats_eq (n : Nat) (network : Network σ) (h : n ≤ network.socats.length) :
    (network.cleanupSocats n).socats =
        (network.socats.take n).filter (fun entry => !entry.2.disconnected) ++
          network.socats.drop n ∧
      (network.cleanupSocats n).destroyed = network.destroyed ++
        (((network.socats.take n).filter fun entry => entry.2.disconnected).map Prod.fst).reverse ∧
      (network.cleanupSocats n).lost = network.lost ∧
      (network.cleanupSocats n).accepted = network.accepted := by
  induction n generalizing network with
  | zero => simp [cleanupSocats]
  | succ n ih =>
      have hlt : n < network.socats.length := h
      have htake : network.socats.take (n + 1) = network.socats.take n ++ [network.socats[n]] :=
        List.take_succ_eq_append_getElem hlt
      unfold cleanupSocats
      rw [List.getElem?_eq_getElem hlt, htake]
      simp only [List.filter_append, List.filter_cons, List.filter_nil]
      cases hdown : network.socats[n].2.disconnected with
      | true =>
          obtain ⟨hsocats, hdestroyed, hlost, haccepted⟩ := ih
            { network with
              socats := network.socats.eraseIdx n
              destroyed := network.destroyed ++ [network.socats[n].1] }
            (by simp only [List.length_eraseIdx_of_lt hlt]; omega)
          simp only [if_true]
          refine ⟨?_, ?_, hlost, haccepted⟩
          · rw [hsocats]
            simp [List.eraseIdx_eq_take_drop_succ, hlt.le]
          · rw [hdestroyed]
            simp [List.eraseIdx_eq_take_drop_succ, hlt.le]
      | false =>
          obtain ⟨hsocats, hdestroyed, hlost, haccepted⟩ := ih network hlt.le
          simp only [Bool.false_eq_true, if_false]
          refine ⟨?_, ?_, hlost, haccepted⟩
          · rw [hsocats, List.drop_eq_getElem_cons hlt]
            simp
          · rw [hdestroyed]
            simp

theorem Placed.cleanupBrickd (h : network.Placed) : network.cleanupBrickd.Placed := by
  unfold Network.cleanupBrickd
  split
  · exact h
  · rename_i peer hcurrent
    split_ifs
    · have howned : network.owned = peer.socket :: network.socats.map Prod.fst := by
        unfold owned
        rw [hcurrent]
        rfl
      unfold Placed at h ⊢
      rw [howned] at h
      refine List.Perm.trans ?_ h
      change (network.socats.map Prod.fst ++
        (network.destroyed ++ [peer.socket] ++ network.lost)).Perm _
      have hmoved : (network.destroyed ++ [peer.socket] ++ network.lost).Perm
          (peer.socket :: (network.destroyed ++ network.lost)) := by
        rw [List.append_assoc]
        exact List.perm_middle
      exact (hmoved.append_left _).trans List.perm_middle
    · exact h

theorem Placed.cleanupSocats (h : network.Placed) :
    (network.cleanupSocats network.socats.length).Placed := by
  obtain ⟨hsocats, hdestroyed, hlost, haccepted⟩ :=
    cleanupSocats_eq network.socats.length network (Nat.le_refl _)
  rw [List.take_length, List.drop_length, List.append_nil] at hsocats
  rw [List.take_length] at hdestroyed
  unfold Placed owned at h ⊢
  rw [(cleanupSocats_same _ network).1, hsocats, hdestroyed, hlost, haccepted]
  refine List.Perm.trans ?_ h
  generalize (network.brickd.map BrickdPeer.socket).toList = current
  have hsplit : ((network.socats.filter fun entry => !entry.2.disconnected).map Prod.fst ++
      ((network.socats.filter fun entry => entry.2.disconnected).map Prod.fst).reverse).Perm
      (network.socats.map Prod.fst) := by
    refine ((List.reverse_perm _).append_left _).trans ?_
    rw [← List.map_append]
    exact (List.perm_append_comm.trans (List.filter_append_perm _ network.socats)).map Prod.fst
  rw [List.append_assoc, List.append_assoc, List.append_assoc]
  refine List.Perm.append_left _ ?_
  refine List.Perm.trans ?_ (hsplit.append_right _)
  rw [List.append_assoc]
  refine List.Perm.append_left _ ?_
  rw [← List.append_assoc, ← List.append_assoc]
  exact List.perm_append_comm.append_right _

theorem cleanup_placed (h : network.Placed) : network.networkCleanupBrickdAndSocats.Placed :=
  h.cleanupBrickd.cleanupSocats

theorem cleanup_clean (network : Network σ) : network.networkCleanupBrickdAndSocats.Clean := by
  unfold networkCleanupBrickdAndSocats
  dsimp only
  constructor
  · intro peer hpeer
    rw [(cleanupSocats_same _ network.cleanupBrickd).1] at hpeer
    unfold cleanupBrickd at hpeer
    split at hpeer
    · rename_i hnone
      rw [hnone] at hpeer
      cases hpeer
    · rename_i current hcurrent
      split_ifs at hpeer with hdown
      · cases hpeer
      · rw [hcurrent] at hpeer
        cases hpeer
        exact Bool.eq_false_iff.mpr hdown
  · intro entry hentry
    rw [(cleanupSocats_eq _ network.cleanupBrickd (Nat.le_refl _)).1, List.take_length,
      List.drop_length, List.append_nil] at hentry
    simpa using List.of_mem_filter hentry

theorem networkExit_placed (h : network.Placed) :
    (network.networkExit.destroyed ++ network.networkExit.lost).Perm
      (List.range network.accepted) := by
  unfold Placed owned at h
  refine List.Perm.trans ?_ h
  unfold networkExit
  cases network.brickd with
  | none =>
      change (network.destroyed ++ network.socats.map Prod.fst ++ network.lost).Perm
        (network.socats.map Prod.fst ++ (network.destroyed ++ network.lost))
      rw [← List.append_assoc]
      exact List.perm_append_comm.append_right _
  | some peer =>
      change (network.destroyed ++ network.socats.map Prod.fst ++ [peer.socket] ++
        network.lost).Perm (([peer.socket] ++ network.socats.map Prod.fst) ++
          (network.destroyed ++ network.lost))
      rw [← List.append_assoc]
      refine List.Perm.append_right _ ?_
      refine List.perm_append_comm.trans ?_
      rw [List.append_assoc]
      exact List.perm_append_comm.append_left _

end Network

-- The socket that an event loses: the connection that it is for could not be created.
def NetworkEvent.loses {σ : Type} (network : Network σ) : NetworkEvent σ → List ClientSocket
  | .brickdAccept create _ =>
      if network.brickd.isNone && !create then [network.accepted] else []
  | .cronAccept append create _ => if append && create then [] else [network.accepted]
  | _ => []

namespace Network

variable {σ : Type} {daemon : Daemon σ} {network : Network σ}

theorem handle_lost {event : NetworkEvent σ} {next : Network σ}
    (hnext : network.handle daemon event = some next) :
    next.lost = network.lost ++ event.loses network := by
  cases event with
  | brickdAccept create memory =>
      cases hnext
      simp only [NetworkEvent.loses]
      unfold handleBrickdAccept Network.accept
      dsimp only
      cases network.brickd with
      | some peer => exact (List.append_nil _).symm
      | none =>
          cases create with
          | false => rfl
          | true => exact (List.append_nil _).symm
  | brickdReceive received =>
      unfold handle at hnext
      dsimp only at hnext
      split at hnext
      · cases hnext
      · split_ifs at hnext
        obtain ⟨result, -, rfl⟩ := Option.map_eq_some_iff.mp hnext
        exact (List.append_nil _).symm
  | brickdRecipientDisconnect =>
      obtain ⟨peer, -, rfl⟩ := Option.map_eq_some_iff.mp hnext
      exact (List.append_nil _).symm
  | cronAccept append create memory =>
      cases hnext
      cases append with
      | false => rfl
      | true =>
          cases create with
          | false => rfl
          | true => exact (List.append_nil _).symm
  | socatReceive socket received =>
      cases hnext
      refine Eq.trans ?_ (List.append_nil _).symm
      unfold handleSocatReceive
      split
      · rfl
      · dsimp only
        split <;> rfl
  | other effect =>
      cases hnext
      exact (List.append_nil _).symm

theorem next_lost {event : NetworkEvent σ} {next : Network σ}
    (hnext : network.next daemon event = some next) :
    next.lost = network.lost ++ event.loses network := by
  obtain ⟨handled, hhandled, rfl⟩ := Option.map_eq_some_iff.mp hnext
  have hcleanup : handled.networkCleanupBrickdAndSocats.lost = handled.lost := by
    unfold networkCleanupBrickdAndSocats
    refine (cleanupSocats_eq _ _ (Nat.le_refl _)).2.2.1.trans ?_
    unfold cleanupBrickd
    split
    · rfl
    · split_ifs <;> rfl
  rw [hcleanup]
  exact handle_lost hhandled

theorem next_placed (network : Network σ) (event : NetworkEvent σ) (next : Network σ)
    (h : network.Placed ∧ network.Clean) (hnext : network.next daemon event = some next) :
    next.Placed ∧ next.Clean := by
  obtain ⟨handled, hhandled, rfl⟩ := Option.map_eq_some_iff.mp hnext
  exact ⟨cleanup_placed (handle_placed h.1 hhandled), cleanup_clean handled⟩

theorem init_placed (state : σ) : (networkInit state).Placed ∧ (networkInit state).Clean := by
  refine ⟨List.Perm.refl _, ⟨?_, ?_⟩⟩
  · intro peer hpeer
    cases hpeer
  · intro entry hentry
    cases hentry

-- In any interleaving of events each accepted client socket has one owner that is not disconnected,
-- or was destroyed once, or is lost, and after network_exit none has an owner. A socket is lost by
-- nothing but a connection that cannot be created.
theorem sockets_owned_or_destroyed (daemon : Daemon σ) (state : σ) (events : List (NetworkEvent σ)) :
    Trace.Always (Network.next daemon)
        (fun network =>
          (network.owned ++ (network.destroyed ++ network.lost)).Perm
            (List.range network.accepted) ∧
          network.Clean ∧
          (network.networkExit.destroyed ++ network.networkExit.lost).Perm
            (List.range network.accepted))
        (networkInit state) events ∧
      Trace.Along (Network.next daemon)
        (fun network event next => next.lost = network.lost ++ event.loses network)
        (networkInit state) events := by
  constructor
  · exact Trace.always_of_step next_placed
      (fun _ h => ⟨h.1, h.2, networkExit_placed h.1⟩) (init_placed state) events
  · exact Trace.along_of_step next_placed (fun _ _ _ _ hnext => next_lost hnext)
      (init_placed state) events

end Network

end RedApid
