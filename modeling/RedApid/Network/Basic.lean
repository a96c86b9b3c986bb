import RedApid.Api.Dispatch
import RedApid.Cron.Basic

namespace RedApid

-- A client socket, by the number of sockets that were accepted before.
abbrev ClientSocket := Nat

-- The Brick Daemon on the other end of a socket. No program reads the last three members: the
-- bytes received so far, the packets handed to the writer, and whether that disconnected the Brick
-- Daemon because of one of them.
structure BrickdPeer where
  socket : ClientSocket
  brickd : BrickDaemon
  stream : List UInt8
  written : List Packet
  failed : Bool

-- The connections of network.c and everything that the requests act on. `brickd` is there as long
-- as `_brickd_connected` is set. No program reads the last four members: the number of accepted
-- sockets, those that were destroyed, those that nobody has a pointer to any more, and the Brick
-- Daemons of former connections.
structure Network (σ : Type) where
  brickd : Option BrickdPeer
  socats : List (ClientSocket × Cron.Socat)
  state : σ
  accepted : Nat
  destroyed : List ClientSocket
  lost : List ClientSocket
  former : List BrickdPeer

-- What an event does to the objects, and the callbacks it sends.
abbrev Effect (σ : Type) := σ → List APICallback × σ

-- One event of the event loop. `other` stands for the timers, the processes, the files and so on.
inductive NetworkEvent (σ : Type) where
  | brickdAccept (create : Bool) (memory : Nat → UInt8)
  | brickdReceive (received : ReceiveResult)
  | brickdRecipientDisconnect
  | cronAccept (append create : Bool) (memory : Nat → UInt8)
  | socatReceive (socket : ClientSocket) (received : Cron.Received)
  | other (effect : Effect σ)

-- What the network hands requests, new connections and notifications to. `disconnects` tells for
-- each packet of a connection whether writer_write disconnects the Brick Daemon.
structure Daemon (σ : Type) where
  format : PacketFormat
  uid : UInt32
  bodies : APIBodies σ
  brickdConnected : Effect σ
  cronNotified : Cron.CronNotification → Effect σ
  disconnects : ClientSocket → Nat → Bool

-- What socket_receive can return if it is asked for `room` bytes.
def ReceiveResult.fits (room : Nat) : ReceiveResult → Bool
  | .data bytes => bytes ≠ [] ∧ bytes.length ≤ room
  | _ => true

def networkInit {σ : Type} (state : σ) : Network σ := ⟨none, [], state, 0, [], [], []⟩

section Functions

variable {σ : Type} (daemon : Daemon σ)

def BrickdPeer.dispatchResponse (peer : BrickdPeer) (response : Packet) : BrickdPeer :=
  if peer.brickd.disconnected then peer
  else
    let failed := daemon.disconnects peer.socket peer.written.length
    { peer with
      brickd := { peer.brickd with disconnected := failed }
      written := peer.written ++ [response]
      failed }

def BrickdPeer.dispatchAll (peer : BrickdPeer) (responses : List Packet) : BrickdPeer :=
  responses.foldl (BrickdPeer.dispatchResponse daemon) peer

-- One packet that is passed to api_handle_request.
def BrickdPeer.handleRequest (peer : BrickdPeer × σ) (bytes : List UInt8) : BrickdPeer × σ :=
  let (responses, state) := apiHandleRequest daemon.uid daemon.bodies (.read bytes) peer.2
  (peer.1.dispatchAll daemon responses, state)

-- The while loop of brickd_handle_read, or none if it is still running after `fuel` passes.
def BrickdPeer.requestLoop : Nat → BrickdPeer × σ → Option (BrickdPeer × σ)
  | 0, _ => none
  | fuel + 1, (peer, state) =>
      match requestPass daemon.format daemon.uid peer.brickd with
      | .leave brickd => some ({ peer with brickd }, state)
      | .again handled brickd =>
          BrickdPeer.requestLoop fuel
            (handled.foldl (BrickdPeer.handleRequest daemon) ({ peer with brickd }, state))

def BrickdPeer.handleRead (received : ReceiveResult) (peer : BrickdPeer) (state : σ) :
    Option (BrickdPeer × σ) :=
  match received with
  | .closedByPeer | .failed =>
      some ({ peer with brickd := { peer.brickd with disconnected := true } }, state)
  | .ioContinue | .interrupted | .wouldBlock => some (peer, state)
  | .data bytes =>
      let brickd :=
        { peer.brickd with
          request := peer.brickd.request.writeAll peer.brickd.requestUsed bytes
          requestUsed := peer.brickd.requestUsed + bytes.length }
      BrickdPeer.requestLoop daemon brickd.passes
        ({ peer with brickd, stream := peer.stream ++ bytes }, state)

namespace Network

variable (network : Network σ)

-- Callbacks are dropped if no Brick Daemon is connected.
def apply (effect : Effect σ) : Network σ :=
  let (callbacks, state) := effect network.state
  { network with
    brickd := network.brickd.map fun peer =>
      peer.dispatchAll daemon (callbacks.map (APICallback.packet daemon.uid))
    state }

def destroySocket (socket : ClientSocket) : Network σ :=
  { network with destroyed := network.destroyed ++ [socket] }

def accept : ClientSocket × Network σ :=
  (network.accepted, { network with accepted := network.accepted + 1 })

def loseSocket (socket : ClientSocket) : Network σ :=
  { network with lost := network.lost ++ [socket] }

-- network_handle_brickd_accept behind socket_accept. The programs are notified of the connection.
def handleBrickdAccept (create : Bool) (memory : Nat → UInt8) : Network σ :=
  let (socket, network) := network.accept
  match network.brickd with
  | some _ => network.destroySocket socket
  | none =>
      if !create then network.loseSocket socket
      else
        ({ network with
          brickd := some ⟨socket, brickdCreate daemon.format memory, [], [], false⟩ } :
            Network σ).apply daemon daemon.brickdConnected

def handleCronAccept (append create : Bool) (memory : Nat → UInt8) : Network σ :=
  let (socket, network) := network.accept
  if !append then network.loseSocket socket
  else if !create then network.loseSocket socket
  else { network with socats := network.socats ++ [(socket, Cron.socatCreate memory)] }

def handleSocatReceive (socket : ClientSocket) (received : Cron.Received) : Network σ :=
  match network.socats.find? (·.1 = socket) with
  | none => network
  | some (_, socat) =>
      let (notification, socat) := Cron.socatHandleReceive received socat
      let network :=
        { network with
          socats := network.socats.map fun entry => if entry.1 = socket then (socket, socat) else entry }
      match notification with
      | none => network
      | some notification => network.apply daemon (daemon.cronNotified notification)

-- The loop over the socats, from the last one to the first.
def cleanupSocats : Nat → Network σ → Network σ
  | 0, network => network
  | i + 1, network =>
      match network.socats[i]? with
      | none => cleanupSocats i network
      | some (socket, socat) =>
          if socat.disconnected then
            cleanupSocats i
              { network with
                socats := network.socats.eraseIdx i
                destroyed := network.destroyed ++ [socket] }
          else cleanupSocats i network

def cleanupBrickd : Network σ :=
  match network.brickd with
  | none => network
  | some peer =>
      if peer.brickd.disconnected then
        ({ network with brickd := none, former := network.former ++ [peer] } :
          Network σ).destroySocket peer.socket
      else network

def networkCleanupBrickdAndSocats : Network σ :=
  let network := network.cleanupBrickd
  network.cleanupSocats network.socats.length

def networkExit : Network σ :=
  let network : Network σ :=
    { network with
      socats := []
      destroyed := network.destroyed ++ network.socats.map Prod.fst }
  match network.brickd with
  | none => network
  | some peer =>
      ({ network with brickd := none, former := network.former ++ [peer] } :
        Network σ).destroySocket peer.socket

-- One event and the cleanup behind it. The events of a socket that is not there do not come up, and
-- socket_receive returns what fits into the room that is left.
def handle : NetworkEvent σ → Option (Network σ)
  | .brickdAccept create memory => some (network.handleBrickdAccept daemon create memory)
  | .brickdReceive received =>
      match network.brickd with
      | none => none
      | some peer =>
          if received.fits (daemon.format.sizeofPacket - peer.brickd.requestUsed) then
            (peer.handleRead daemon received network.state).map fun result =>
              { network with brickd := some result.1, state := result.2 }
          else none
  -- the writer fails to send its backlog
  | .brickdRecipientDisconnect =>
      network.brickd.map fun peer =>
        { network with
          brickd := some { peer with brickd := { peer.brickd with disconnected := true } } }
  | .cronAccept append create memory => some (network.handleCronAccept append create memory)
  | .socatReceive socket received => some (network.handleSocatReceive daemon socket received)
  | .other effect => some (network.apply daemon effect)

def next (event : NetworkEvent σ) : Option (Network σ) :=
  (network.handle daemon event).map networkCleanupBrickdAndSocats

end Network

end Functions

end RedApid
