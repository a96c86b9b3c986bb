import RedApid.Memory.Block

namespace RedApid

open Memory

-- What the handler uses of the packet format of daemonlib. Requests are judged by
-- their header alone, and an accepted header announces a packet that holds its own
-- header and fits into the request buffer.
structure PacketFormat where
  sizeofPacketHeader : Nat
  sizeofPacket : Nat
  packetHeaderIsValidRequest : List UInt8 → Bool
  headerLength : List UInt8 → Nat
  headerUid : List UInt8 → UInt32
  sizeofPacketHeader_pos : 0 < sizeofPacketHeader
  sizeofPacketHeader_le : sizeofPacketHeader ≤ sizeofPacket
  header_le_length : ∀ header, packetHeaderIsValidRequest header →
    sizeofPacketHeader ≤ headerLength header
  length_le_packet : ∀ header, packetHeaderIsValidRequest header →
    headerLength header ≤ sizeofPacket

structure BrickDaemon where
  disconnected : Bool
  request : Block
  requestUsed : Nat
  requestHeaderChecked : Bool

-- What socket_receive returns. No result but `failed` with a negative length ends
-- the connection.
inductive ReceiveResult where
  | data (bytes : List UInt8)
  | closedByPeer
  | ioContinue
  | interrupted
  | wouldBlock
  | failed

-- The end of one pass through the body of the while loop in brickd_handle_read: the
-- loop is left, or it goes on after handing `handled` to api_handle_request.
inductive RequestPass where
  | leave (brickd : BrickDaemon)
  | again (handled : List (List UInt8)) (brickd : BrickDaemon)

variable (format : PacketFormat) (uid : UInt32)

-- The buffer of a new connection holds arbitrary bytes.
def brickdCreate (memory : Nat → UInt8) : BrickDaemon :=
  ⟨false, Block.malloc memory format.sizeofPacket, 0, false⟩

-- The packet at the start of the buffer goes to api_handle_request if it carries the own
-- UID and is dropped otherwise.
def passRequest (header : List UInt8) (request : Block) : List (List UInt8) × Block :=
  if format.headerUid header ≠ uid then ([], request)
  else
    let (packet, request) := request.read 0 (format.headerLength header)
    ([packet], request)

def requestPass (brickd : BrickDaemon) : RequestPass :=
  if brickd.disconnected ∨ brickd.requestUsed = 0 then .leave brickd
  -- wait for complete header
  else if brickd.requestUsed < format.sizeofPacketHeader then .leave brickd
  else
    let (header, request) := brickd.request.read 0 format.sizeofPacketHeader
    if ¬ brickd.requestHeaderChecked ∧ ¬ format.packetHeaderIsValidRequest header then
      .leave { brickd with request, disconnected := true }
    else
      let length := format.headerLength header
      -- wait for complete packet
      if brickd.requestUsed < length then
        .leave { brickd with request, requestHeaderChecked := true }
      else
        let (handled, request) := passRequest format uid header request
        let (rest, request) := request.read length (brickd.requestUsed - length)
        .again handled
          { brickd with
            request := request.writeAll 0 rest
            requestUsed := brickd.requestUsed - length
            requestHeaderChecked := false }

-- The while loop, or none if it is still running after `fuel` passes.
def requestLoop : Nat → BrickDaemon → Option (List (List UInt8) × BrickDaemon)
  | 0, _ => none
  | fuel + 1, brickd =>
      match requestPass format uid brickd with
      | .leave brickd => some ([], brickd)
      | .again handled brickd =>
          (requestLoop fuel brickd).map fun (following, brickd) => (handled ++ following, brickd)

-- Passes that are enough for the loop to end.
def BrickDaemon.passes (brickd : BrickDaemon) : Nat :=
  2 * brickd.requestUsed + if brickd.requestHeaderChecked then 2 else 1

-- The packets handed to api_handle_request and the state after one read event.
def brickdHandleRead (received : ReceiveResult) (brickd : BrickDaemon) :
    Option (List (List UInt8) × BrickDaemon) :=
  match received with
  | .closedByPeer | .failed => some ([], { brickd with disconnected := true })
  | .ioContinue | .interrupted | .wouldBlock => some ([], brickd)
  | .data bytes =>
      let brickd :=
        { brickd with
          request := brickd.request.writeAll brickd.requestUsed bytes
          requestUsed := brickd.requestUsed + bytes.length }
      requestLoop format uid brickd.passes brickd

-- Read events until the connection is marked disconnected. network_cleanup_brickd_and_socats
-- then destroys the Brick Daemon before the next event.
def brickdHandleReads (brickd : BrickDaemon) :
    List ReceiveResult → Option (List (List UInt8) × BrickDaemon)
  | [] => some ([], brickd)
  | received :: following =>
      if brickd.disconnected then some ([], brickd)
      else do
        let (handled, brickd) ← brickdHandleRead format uid received brickd
        let (rest, brickd) ← brickdHandleReads brickd following
        return (handled ++ rest, brickd)

end RedApid
