import Mathlib.Data.PNat.Defs
import RedApid.ByteStream.LittleEndian
import RedApid.Config.Number
import RedApid.Memory.Text

namespace RedApid.Cron

open Memory ByteStream

structure CronNotification where
  cookie : UInt32
  programId : UInt16
deriving DecidableEq, Repr

def sizeofCronNotification : Nat := 6

-- What the packed struct holds on a little endian host.
def CronNotification.ofMemory (bytes : List UInt8) : CronNotification :=
  ⟨.ofNat (littleEndian (bytes.take 4)), .ofNat (littleEndian ((bytes.drop 4).take 2))⟩

section Command

-- "%02X" of a byte
def hexadecimalDigit (d : Nat) : UInt8 := (if d < 10 then 48 + d else 55 + d).toUInt8

def formatByte (byte : UInt8) : CString :=
  [hexadecimalDigit (byte.toNat / 16), hexadecimalDigit (byte.toNat % 16)]

def printfArgument (cookie : UInt32) (programId : UInt16) : CString :=
  let id := programId.toUInt32
  [cookie &&& 0xFF, (cookie >>> 8) &&& 0xFF, (cookie >>> 16) &&& 0xFF, (cookie >>> 24) &&& 0xFF,
    id &&& 0xFF, (id >>> 8) &&& 0xFF].flatMap fun value => ascii "\\x" ++ formatByte value.toUInt8

def cronCommand (cookie : UInt32) (programId : UInt16) : CString :=
  ascii "printf '" ++ printfArgument cookie programId ++ ascii "'" ++
    ascii " | socat - UNIX-CONNECT:/var/run/redapid-cron.socket &> /dev/null\n"

-- The content of the cron file that cron_add_entry writes.
def cronContent (identifier fields : CString) (cookie : UInt32) (programId : UInt16) : CString :=
  ascii "# send schedule notifications to redapid for program " ++ identifier ++ ascii "\n" ++
    fields ++ ascii " root " ++ cronCommand cookie programId

-- printf turns each \xHH into that byte.
def printf : CString → List UInt8
  | 92 :: 120 :: high :: low :: s =>
      if isDigit 16 high ∧ isDigit 16 low then
        (16 * digitValue high + digitValue low).toUInt8 :: printf s
      else 92 :: printf (120 :: high :: low :: s)
  | byte :: s => byte :: printf s
  | [] => []

-- What the command sends to socat: its argument stands between the first two apostrophes.
def commandOutput (command : CString) : List UInt8 :=
  printf (((command.dropWhile (· ≠ 39)).drop 1).takeWhile (· ≠ 39))

end Command

section Table

variable {Notify Data : Type*}

structure Entry (Notify Data : Type*) where
  programId : UInt16
  notify : Notify
  opaqueData : Data

-- The static variables of cron.c.
structure Table (Notify Data : Type*) where
  cookie : UInt32
  entries : List (Entry Notify Data)

-- Calls of a notify function and of unlink.
inductive Call (Notify Data : Type*) where
  | notify (function : Notify) (opaqueData : Data)
  | unlink (filename : CString)

def cronFormatFilename (programId : UInt16) : CString :=
  ascii "/etc/cron.d/redapid-schedule-program-" ++ decimal programId.toNat

def cronRemoveFile (programId : UInt16) : List (Call Notify Data) :=
  [.unlink (cronFormatFilename programId)]

def cronHandleNotification (notification : CronNotification) (table : Table Notify Data) :
    List (Call Notify Data) :=
  if notification.cookie ≠ table.cookie then cronRemoveFile notification.programId
  else
    match table.entries.find? (·.programId = notification.programId) with
    | some entry => [.notify entry.notify entry.opaqueData]
    | none => cronRemoveFile notification.programId

end Table

section Socat

structure Socat where
  disconnected : Bool
  notification : Block
  notificationUsed : Nat

-- What socket_receive returns.
inductive Received where
  | data (bytes : List UInt8)
  | closedByPeer
  | interrupted
  | wouldBlock
  | failed

-- The struct of a new connection holds arbitrary bytes.
def socatCreate (memory : Nat → UInt8) : Socat :=
  ⟨false, Block.malloc memory sizeofCronNotification, 0⟩

-- The notification is passed on to cron_handle_notification.
def socatHandleReceive (received : Received) (socat : Socat) : Option CronNotification × Socat :=
  match received with
  | .closedByPeer | .failed => (none, { socat with disconnected := true })
  | .interrupted | .wouldBlock => (none, socat)
  | .data bytes =>
      let socat :=
        { socat with
          notification := socat.notification.writeAll socat.notificationUsed bytes
          notificationUsed := socat.notificationUsed + bytes.length }
      -- wait for complete request
      if socat.notificationUsed < sizeofCronNotification then (none, socat)
      else
        let (bytes, notification) := socat.notification.read 0 sizeofCronNotification
        (some (.ofMemory bytes), { socat with notification, disconnected := true })

end Socat

section Connection

variable {Notify Data : Type*}

-- What a readable socket does with the next call of recv.
inductive Poll where
  | data (size : ℕ+)
  | interrupted
  | wouldBlock
  | failed

-- At most `room` bytes are taken off the stream that the peer sends before it closes the
-- connection.
def socketReceive (poll : Poll) (room : Nat) (unread : List UInt8) : Received × List UInt8 :=
  match poll with
  | .interrupted => (.interrupted, unread)
  | .wouldBlock => (.wouldBlock, unread)
  | .failed => (.failed, unread)
  | .data size =>
      if unread = [] then (.closedByPeer, unread)
      else (.data (unread.take (min size room)), unread.drop (min size room))

-- A connection from socat, and what has become of its notification. No program reads
-- `notifications` and `calls`.
structure Connection (Notify Data : Type*) where
  table : Table Notify Data
  socat : Option Socat
  unread : List UInt8
  notifications : List CronNotification
  calls : List (Call Notify Data)

-- The socket is readable, or something else changes the table.
inductive Event (Notify Data : Type*) where
  | receive (poll : Poll)
  | change (entries : List (Entry Notify Data))

def connect (memory : Nat → UInt8) (table : Table Notify Data) (stream : List UInt8) :
    Connection Notify Data :=
  ⟨table, some (socatCreate memory), stream, [], []⟩

-- network_cleanup_brickd_and_socats destroys a disconnected Socat before the next event.
def Connection.next (connection : Connection Notify Data) (event : Event Notify Data) :
    Connection Notify Data :=
  match event with
  | .change entries => { connection with table := { connection.table with entries } }
  | .receive poll =>
      match connection.socat with
      | none => connection
      | some socat =>
          let (received, unread) := socketReceive poll
            (sizeofCronNotification - socat.notificationUsed) connection.unread
          let (notification, socat) := socatHandleReceive received socat
          { connection with
            socat := if socat.disconnected then none else some socat
            unread
            notifications := connection.notifications ++ notification.toList
            calls := connection.calls ++
              notification.toList.flatMap (cronHandleNotification · connection.table) }

def Connection.run (connection : Connection Notify Data) (events : List (Event Notify Data)) :
    Connection Notify Data :=
  events.foldl Connection.next connection

end Connection

end RedApid.Cron
