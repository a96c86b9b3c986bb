import RedApid.Cron.Basic

namespace RedApid.Cron

open Memory ByteStream

section Command

theorem digitValue_hexadecimalDigit {d : Nat} (h : d < 16) :
    digitValue (hexadecimalDigit d) = d := by
  interval_cases d <;> rfl

theorem isDigit_hexadecimalDigit {d : Nat} (h : d < 16) : isDigit 16 (hexadecimalDigit d) := by
  simp [isDigit, digitValue_hexadecimalDigit h, h]

theorem hexadecimalDigit_ne {d : Nat} (h : d < 16) : hexadecimalDigit d ≠ 39 := by
  interval_cases d <;> decide

theorem printf_formatByte (byte : UInt8) (s : CString) :
    printf (ascii "\\x" ++ formatByte byte ++ s) = byte :: printf s := by
  have hlt := byte.toNat_lt
  have hhigh : byte.toNat / 16 < 16 := by omega
  have hlow : byte.toNat % 16 < 16 := by omega
  have hvalue : 16 * (byte.toNat / 16) + byte.toNat % 16 = byte.toNat := by omega
  have hstart : ascii "\\x" = [92, 120] := rfl
  simp only [hstart, formatByte, List.cons_append, List.nil_append, printf,
    isDigit_hexadecimalDigit hhigh, isDigit_hexadecimalDigit hlow, and_self, if_true,
    digitValue_hexadecimalDigit hhigh, digitValue_hexadecimalDigit hlow, hvalue]
  simp

theorem printf_formatBytes (values : List UInt32) :
    printf (values.flatMap fun value => ascii "\\x" ++ formatByte value.toUInt8) =
      values.map UInt32.toUInt8 := by
  induction values with
  | nil => rfl
  | cons value values ih => rw [List.flatMap_cons, printf_formatByte, ih, List.map_cons]

-- The argument needs no quoting.
theorem printfArgument_noApostrophe (cookie : UInt32) (programId : UInt16) :
    ∀ byte ∈ printfArgument cookie programId, byte ≠ 39 := by
  intro byte hbyte
  obtain ⟨value, -, hbyte⟩ := List.mem_flatMap.mp hbyte
  have hstart : ascii "\\x" = [92, 120] := rfl
  have hlt := value.toUInt8.toNat_lt
  simp only [hstart, formatByte, List.cons_append, List.nil_append, List.mem_cons,
    List.not_mem_nil, or_false] at hbyte
  rcases hbyte with rfl | rfl | rfl | rfl
  · decide
  · decide
  · exact hexadecimalDigit_ne (by omega)
  · exact hexadecimalDigit_ne (by omega)

theorem toUInt8_mask (value : UInt32) : (value &&& 0xFF).toUInt8 = value.toNat.toUInt8 := by
  apply UInt8.toNat_inj.mp
  have hmask : (0xFF : UInt32).toNat = 2 ^ 8 - 1 := rfl
  rw [UInt32.toNat_toUInt8, UInt32.toNat_and, hmask, Nat.and_two_pow_sub_one_eq_mod, Nat.mod_mod]
  exact UInt8.toNat_ofNat'.symm

theorem toNat_shift (value : UInt32) {k : Nat} (hk : k < 32) :
    (value >>> UInt32.ofNat k).toNat = value.toNat / 2 ^ k := by
  rw [UInt32.toNat_shiftRight, UInt32.toNat_ofNat', Nat.mod_eq_of_lt (show k < 2 ^ 32 by omega),
    Nat.mod_eq_of_lt hk, Nat.shiftRight_eq_div_pow]

-- The shifts and masks of cron_add_entry write both numbers in the byte order of the host.
theorem printf_printfArgument (cookie : UInt32) (programId : UInt16) :
    printf (printfArgument cookie programId) =
      bytesOf 4 cookie.toNat ++ bytesOf 2 programId.toNat := by
  unfold printfArgument
  rw [printf_formatBytes]
  have h8 (value : UInt32) : (value >>> 8).toNat = value.toNat / 256 :=
    toNat_shift value (show 8 < 32 by omega)
  have h16 : (cookie >>> 16).toNat = cookie.toNat / 256 / 256 := by
    rw [Nat.div_div_eq_div_mul]
    exact toNat_shift cookie (show 16 < 32 by omega)
  have h24 : (cookie >>> 24).toNat = cookie.toNat / 256 / 256 / 256 := by
    rw [Nat.div_div_eq_div_mul, Nat.div_div_eq_div_mul]
    exact toNat_shift cookie (show 24 < 32 by omega)
  simp only [List.map_cons, List.map_nil, bytesOf, List.cons_append, List.nil_append,
    toUInt8_mask, h8, h16, h24, UInt16.toNat_toUInt32]

-- What cron starts sends the six bytes of the packed struct.
theorem commandOutput_cronCommand (cookie : UInt32) (programId : UInt16) :
    commandOutput (cronCommand cookie programId) =
      bytesOf 4 cookie.toNat ++ bytesOf 2 programId.toNat := by
  have hstart : ascii "printf '" = [112, 114, 105, 110, 116, 102, 32, 39] := rfl
  have hall : ∀ byte ∈ printfArgument cookie programId, (byte ≠ 39 : Bool) := fun byte hbyte =>
    decide_eq_true (printfArgument_noApostrophe cookie programId byte hbyte)
  have hend : ascii "'" = [39] := rfl
  have hquoted : ((cronCommand cookie programId).dropWhile (· ≠ 39)).drop 1 =
      printfArgument cookie programId ++
        39 :: ascii " | socat - UNIX-CONNECT:/var/run/redapid-cron.socket &> /dev/null\n" := by
    simp [cronCommand, hstart, hend, List.dropWhile]
  rw [commandOutput, hquoted, List.takeWhile_append_of_pos hall,
    List.takeWhile_cons_of_neg (by simp), List.append_nil, printf_printfArgument]

example : printf (printfArgument 0x0A0B0C0D 5) = [0x0D, 0x0C, 0x0B, 0x0A, 5, 0] := by
  decide

theorem ofMemory_bytesOf (cookie : UInt32) (programId : UInt16) :
    CronNotification.ofMemory (bytesOf 4 cookie.toNat ++ bytesOf 2 programId.toNat) =
      ⟨cookie, programId⟩ := by
  have hcookie : cookie.toNat % 256 ^ 4 = cookie.toNat := Nat.mod_eq_of_lt cookie.toNat_lt
  have hid : programId.toNat % 256 ^ 2 = programId.toNat := Nat.mod_eq_of_lt programId.toNat_lt
  have htake : (bytesOf 4 cookie.toNat ++ bytesOf 2 programId.toNat).take 4 =
      bytesOf 4 cookie.toNat := List.take_left' (bytesOf_length 4 _)
  have hdrop : (bytesOf 4 cookie.toNat ++ bytesOf 2 programId.toNat).drop 4 =
      bytesOf 2 programId.toNat := List.drop_left' (bytesOf_length 4 _)
  have hlast : (bytesOf 2 programId.toNat).take 2 = bytesOf 2 programId.toNat :=
    List.take_of_length_le (Nat.le_of_eq (bytesOf_length 2 _))
  simp only [CronNotification.ofMemory, htake, hdrop, hlast, littleEndian_bytesOf, hcookie, hid,
    UInt32.ofNat_toNat, UInt16.ofNat_toNat]

end Command

section Delivery

variable {Notify Data : Type*}

-- The number of bytes that socket_receive may have returned, if the stream is long enough.
def offered : List (Event Notify Data) → Nat
  | [] => 0
  | .change _ :: events => offered events
  | .receive (.data size) :: events => size + offered events
  | .receive .interrupted :: events => offered events
  | .receive .wouldBlock :: events => offered events
  | .receive .failed :: _ => 0

theorem offered_le_cons (event : Event Notify Data) (events : List (Event Notify Data)) :
    offered [event] ≤ offered (event :: events) := by
  cases event with
  | change entries => exact Nat.zero_le _
  | receive poll =>
      cases poll with
      | data size => simp only [offered]; omega
      | interrupted => exact Nat.zero_le _
      | wouldBlock => exact Nat.zero_le _
      | failed => exact Nat.zero_le _

-- The event with which `count` bytes are complete.
theorem offered_split {count : Nat} (hcount : 0 < count) {events : List (Event Notify Data)}
    (h : count ≤ offered events) :
    ∃ before event after, events = before ++ event :: after ∧
      offered before < count ∧ count ≤ offered (before ++ [event]) := by
  induction events generalizing count with
  | nil =>
      simp only [offered] at h
      omega
  | cons event events ih =>
      have hskip (hsame : ∀ events, offered (event :: events) = offered events) :
          ∃ before last after, event :: events = before ++ last :: after ∧
            offered before < count ∧ count ≤ offered (before ++ [last]) := by
        rw [hsame] at h
        obtain ⟨before, last, after, rfl, hbefore, hlast⟩ := ih hcount h
        exact ⟨event :: before, last, after, rfl, by rw [hsame]; exact hbefore,
          by rw [List.cons_append, hsame]; exact hlast⟩
      cases event with
      | change entries => exact hskip fun _ => rfl
      | receive poll =>
          cases poll with
          | interrupted => exact hskip fun _ => rfl
          | wouldBlock => exact hskip fun _ => rfl
          | failed =>
              simp only [offered] at h
              omega
          | data size =>
              by_cases hfirst : count ≤ size
              · exact ⟨[], .receive (.data size), events, rfl, hcount, hfirst⟩
              · simp only [offered] at h
                obtain ⟨before, last, after, rfl, hbefore, hlast⟩ :=
                  @ih (count - size) (by omega) (by omega)
                refine ⟨.receive (.data size) :: before, last, after, rfl, ?_, ?_⟩
                · simp only [offered]
                  omega
                · simp only [List.cons_append, offered]
                  omega

-- The table after the changes among the events.
def changed (entries : List (Entry Notify Data)) : List (Event Notify Data) →
    List (Entry Notify Data)
  | [] => entries
  | .change entries :: events => changed entries events
  | .receive _ :: events => changed entries events

-- A connection that is up and has received `used` bytes of the stream.
structure Connection.Waiting (stream : List UInt8) (used : Nat)
    (connection : Connection Notify Data) : Prop where
  socat : ∃ socat, connection.socat = some socat ∧ socat.disconnected = false ∧
    socat.notificationUsed = used ∧ socat.notification.text used = stream.take used
  short : used < sizeofCronNotification
  le : used ≤ stream.length
  unread : connection.unread = stream.drop used
  notifications : connection.notifications = []
  calls : connection.calls = []

-- A connection that is closed with these notifications and calls.
structure Connection.Closed (notifications : List CronNotification)
    (calls : List (Call Notify Data)) (connection : Connection Notify Data) : Prop where
  socat : connection.socat = none
  notifications : connection.notifications = notifications
  calls : connection.calls = calls

namespace Connection

variable {stream : List UInt8} {used : Nat} {connection : Connection Notify Data}

theorem connect_waiting (memory : Nat → UInt8) (table : Table Notify Data)
    (stream : List UInt8) : (connect memory table stream).Waiting stream 0 where
  socat := ⟨socatCreate memory, rfl, rfl, rfl, rfl⟩
  short := by decide
  le := Nat.zero_le _
  unread := rfl
  notifications := rfl
  calls := rfl

theorem Closed.next {notifications : List CronNotification} {calls : List (Call Notify Data)}
    (h : connection.Closed notifications calls) (event : Event Notify Data) :
    (connection.next event).Closed notifications calls := by
  cases event with
  | change entries => exact ⟨h.socat, h.notifications, h.calls⟩
  | receive poll =>
      have hsame : connection.next (.receive poll) = connection := by
        simp [Connection.next, h.socat]
      rw [hsame]
      exact h

theorem Closed.run {notifications : List CronNotification} {calls : List (Call Notify Data)}
    (h : connection.Closed notifications calls) (events : List (Event Notify Data)) :
    (connection.run events).Closed notifications calls := by
  induction events generalizing connection with
  | nil => exact h
  | cons event events ih => exact ih (h.next event)

theorem Waiting.change (h : connection.Waiting stream used)
    (entries : List (Entry Notify Data)) :
    (connection.next (.change entries)).Waiting stream used :=
  ⟨h.socat, h.short, h.le, h.unread, h.notifications, h.calls⟩

-- The bytes of the stream that the next call of recv with room for `count` bytes gets.
theorem take_append_piece (stream : List UInt8) (used count : Nat) :
    stream.take used ++ (stream.drop used).take count =
      stream.take (used + min count (stream.length - used)) := by
  rw [List.take_add]
  congr 1
  rcases Nat.le_total count (stream.length - used) with hle | hle
  · rw [Nat.min_eq_left hle]
  · rw [Nat.min_eq_right hle, List.take_of_length_le (by simpa using hle),
      List.take_of_length_le (by simp)]

theorem drop_piece (stream : List UInt8) (used count : Nat) :
    (stream.drop used).drop count = stream.drop (used + min count (stream.length - used)) := by
  rw [List.drop_drop]
  rcases Nat.le_total count (stream.length - used) with hle | hle
  · rw [Nat.min_eq_left hle]
  · rw [Nat.min_eq_right hle, List.drop_of_length_le (by omega), List.drop_of_length_le (by omega)]

-- One receive event, from the results of the two functions that it calls.
theorem next_receive {socat socat' : Socat} {poll : Poll} {received : Received}
    {unread : List UInt8} {notification : Option CronNotification}
    (hsocat : connection.socat = some socat)
    (hreceive : socketReceive poll (sizeofCronNotification - socat.notificationUsed)
      connection.unread = (received, unread))
    (hhandle : socatHandleReceive received socat = (notification, socat')) :
    connection.next (.receive poll) =
      { connection with
        socat := if socat'.disconnected then none else some socat'
        unread
        notifications := connection.notifications ++ notification.toList
        calls := connection.calls ++
          notification.toList.flatMap (cronHandleNotification · connection.table) } := by
  simp only [next, hsocat, hreceive, hhandle]

theorem socketReceive_data {unread : List UInt8} (h : unread ≠ []) (size : ℕ+) (room : Nat) :
    socketReceive (.data size) room unread =
      (.data (unread.take (min size room)), unread.drop (min size room)) := by
  simp [socketReceive, h]

theorem socatHandleReceive_short {socat : Socat} {bytes : List UInt8}
    (h : socat.notificationUsed + bytes.length < sizeofCronNotification) :
    socatHandleReceive (.data bytes) socat =
      (none, ⟨socat.disconnected, socat.notification.writeAll socat.notificationUsed bytes,
        socat.notificationUsed + bytes.length⟩) := by
  simp [socatHandleReceive, h]

theorem socatHandleReceive_complete (socat : Socat) (bytes : List UInt8)
    (h : socat.notificationUsed + bytes.length = sizeofCronNotification) :
    ∃ socat', socat'.disconnected = true ∧
      socatHandleReceive (.data bytes) socat =
        (some (.ofMemory ((socat.notification.writeAll socat.notificationUsed bytes).read 0
          sizeofCronNotification).1), socat') := by
  let notification := socat.notification.writeAll socat.notificationUsed bytes
  refine ⟨⟨true, (notification.read 0 sizeofCronNotification).2, sizeofCronNotification⟩, rfl, ?_⟩
  simp only [socatHandleReceive, h, Nat.lt_irrefl, if_false, notification]

-- A call of recv that returns nothing and leaves the connection up.
theorem Waiting.retry (h : connection.Waiting stream used) {poll : Poll}
    (hpoll : poll = .interrupted ∨ poll = .wouldBlock) :
    (connection.next (.receive poll)).Waiting stream used := by
  obtain ⟨socat, hsocat, hup, hused, htext⟩ := h.socat
  have hnext : connection.next (.receive poll) =
      { connection with
        socat := some socat
        notifications := connection.notifications ++ []
        calls := connection.calls ++ [] } := by
    rcases hpoll with rfl | rfl
    · rw [next_receive hsocat rfl rfl, hup]
      rfl
    · rw [next_receive hsocat rfl rfl, hup]
      rfl
  rw [hnext, List.append_nil, List.append_nil]
  exact ⟨⟨socat, rfl, hup, hused, htext⟩, h.short, h.le, h.unread, h.notifications, h.calls⟩

-- A call of recv that ends the connection.
theorem Waiting.hangUp (h : connection.Waiting stream used) {poll : Poll}
    (hpoll : poll = .failed ∨ stream.length = used ∧ ∃ size, poll = .data size) :
    (connection.next (.receive poll)).Closed [] [] := by
  obtain ⟨socat, hsocat, -⟩ := h.socat
  rcases hpoll with rfl | ⟨hend, size, rfl⟩
  · rw [next_receive hsocat rfl rfl]
    exact ⟨rfl, by simp [h.notifications], by simp [h.calls]⟩
  · have hunread : connection.unread = [] := by
      rw [h.unread, ← hend, List.drop_length]
    have hreceive (room : Nat) :
        socketReceive (.data size) room connection.unread = (.closedByPeer, connection.unread) := by
      simp [socketReceive, hunread]
    rw [next_receive hsocat (hreceive _) rfl]
    exact ⟨rfl, by simp [h.notifications], by simp [h.calls]⟩

-- The struct after the next piece of the stream.
theorem Waiting.piece (h : connection.Waiting stream used) {socat : Socat}
    (htext : socat.notification.text used = stream.take used) (count : Nat) :
    (socat.notification.writeAll used (connection.unread.take count)).text
        (used + (connection.unread.take count).length) =
      stream.take (used + (connection.unread.take count).length) := by
  rw [Block.writeAll_text, htext, h.unread, take_append_piece]
  simp

theorem Waiting.more (h : connection.Waiting stream used) (hmore : used < stream.length)
    (size : ℕ+)
    (hshort : used + size < sizeofCronNotification ∨ stream.length < sizeofCronNotification) :
    (connection.next (.receive (.data size))).Waiting stream
      (min (used + size) stream.length) := by
  obtain ⟨socat, hsocat, hup, hused, htext⟩ := h.socat
  have hused' := h.short
  have hpos := size.pos
  have hunread : ¬ connection.unread = [] := by
    rw [h.unread, List.drop_eq_nil_iff]
    omega
  let count := min (size : Nat) (sizeofCronNotification - used)
  have hlength : used + (connection.unread.take count).length =
      min (used + size) stream.length := by
    simp only [count, h.unread, List.length_take, List.length_drop]
    omega
  have hwritten := h.piece htext count
  rw [hlength] at hwritten
  have hwait : min (used + size) stream.length < sizeofCronNotification := by omega
  have hfits : socat.notificationUsed + (connection.unread.take count).length <
      sizeofCronNotification := by omega
  have hreceive := socketReceive_data hunread size (sizeofCronNotification - socat.notificationUsed)
  rw [hused] at hreceive
  rw [next_receive hsocat (by rw [hused]; exact hreceive) (socatHandleReceive_short hfits)]
  simp only [hup, Bool.false_eq_true, if_false, Option.toList_none, List.append_nil,
    List.flatMap_nil, hused, hlength]
  refine ⟨⟨_, rfl, rfl, rfl, hwritten⟩, hwait, by omega, ?_, h.notifications, h.calls⟩
  simp only [h.unread, List.length_take, List.length_drop] at hlength
  change connection.unread.drop count = _
  rw [h.unread, drop_piece, hlength]

theorem Waiting.complete (h : connection.Waiting stream used) (size : ℕ+)
    (hsize : sizeofCronNotification ≤ used + size)
    (hlong : sizeofCronNotification ≤ stream.length) :
    let notification := CronNotification.ofMemory (stream.take sizeofCronNotification)
    (connection.next (.receive (.data size))).Closed [notification]
      (cronHandleNotification notification connection.table) := by
  obtain ⟨socat, hsocat, hup, hused, htext⟩ := h.socat
  have hused' := h.short
  have hunread : ¬ connection.unread = [] := by
    rw [h.unread, List.drop_eq_nil_iff]
    omega
  have hcount : min (size : Nat) (sizeofCronNotification - used) = sizeofCronNotification - used := by
    omega
  have hlength : used + (connection.unread.take (sizeofCronNotification - used)).length =
      sizeofCronNotification := by
    simp only [h.unread, List.length_take, List.length_drop]
    omega
  have hwritten := h.piece htext (sizeofCronNotification - used)
  rw [hlength] at hwritten
  have hread := Block.read_eq (socat.notification.writeAll used
    (connection.unread.take (sizeofCronNotification - used))) 0 sizeofCronNotification
    sizeofCronNotification (by omega)
  rw [hwritten, List.drop_zero, List.take_take, Nat.min_self] at hread
  have hreceive := socketReceive_data hunread size (sizeofCronNotification - socat.notificationUsed)
  rw [hused, hcount] at hreceive
  obtain ⟨socat', hdown, hhandle⟩ := socatHandleReceive_complete socat
    (connection.unread.take (sizeofCronNotification - used)) (by rw [hused]; exact hlength)
  rw [hused, hread] at hhandle
  rw [next_receive hsocat (by rw [hused]; exact hreceive) hhandle, hdown]
  exact ⟨rfl, by simp [h.notifications], by simp [h.calls]⟩

-- A stream that is too short for a notification.
theorem Waiting.run_short {events : List (Event Notify Data)} (h : connection.Waiting stream used)
    (hshort : stream.length < sizeofCronNotification) :
    (connection.run events).notifications = [] ∧ (connection.run events).calls = [] := by
  induction events generalizing connection used with
  | nil => exact ⟨h.notifications, h.calls⟩
  | cons event events ih =>
      have hclosed (hnext : (connection.next event).Closed [] []) :
          (connection.run (event :: events)).notifications = [] ∧
            (connection.run (event :: events)).calls = [] :=
        ⟨(hnext.run events).notifications, (hnext.run events).calls⟩
      cases event with
      | change entries => exact ih (h.change entries)
      | receive poll =>
          cases poll with
          | interrupted => exact ih (h.retry (Or.inl rfl))
          | wouldBlock => exact ih (h.retry (Or.inr rfl))
          | failed => exact hclosed (h.hangUp (Or.inl rfl))
          | data size =>
              by_cases hend : stream.length = used
              · exact hclosed (h.hangUp (Or.inr ⟨hend, size, rfl⟩))
              · have hle := h.le
                exact ih (h.more (by omega) size (Or.inr hshort))

-- One event that does not complete the notification.
theorem Waiting.next (h : connection.Waiting stream used)
    (hlong : sizeofCronNotification ≤ stream.length) (event : Event Notify Data)
    (hmore : used + offered [event] < sizeofCronNotification) :
    (connection.next event).Waiting stream (used + offered [event]) ∧
        (∀ events, offered (event :: events) = offered [event] + offered events) ∨
      (connection.next event).Closed [] [] ∧ ∀ events, offered (event :: events) = 0 := by
  cases event with
  | change entries => exact Or.inl ⟨h.change entries, fun _ => (Nat.zero_add _).symm⟩
  | receive poll =>
      cases poll with
      | interrupted => exact Or.inl ⟨h.retry (Or.inl rfl), fun _ => (Nat.zero_add _).symm⟩
      | wouldBlock => exact Or.inl ⟨h.retry (Or.inr rfl), fun _ => (Nat.zero_add _).symm⟩
      | failed => exact Or.inr ⟨h.hangUp (Or.inl rfl), fun _ => rfl⟩
      | data size =>
          have hused := h.short
          have hnext := h.more (by omega) size (Or.inl hmore)
          change used + size < sizeofCronNotification at hmore
          rw [Nat.min_eq_left (by omega)] at hnext
          exact Or.inl ⟨hnext, fun _ => rfl⟩

-- The event that completes the notification.
theorem Waiting.last (h : connection.Waiting stream used)
    (hlong : sizeofCronNotification ≤ stream.length) {event : Event Notify Data}
    (hlast : sizeofCronNotification ≤ used + offered [event]) :
    let notification := CronNotification.ofMemory (stream.take sizeofCronNotification)
    (connection.next event).Closed [notification]
      (cronHandleNotification notification connection.table) := by
  have hshort := h.short
  have hnone (hzero : offered [event] = 0) : False := by omega
  cases event with
  | change entries => exact (hnone rfl).elim
  | receive poll =>
      cases poll with
      | interrupted => exact (hnone rfl).elim
      | wouldBlock => exact (hnone rfl).elim
      | failed => exact (hnone rfl).elim
      | data size => exact h.complete size hlast hlong

theorem next_receive_table (connection : Connection Notify Data) (poll : Poll) :
    (connection.next (.receive poll)).table = connection.table := by
  unfold Connection.next
  cases connection.socat with
  | none => rfl
  | some socat => rfl

theorem run_table (connection : Connection Notify Data) (events : List (Event Notify Data)) :
    (connection.run events).table =
      ⟨connection.table.cookie, changed connection.table.entries events⟩ := by
  induction events generalizing connection with
  | nil => rfl
  | cons event events ih =>
      cases event with
      | change entries => exact ih (connection.next (.change entries))
      | receive poll =>
          have hrun := ih (connection.next (.receive poll))
          rw [next_receive_table] at hrun
          exact hrun

theorem Waiting.run_waiting {events : List (Event Notify Data)} (h : connection.Waiting stream used)
    (hlong : sizeofCronNotification ≤ stream.length)
    (hmore : used + offered events < sizeofCronNotification) :
    (connection.run events).notifications = [] ∧ (connection.run events).calls = [] := by
  induction events generalizing connection used with
  | nil => exact ⟨h.notifications, h.calls⟩
  | cons event events ih =>
      have hle := offered_le_cons event events
      rcases h.next hlong event (by omega) with ⟨hnext, hoffered⟩ | ⟨hnext, -⟩
      · have hevents := hoffered events
        exact ih hnext (by omega)
      · exact ⟨(hnext.run events).notifications, (hnext.run events).calls⟩

-- A stream that is long enough is passed on with the event that completes the notification.
theorem Waiting.run_complete {before : List (Event Notify Data)} {event : Event Notify Data}
    (h : connection.Waiting stream used) (after : List (Event Notify Data)) (hlong : sizeofCronNotification ≤ stream.length)
    (hbefore : used + offered before < sizeofCronNotification)
    (hlast : sizeofCronNotification ≤ used + offered (before ++ [event])) :
    let notification := CronNotification.ofMemory (stream.take sizeofCronNotification)
    (connection.run (before ++ event :: after)).Closed [notification]
      (cronHandleNotification notification (connection.run before).table) := by
  intro notification
  induction before generalizing connection used with
  | nil => exact (h.last hlong hlast).run after
  | cons first before ih =>
      have hle := offered_le_cons first before
      rcases h.next hlong first (by omega) with ⟨hnext, hoffered⟩ | ⟨hnext, hoffered⟩
      · have hrest := hoffered before
        have hthere := hoffered (before ++ [event])
        rw [List.cons_append] at hlast
        exact ih hnext (by omega) (by omega)
      · have hthere := hoffered (before ++ [event])
        have hshort := h.short
        rw [List.cons_append] at hlast
        omega

end Connection

-- The call that a notification is answered with.
theorem cronHandleNotification_known (table : Table Notify Data)
    (notification : CronNotification) (hcookie : notification.cookie = table.cookie)
    (hknown : ∃ entry ∈ table.entries, entry.programId = notification.programId) :
    ∃ earlier entry later, table.entries = earlier ++ entry :: later ∧
      (∀ other ∈ earlier, other.programId ≠ notification.programId) ∧
      entry.programId = notification.programId ∧
      cronHandleNotification notification table = [.notify entry.notify entry.opaqueData] := by
  obtain ⟨entry, hmem, hid⟩ := hknown
  cases hfind : table.entries.find? (·.programId = notification.programId) with
  | none =>
      have hnone := List.find?_eq_none.mp hfind entry hmem
      simp [hid] at hnone
  | some found =>
      obtain ⟨hfound, earlier, later, hentries, hearlier⟩ := List.find?_eq_some_iff_append.mp hfind
      refine ⟨earlier, found, later, hentries, fun other hother => ?_, by simpa using hfound, ?_⟩
      · simpa using hearlier other hother
      · simp only [cronHandleNotification, hcookie, ne_eq, not_true_eq_false, if_false, hfind]

theorem cronHandleNotification_unknown (table : Table Notify Data)
    (notification : CronNotification)
    (hunknown : ¬ (notification.cookie = table.cookie ∧
      ∃ entry ∈ table.entries, entry.programId = notification.programId)) :
    cronHandleNotification notification table =
      [.unlink (cronFormatFilename notification.programId)] := by
  unfold cronHandleNotification
  by_cases hcookie : notification.cookie = table.cookie
  · have hnone : table.entries.find? (·.programId = notification.programId) = none := by
      rw [List.find?_eq_none]
      intro entry hmem hid
      exact hunknown ⟨hcookie, entry, hmem, by simpa using hid⟩
    rw [if_neg (not_not_intro hcookie), hnone]
    rfl
  · rw [if_pos hcookie]
    rfl

theorem cronFormatFilename_injective : Function.Injective cronFormatFilename := by
  intro first second h
  have hdecimal := List.append_cancel_left h
  exact UInt16.toNat_inj.mp (decimal_injective hdecimal)

-- A stream that starts with what cron sends.
theorem received_bytes (memory : Nat → UInt8) (table : Table Notify Data) (cookie : UInt32)
    (programId : UInt16) (rest : List UInt8) :
    let connection := connect memory table (commandOutput (cronCommand cookie programId) ++ rest)
    (∀ events, offered events < 6 →
      (connection.run events).notifications = [] ∧ (connection.run events).calls = []) ∧
    ∀ before event after, offered before < 6 → 6 ≤ offered (before ++ [event]) →
      (connection.run (before ++ event :: after)).Closed [⟨cookie, programId⟩]
        (cronHandleNotification ⟨cookie, programId⟩
          ⟨table.cookie, changed table.entries before⟩) := by
  intro connection
  have hleads := commandOutput_cronCommand cookie programId
  have hlength : (commandOutput (cronCommand cookie programId)).length =
      sizeofCronNotification := by
    rw [hleads, List.length_append, bytesOf_length, bytesOf_length]
    rfl
  have hlong : sizeofCronNotification ≤
      (commandOutput (cronCommand cookie programId) ++ rest).length := by
    rw [List.length_append]
    omega
  have hdecoded : CronNotification.ofMemory ((commandOutput (cronCommand cookie programId) ++
      rest).take sizeofCronNotification) = ⟨cookie, programId⟩ := by
    rw [List.take_left' hlength, hleads, ofMemory_bytesOf]
  have hwaiting := Connection.connect_waiting memory table
    (commandOutput (cronCommand cookie programId) ++ rest)
  constructor
  · intro events hless
    exact hwaiting.run_waiting hlong (by rw [Nat.zero_add]; exact hless)
  · intro before event after hbefore hlast
    have hclosed := hwaiting.run_complete after hlong
      (by rw [Nat.zero_add]; exact hbefore) (by rw [Nat.zero_add]; exact hlast)
    rw [hdecoded, Connection.run_table] at hclosed
    exact hclosed

-- What cron starts is passed on once, however the stream is cut: to the first entry for the
-- program if the cookie is right, otherwise the file of the program is removed. What stands
-- behind the six bytes makes no difference.
theorem notification_delivered (memory : Nat → UInt8) (table : Table Notify Data)
    (cookie : UInt32) (programId : UInt16) (rest : List UInt8)
    (events : List (Event Notify Data)) :
    let last := (connect memory table (commandOutput (cronCommand cookie programId) ++ rest)).run
      events
    (offered events < 6 → last.notifications = [] ∧ last.calls = []) ∧
    (6 ≤ offered events →
      last.notifications = [⟨cookie, programId⟩] ∧
      ∃ before event after, events = before ++ event :: after ∧
        offered before < 6 ∧ 6 ≤ offered (before ++ [event]) ∧
        let entries := changed table.entries before
        (cookie = table.cookie ∧ (∃ entry ∈ entries, entry.programId = programId) →
          ∃ earlier entry later, entries = earlier ++ entry :: later ∧
            (∀ other ∈ earlier, other.programId ≠ programId) ∧ entry.programId = programId ∧
            last.calls = [.notify entry.notify entry.opaqueData]) ∧
        (¬ (cookie = table.cookie ∧ ∃ entry ∈ entries, entry.programId = programId) →
          last.calls = [.unlink (cronFormatFilename programId)])) ∧
    (∀ other, cronFormatFilename other = cronFormatFilename programId → other = programId) ∧
    (let alone := (connect memory table (commandOutput (cronCommand cookie programId))).run events
     last.notifications = alone.notifications ∧ last.calls = alone.calls) ∧
    ∀ stream : List UInt8, stream.length < 6 →
      ((connect memory table stream).run events).notifications = [] ∧
        ((connect memory table stream).run events).calls = [] := by
  intro last
  obtain ⟨hless, hcomplete⟩ := received_bytes memory table cookie programId rest
  obtain ⟨hless', hcomplete'⟩ := received_bytes memory table cookie programId []
  rw [List.append_nil] at hless' hcomplete'
  refine ⟨hless events, fun hoffered => ?_, fun other h => cronFormatFilename_injective h, ?_,
    fun stream hshort => (Connection.connect_waiting memory table stream).run_short hshort⟩
  · obtain ⟨before, event, after, rfl, hbefore, hlast⟩ := offered_split (by omega) hoffered
    have hclosed := hcomplete before event after hbefore hlast
    refine ⟨hclosed.notifications, before, event, after, rfl, hbefore, hlast, ?_, ?_⟩
    · rintro ⟨hcookie, hknown⟩
      obtain ⟨earlier, entry, later, hentries, hearlier, hid, hcall⟩ :=
        cronHandleNotification_known ⟨table.cookie, changed table.entries before⟩
          ⟨cookie, programId⟩ hcookie hknown
      exact ⟨earlier, entry, later, hentries, hearlier, hid, hclosed.calls.trans hcall⟩
    · intro hunknown
      have hcall := cronHandleNotification_unknown
        ⟨table.cookie, changed table.entries before⟩ ⟨cookie, programId⟩ hunknown
      exact hclosed.calls.trans hcall
  · by_cases hoffered : offered events < 6
    · obtain ⟨hnone, hquiet⟩ := hless events hoffered
      obtain ⟨hnone', hquiet'⟩ := hless' events hoffered
      exact ⟨hnone.trans hnone'.symm, hquiet.trans hquiet'.symm⟩
    · obtain ⟨before, event, after, rfl, hbefore, hlast⟩ :=
        offered_split (by omega) (Nat.le_of_not_lt hoffered)
      have hclosed := hcomplete before event after hbefore hlast
      have hclosed' := hcomplete' before event after hbefore hlast
      exact ⟨hclosed.notifications.trans hclosed'.notifications.symm,
        hclosed.calls.trans hclosed'.calls.symm⟩

end Delivery

end RedApid.Cron
