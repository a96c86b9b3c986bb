import RedApid.Network.Sockets
import RedApid.Memory.Text

namespace RedApid

open Memory

-- What the connections of the cron jobs have sent so far, by their sockets, without the buffers
-- that it ends up in. A connection that is not `pending` has sent its notification, or was closed.
structure CronFeed where
  accepted : Nat
  pending : ClientSocket → Option (List UInt8)

namespace CronFeed

variable {σ : Type}

def init : CronFeed := ⟨0, fun _ => none⟩

def set (socket : ClientSocket) (bytes : Option (List UInt8)) (feed : CronFeed) : CronFeed :=
  { feed with pending := Function.update feed.pending socket bytes }

-- What comes in on one connection, and the notification that it completes.
def receive (socket : ClientSocket) (received : Cron.Received) (feed : CronFeed) :
    Option Cron.CronNotification × CronFeed :=
  match feed.pending socket, received with
  | some bytes, .data more =>
      if (bytes ++ more).length < Cron.sizeofCronNotification then
        (none, feed.set socket (some (bytes ++ more)))
      else
        (some (.ofMemory ((bytes ++ more).take Cron.sizeofCronNotification)),
          feed.set socket none)
  | some _, .closedByPeer | some _, .failed => (none, feed.set socket none)
  | _, _ => (none, feed)

def next (feed : CronFeed) : NetworkEvent σ → Option Cron.CronNotification × CronFeed
  | .brickdAccept _ _ => (none, { feed with accepted := feed.accepted + 1 })
  | .cronAccept append create _ =>
      (none, if append && create then
        ⟨feed.accepted + 1, Function.update feed.pending feed.accepted (some [])⟩
      else { feed with accepted := feed.accepted + 1 })
  | .socatReceive socket received => feed.receive socket received
  | _ => (none, feed)

def after (feed : CronFeed) (events : List (NetworkEvent σ)) : CronFeed :=
  events.foldl (fun feed event => (feed.next event).2) feed

-- The notifications that have come in completely, in their order.
def notifications (feed : CronFeed) : List (NetworkEvent σ) → List Cron.CronNotification
  | [] => []
  | event :: events =>
      (feed.next event).1.toList ++ (feed.next event).2.notifications events

theorem notifications_append (feed : CronFeed) (events more : List (NetworkEvent σ)) :
    feed.notifications (events ++ more) =
      feed.notifications events ++ (feed.after events).notifications more := by
  induction events generalizing feed with
  | nil => rfl
  | cons event events ih =>
      rw [List.cons_append, notifications, ih, notifications, List.append_assoc]
      rfl

theorem after_append (feed : CronFeed) (events more : List (NetworkEvent σ)) :
    feed.after (events ++ more) = (feed.after events).after more := List.foldl_append

end CronFeed

namespace Network

variable {σ : Type} {daemon : Daemon σ} {network : Network σ} {feed : CronFeed}

-- The bytes in the buffer of a socat.
def socatText (entry : ClientSocket × Cron.Socat) : List UInt8 :=
  entry.2.notification.text entry.2.notificationUsed

-- The buffers hold what the feed tells.
structure Feeds (network : Network σ) (feed : CronFeed) : Prop where
  accepted : network.accepted = feed.accepted
  pending : ∀ socket, feed.pending socket =
    (network.socats.find? (·.1 = socket)).map socatText

section Entries

variable {entries : List (ClientSocket × Cron.Socat)} {socket : ClientSocket} {socat : Cron.Socat}

theorem find?_replace (entries : List (ClientSocket × Cron.Socat)) (socket other : ClientSocket)
    (socat : Cron.Socat) :
    (entries.map fun entry => if entry.1 = socket then (socket, socat) else entry).find?
        (·.1 = other) =
      if other = socket then (entries.find? (·.1 = socket)).map fun _ => (socket, socat)
      else entries.find? (·.1 = other) := by
  induction entries with
  | nil => simp
  | cons entry entries ih =>
      rw [List.map_cons, List.find?_cons, List.find?_cons, List.find?_cons, ih]
      by_cases hentry : entry.1 = socket
      · by_cases hother : other = socket
        · simp [hentry, hother]
        · simp [hentry, hother, Ne.symm hother]
      · by_cases hother : other = socket
        · simp [hentry, hother]
        · simp [hentry, hother]

-- A socat that disconnects goes away, all others stay.
theorem find?_cleaned (hclean : ∀ entry ∈ entries, entry.2.disconnected = false)
    (socket other : ClientSocket) (socat : Cron.Socat) :
    ((entries.map fun entry => if entry.1 = socket then (socket, socat) else entry).filter
        fun entry => !entry.2.disconnected).find? (·.1 = other) =
      if other = socket then
        if socat.disconnected then none
        else (entries.find? (·.1 = socket)).map fun _ => (socket, socat)
      else entries.find? (·.1 = other) := by
  cases hdown : socat.disconnected with
  | false =>
      have hkept : (entries.map fun entry => if entry.1 = socket then (socket, socat) else entry).filter
          (fun entry => !entry.2.disconnected) =
          entries.map fun entry => if entry.1 = socket then (socket, socat) else entry := by
        refine List.filter_eq_self.mpr fun entry hentry => ?_
        obtain ⟨before, hbefore, rfl⟩ := List.mem_map.mp hentry
        split_ifs
        · rw [hdown]
          rfl
        · rw [hclean before hbefore]
          rfl
      rw [hkept, find?_replace, if_neg Bool.false_ne_true]
  | true =>
      rw [if_pos rfl]
      induction entries with
      | nil => simp
      | cons entry entries ih =>
          have hrest := ih fun other hother => hclean other (List.mem_cons_of_mem entry hother)
          by_cases hentry : entry.1 = socket
          · rw [List.map_cons, if_pos hentry, List.filter_cons_of_neg (by simp [hdown]), hrest]
            by_cases hother : other = socket
            · rw [if_pos hother, if_pos hother]
            · rw [if_neg hother, if_neg hother, List.find?_cons_of_neg (by simp [hentry, Ne.symm hother])]
          · rw [List.map_cons, if_neg hentry,
              List.filter_cons_of_pos (by simp [hclean entry List.mem_cons_self]), List.find?_cons,
              List.find?_cons, hrest]
            by_cases hother : other = socket
            · rw [if_pos hother, if_pos hother]
              simp [hother, hentry]
            · rw [if_neg hother, if_neg hother]

end Entries

theorem networkCleanup_socats (network : Network σ) :
    network.networkCleanupBrickdAndSocats.socats =
        network.socats.filter (fun entry => !entry.2.disconnected) ∧
      network.networkCleanupBrickdAndSocats.accepted = network.accepted := by
  have hsame : network.cleanupBrickd.socats = network.socats ∧
      network.cleanupBrickd.accepted = network.accepted := by
    unfold cleanupBrickd
    split
    · exact ⟨rfl, rfl⟩
    · split_ifs <;> exact ⟨rfl, rfl⟩
  obtain ⟨hsocats, -, -, haccepted⟩ :=
    cleanupSocats_eq network.cleanupBrickd.socats.length network.cleanupBrickd (Nat.le_refl _)
  rw [List.take_length, List.drop_length, List.append_nil] at hsocats
  exact ⟨hsocats.trans (by rw [hsame.1]), haccepted.trans hsame.2⟩

-- An event that leaves the socats alone.
theorem Feeds.kept (h : network.Feeds feed) (hclean : network.Clean) {handled : Network σ}
    (hsocats : handled.socats = network.socats) (haccepted : handled.accepted = network.accepted) :
    handled.networkCleanupBrickdAndSocats.Feeds feed := by
  obtain ⟨hkept, hsame⟩ := networkCleanup_socats handled
  have hall : network.socats.filter (fun entry => !entry.2.disconnected) = network.socats :=
    List.filter_eq_self.mpr fun entry hentry => by rw [hclean.socats entry hentry]; rfl
  refine ⟨(hsame.trans haccepted).trans h.accepted, fun socket => ?_⟩
  rw [hkept, hsocats, hall]
  exact h.pending socket

-- What a socat makes of the bytes that it receives.
theorem socatHandleReceive_data (socat : Cron.Socat) (bytes : List UInt8) :
    let text := socat.notification.text socat.notificationUsed ++ bytes
    let result := Cron.socatHandleReceive (.data bytes) socat
    if text.length < Cron.sizeofCronNotification then
      result.1 = none ∧ result.2.disconnected = socat.disconnected ∧
        result.2.notification.text result.2.notificationUsed = text
    else
      result.1 = some (.ofMemory (text.take Cron.sizeofCronNotification)) ∧
        result.2.disconnected = true := by
  have hwritten := socat.notification.writeAll_text socat.notificationUsed bytes
  intro text result
  have hlength : text.length = socat.notificationUsed + bytes.length := by simp [text]
  have hresult : result = Cron.socatHandleReceive (.data bytes) socat := rfl
  unfold Cron.socatHandleReceive at hresult
  simp only at hresult
  rw [hlength]
  split_ifs with hshort
  · rw [if_pos hshort] at hresult
    rw [hresult]
    exact ⟨rfl, rfl, hwritten⟩
  · rw [if_neg hshort] at hresult
    rw [hresult]
    refine ⟨?_, rfl⟩
    have hread := (socat.notification.writeAll socat.notificationUsed bytes).read_eq 0
      Cron.sizeofCronNotification (socat.notificationUsed + bytes.length) (by omega)
    rw [List.drop_zero, hwritten] at hread
    exact congrArg (fun bytes => some (Cron.CronNotification.ofMemory bytes)) hread

-- The notification of one connection.
theorem handleSocatReceive_feeds (h : network.Feeds feed) (hclean : network.Clean)
    (socket : ClientSocket) (received : Cron.Received) :
    ((network.socats.find? (·.1 = socket)).bind fun entry =>
        (Cron.socatHandleReceive received entry.2).1) = (feed.receive socket received).1 ∧
      (network.handleSocatReceive daemon socket received).networkCleanupBrickdAndSocats.Feeds
        (feed.receive socket received).2 := by
  have hpending := h.pending socket
  cases hfind : network.socats.find? (·.1 = socket) with
  | none =>
      rw [hfind, Option.map_none] at hpending
      have hsame : feed.receive socket received = (none, feed) := by
        unfold CronFeed.receive
        rw [hpending]
      unfold handleSocatReceive
      rw [hfind, hsame]
      exact ⟨rfl, h.kept hclean rfl rfl⟩
  | some entry =>
      rw [hfind, Option.map_some] at hpending
      rw [Option.bind_some]
      have hup : entry.2.disconnected = false := hclean.socats entry (List.mem_of_find?_eq_some hfind)
      -- the socat after it has received
      have hnext : ∀ next : CronFeed, next.accepted = feed.accepted →
          (∀ other, next.pending other = if other = socket then
            if (Cron.socatHandleReceive received entry.2).2.disconnected then none
            else some (socatText (socket, (Cron.socatHandleReceive received entry.2).2))
          else feed.pending other) →
          (network.handleSocatReceive daemon socket received).networkCleanupBrickdAndSocats.Feeds
            next := by
        intro next haccepted hothers
        obtain ⟨hsocats, hsame⟩ :=
          networkCleanup_socats (network.handleSocatReceive daemon socket received)
        have hhandled : (network.handleSocatReceive daemon socket received).socats =
            (network.socats.map fun other => if other.1 = socket then
              (socket, (Cron.socatHandleReceive received entry.2).2) else other) ∧
            (network.handleSocatReceive daemon socket received).accepted = network.accepted := by
          unfold handleSocatReceive
          rw [hfind]
          dsimp only
          split <;> exact ⟨rfl, rfl⟩
        refine ⟨?_, fun other => ?_⟩
        · rw [hsame, hhandled.2, haccepted]
          exact h.accepted
        · rw [hothers, hsocats, hhandled.1, find?_cleaned hclean.socats, hfind]
          by_cases hother : other = socket
          · rw [if_pos hother, if_pos hother]
            split_ifs <;> rfl
          · rw [if_neg hother, if_neg hother]
            exact h.pending other
      cases received with
      | data bytes =>
          have hdata := socatHandleReceive_data entry.2 bytes
          simp only at hdata
          unfold CronFeed.receive
          rw [hpending]
          simp only
          by_cases hshort : (socatText entry ++ bytes).length < Cron.sizeofCronNotification
          · unfold socatText at hshort
            rw [if_pos hshort] at hdata
            obtain ⟨hnone, hdown, htext⟩ := hdata
            rw [if_pos (show (socatText entry ++ bytes).length < _ from hshort)]
            refine ⟨hnone, hnext _ rfl fun other => ?_⟩
            rw [hdown, hup, if_neg Bool.false_ne_true]
            unfold socatText
            rw [htext]
            exact Function.update_apply _ _ _ _
          · unfold socatText at hshort
            rw [if_neg hshort] at hdata
            obtain ⟨hsome, hdown⟩ := hdata
            rw [if_neg (show ¬(socatText entry ++ bytes).length < _ from hshort)]
            refine ⟨hsome, hnext _ rfl fun other => ?_⟩
            rw [hdown, if_pos rfl]
            exact Function.update_apply _ _ _ _
      | closedByPeer | failed =>
          unfold CronFeed.receive
          rw [hpending]
          refine ⟨rfl, hnext _ rfl fun other => ?_⟩
          exact Function.update_apply _ _ _ _
      | interrupted | wouldBlock =>
          unfold CronFeed.receive
          rw [hpending]
          refine ⟨rfl, hnext feed rfl fun other => ?_⟩
          by_cases hother : other = socket
          · rw [if_pos hother, hother, hpending]
            change _ = if entry.2.disconnected = true then none else _
            rw [hup, if_neg Bool.false_ne_true]
            rfl
          · rw [if_neg hother]

theorem Placed.accepted_fresh (h : network.Placed) :
    ∀ entry ∈ network.socats, entry.1 ≠ network.accepted := by
  intro entry hentry
  have hmem : entry.1 ∈ List.range network.accepted :=
    h.subset (List.mem_append_left _ (List.mem_append_right _ (List.mem_map_of_mem hentry)))
  exact Nat.ne_of_lt (List.mem_range.mp hmem)

theorem handleCronAccept_feeds (h : network.Feeds feed) (hplaced : network.Placed)
    (hclean : network.Clean) (append create : Bool) (memory : Nat → UInt8) :
    (network.handleCronAccept append create memory).networkCleanupBrickdAndSocats.Feeds
      (feed.next (.cronAccept append create memory : NetworkEvent σ)).2 := by
  obtain ⟨hsocats, hsame⟩ :=
    networkCleanup_socats (network.handleCronAccept append create memory)
  have haccepted : (network.handleCronAccept append create memory).accepted =
      network.accepted + 1 := by
    unfold handleCronAccept Network.accept
    dsimp only
    split_ifs <;> rfl
  have hall : network.socats.filter (fun entry => !entry.2.disconnected) = network.socats :=
    List.filter_eq_self.mpr fun entry hentry => by rw [hclean.socats entry hentry]; rfl
  simp only [CronFeed.next]
  by_cases hcreated : (append && create) = true
  · have hnew : (network.handleCronAccept append create memory).socats =
        network.socats ++ [(network.accepted, Cron.socatCreate memory)] := by
      obtain ⟨rfl, rfl⟩ := Bool.and_eq_true_iff.mp hcreated
      rfl
    rw [if_pos hcreated]
    refine ⟨by rw [hsame, haccepted, h.accepted], fun socket => ?_⟩
    rw [hsocats, hnew, List.filter_append, hall, List.find?_append]
    change Function.update feed.pending feed.accepted (some []) socket = _
    rw [Function.update_apply, ← h.accepted]
    by_cases hsocket : socket = network.accepted
    · have hnone : network.socats.find? (·.1 = socket) = none := by
        rw [List.find?_eq_none]
        intro entry hentry
        rw [hsocket]
        simpa using hplaced.accepted_fresh entry hentry
      rw [if_pos hsocket, hnone, hsocket]
      simp [Cron.socatCreate, socatText, Block.text]
    · rw [if_neg hsocket, h.pending socket]
      simp [Cron.socatCreate, Ne.symm hsocket]
  · have hold : (network.handleCronAccept append create memory).socats = network.socats := by
      unfold handleCronAccept Network.accept
      cases append with
      | false => rfl
      | true =>
          cases create with
          | false => rfl
          | true => exact absurd rfl hcreated
    rw [if_neg hcreated]
    refine ⟨by rw [hsame, haccepted, h.accepted], fun socket => ?_⟩
    rw [hsocats, hold, hall]
    exact h.pending socket

-- What one event does to the buffers.
theorem next_feeds (h : network.Feeds feed) (hplaced : network.Placed) (hclean : network.Clean)
    {event : NetworkEvent σ} {next : Network σ} (hnext : network.next daemon event = some next) :
    next.Feeds (feed.next event).2 := by
  obtain ⟨handled, hhandled, rfl⟩ := Option.map_eq_some_iff.mp hnext
  cases event with
  | brickdAccept create memory =>
      cases hhandled
      have hsame : (network.handleBrickdAccept daemon create memory).socats = network.socats ∧
          (network.handleBrickdAccept daemon create memory).accepted = network.accepted + 1 := by
        unfold handleBrickdAccept Network.accept
        dsimp only
        split
        · exact ⟨rfl, rfl⟩
        · split_ifs <;> exact ⟨rfl, rfl⟩
      obtain ⟨-, haccepted⟩ :=
        networkCleanup_socats (network.handleBrickdAccept daemon create memory)
      have hkept := @Feeds.kept σ network feed h hclean
        { network.handleBrickdAccept daemon create memory with accepted := network.accepted }
        hsame.1 rfl
      refine ⟨?_, ?_⟩
      · rw [haccepted, hsame.2, h.accepted]
        rfl
      · intro socket
        have hpending := hkept.pending socket
        rw [(networkCleanup_socats _).1] at hpending ⊢
        exact hpending
  | brickdReceive received =>
      unfold handle at hhandled
      dsimp only at hhandled
      split at hhandled
      · cases hhandled
      · split_ifs at hhandled
        obtain ⟨result, -, rfl⟩ := Option.map_eq_some_iff.mp hhandled
        exact h.kept hclean rfl rfl
  | brickdRecipientDisconnect =>
      obtain ⟨peer, -, rfl⟩ := Option.map_eq_some_iff.mp hhandled
      exact h.kept hclean rfl rfl
  | cronAccept append create memory =>
      cases hhandled
      exact handleCronAccept_feeds h hplaced hclean append create memory
  | socatReceive socket received =>
      cases hhandled
      exact (handleSocatReceive_feeds h hclean socket received).2
  | other effect =>
      cases hhandled
      exact h.kept hclean rfl rfl

end Network

end RedApid
