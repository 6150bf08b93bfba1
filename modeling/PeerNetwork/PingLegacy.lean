import Mathlib.Tactic.SplitIfs
import PeerNetwork.Async

namespace PeerNetwork

/-- The earlier `protocol_ping_60001`: its handler latch, the nonces of live `pong` subscriptions,
the pings and pongs sent, and its `stop(ec)` calls. -/
structure LegacyPing where
  handler : Bool
  pongs : List Nat
  sent : List Nat
  replies : List Nat
  stops : List Code
  deriving DecidableEq, Repr

namespace LegacyPing

def badStream : Code := .other 1

def create : LegacyPing := ⟨false, [], [], [], []⟩

def stopped (p : LegacyPing) : Bool := !p.handler

def stop (p : LegacyPing) (ec : Code) : LegacyPing := { p with stops := p.stops ++ [ec] }

/-- `send_ping`, the timer's event handler; `nonce` is what `pseudo_random()` drew. The
pong subscription for the nonce is made before the ping is sent. -/
def sendPing (p : LegacyPing) (ec : Code) (nonce : Nat) : LegacyPing :=
  if p.stopped then p
  else if ec ≠ .success ∧ ec ≠ .channelTimeout then p.stop ec
  else { p with pongs := p.pongs ++ [nonce], sent := p.sent ++ [nonce] }

def setEvent (p : LegacyPing) (ec : Code) (nonce : Nat) : LegacyPing :=
  if p.handler then
    (if ec = .channelStopped then { p with handler := false } else p).sendPing ec nonce
  else p

/-- `handle_receive_pong` of the subscription made for `nonce`, given the message's nonce;
every path unsubscribes. -/
def handleReceivePong (p : LegacyPing) (ec : Code) (message nonce : Nat) : LegacyPing :=
  if p.stopped then p
  else if ec ≠ .success then p.stop ec
  else if message ≠ nonce then p.stop badStream
  else p

/-- A `pong` (or its subscriber's stop code) relayed to every live pong subscription in
turn; each handler returns false, so all are removed. -/
def relayPong (p : LegacyPing) (ec : Code) (message : Nat) : LegacyPing :=
  p.pongs.foldl (fun q nonce => q.handleReceivePong ec message nonce) { p with pongs := [] }

/-- `handle_receive_ping`: the reply carries the ping's nonce; the subscription stays. -/
def handleReceivePing (p : LegacyPing) (ec : Code) (message : Nat) : LegacyPing :=
  if p.stopped then p
  else if ec ≠ .success then p.stop ec
  else { p with replies := p.replies ++ [message] }

def handleSend (p : LegacyPing) (ec : Code) : LegacyPing :=
  if p.stopped then p
  else if ec ≠ .success then p.stop ec
  else p

/-- `start`: the perpetual heartbeat timer and the latch (`protocol_timer::start`), the
`ping` subscription, and the first ping "by simulating first heartbeat". -/
def start (nonce : Nat) : LegacyPing := { create with handler := true }.setEvent .success nonce

/-- The timer's event with the nonce it would draw, an inbound pong or ping, a send completing, or
the channel's stop. -/
inductive Event where
  | timer (ec : Code) (nonce : Nat)
  | pong (ec : Code) (message : Nat)
  | ping (ec : Code) (message : Nat)
  | sent (ec : Code)
  | stopped
  deriving DecidableEq, Repr

def step (p : LegacyPing) : Event → LegacyPing
  | .timer ec nonce => p.setEvent ec nonce
  | .pong ec message => p.relayPong ec message
  | .ping ec message => p.handleReceivePing ec message
  | .sent ec => p.handleSend ec
  | .stopped => p.setEvent .channelStopped 0

def run (p : LegacyPing) (es : List Event) : LegacyPing := es.foldl step p

theorem run_append (p : LegacyPing) (es es' : List Event) :
    p.run (es ++ es') = (p.run es).run es' :=
  List.foldl_append _ _ _ _

def pongStop (ec : Code) (message nonce : Nat) : Option Code :=
  if ec ≠ .success then some ec else if message ≠ nonce then some badStream else none

theorem handleReceivePong_eq (q : LegacyPing) (ec : Code) (message nonce : Nat) :
    q.handleReceivePong ec message nonce =
      if q.handler then { q with stops := q.stops ++ (pongStop ec message nonce).toList } else q := by
  obtain ⟨_ | _, pongs, sent, replies, stops⟩ := q <;>
    simp only [handleReceivePong, stopped, pongStop, stop] <;> split_ifs <;> simp_all

theorem foldl_handleReceivePong (ec : Code) (message : Nat) (l : List Nat) (q : LegacyPing) :
    l.foldl (fun q nonce => q.handleReceivePong ec message nonce) q =
      if q.handler then { q with stops := q.stops ++ l.filterMap (pongStop ec message) } else q := by
  induction l generalizing q with
  | nil => split <;> simp
  | cons n l ih =>
    rw [List.foldl_cons, ih, handleReceivePong_eq]
    obtain ⟨_ | _, pongs, sent, replies, stops⟩ := q
    · rfl
    · cases h : pongStop ec message n <;> simp [List.filterMap_cons, h]

theorem relayPong_eq (p : LegacyPing) (ec : Code) (message : Nat) :
    p.relayPong ec message =
      if p.handler then
        { p with pongs := [], stops := p.stops ++ p.pongs.filterMap (pongStop ec message) }
      else { p with pongs := [] } := by
  simp only [relayPong, foldl_handleReceivePong]

variable {p : LegacyPing}

def Failing (p : LegacyPing) : Prop := ∀ c ∈ p.stops, c ≠ .success

theorem Failing.stop (h : Failing p) {ec : Code} (hec : ec ≠ .success) : Failing (p.stop ec) := by
  intro c hc
  simp only [LegacyPing.stop, List.mem_append, List.mem_singleton] at hc
  rcases hc with hc | rfl
  · exact h c hc
  · exact hec

theorem sendPing_failing (h : Failing p) (ec : Code) (nonce : Nat) :
    Failing (p.sendPing ec nonce) := by
  unfold sendPing
  split_ifs with _ hec
  · exact h
  · exact h.stop hec.1
  · exact h

theorem setEvent_failing (h : Failing p) (ec : Code) (nonce : Nat) :
    Failing (p.setEvent ec nonce) := by
  unfold setEvent
  split_ifs
  · exact sendPing_failing (p := { p with handler := false }) h ec nonce
  · exact sendPing_failing h ec nonce
  · exact h

theorem pongStop_ne_success {ec c : Code} {message nonce : Nat}
    (h : pongStop ec message nonce = some c) : c ≠ .success := by
  unfold pongStop at h
  split_ifs at h with hec
  · exact Option.some.inj h ▸ hec
  · cases h; decide

theorem relayPong_failing (h : Failing p) (ec : Code) (message : Nat) :
    Failing (p.relayPong ec message) := by
  rw [relayPong_eq]
  split
  · intro c hc
    simp only [List.mem_append, List.mem_filterMap] at hc
    rcases hc with hc | ⟨n, -, hn⟩
    · exact h c hc
    · exact pongStop_ne_success hn
  · exact h

theorem handleReceivePing_failing (h : Failing p) (ec : Code) (message : Nat) :
    Failing (p.handleReceivePing ec message) := by
  unfold handleReceivePing
  split_ifs with _ hec
  · exact h
  · exact h.stop hec
  · exact h

theorem handleSend_failing (h : Failing p) (ec : Code) : Failing (p.handleSend ec) := by
  unfold handleSend
  split_ifs with _ hec
  · exact h
  · exact h.stop hec
  · exact h

theorem step_failing (h : Failing p) : ∀ e : Event, Failing (p.step e)
  | .timer ec nonce => setEvent_failing h ec nonce
  | .pong ec message => relayPong_failing h ec message
  | .ping ec message => handleReceivePing_failing h ec message
  | .sent ec => handleSend_failing h ec
  | .stopped => setEvent_failing h _ _

theorem run_failing (h : Failing p) (es : List Event) : Failing (p.run es) := by
  induction es generalizing p with
  | nil => exact h
  | cons e es ih => exact ih (step_failing h e)

/-- Whatever happens and in whatever order, every `stop` call of the legacy protocol carries a
failure code. -/
theorem legacy_ping_never_stops_with_success (nonce : Nat) (es : List Event) :
    ∀ c ∈ ((start nonce).run es).stops, c ≠ .success :=
  run_failing (setEvent_failing (fun _ h => absurd h (List.not_mem_nil _)) _ _) es

/-- The first ping answered, then two heartbeats: the stop call is `bad_stream`. -/
theorem legacy_ping_never_stops_with_success_overlap :
    badStream ∈ ((start 1).run [.pong .success 1, .timer .channelTimeout 2,
      .timer .channelTimeout 3, .pong .success 2]).stops ∧ badStream ≠ .success :=
  have h : badStream ∈ ((start 1).run [.pong .success 1, .timer .channelTimeout 2,
      .timer .channelTimeout 3, .pong .success 2]).stops := by decide
  ⟨h, legacy_ping_never_stops_with_success 1 _ badStream h⟩

theorem heartbeat_eq (hh : p.handler = true) (n : Nat) :
    p.setEvent .channelTimeout n = { p with pongs := p.pongs ++ [n], sent := p.sent ++ [n] } := by
  simp [setEvent, sendPing, stopped, hh]

theorem run_heartbeats (hh : p.handler = true) (ns : List Nat) :
    p.run (ns.map (Event.timer .channelTimeout)) =
      { p with pongs := p.pongs ++ ns, sent := p.sent ++ ns } := by
  induction ns generalizing p with
  | nil => simp [run]
  | cons n ns ih =>
    rw [List.map_cons, run, List.foldl_cons, ← run, ih (by simp [step, heartbeat_eq hh, hh])]
    simp [step, heartbeat_eq hh]

/-- A peer that never answers: one heartbeat after another, the protocol never stops the
channel, and keeps one live pong subscription for every ping it has sent. -/
theorem silent_peer_never_stopped (nonce : Nat) (ns : List Nat) :
    (start nonce).run (ns.map (Event.timer .channelTimeout)) =
      { create with handler := true, pongs := nonce :: ns, sent := nonce :: ns } :=
  run_heartbeats rfl ns

theorem answered_eq (hh : p.handler = true) (hp : p.pongs = []) (n : Nat) :
    p.run [.timer .channelTimeout n, .pong .success n] = { p with sent := p.sent ++ [n] } := by
  simp [run, step, heartbeat_eq hh, relayPong_eq, hh, hp, pongStop]

theorem run_answered (hh : p.handler = true) (hp : p.pongs = []) (ns : List Nat) :
    p.run (ns.flatMap fun n => [.timer .channelTimeout n, .pong .success n]) =
      { p with sent := p.sent ++ ns } := by
  induction ns generalizing p with
  | nil => simp [run]
  | cons n ns ih =>
    rw [List.flatMap_cons, run_append, answered_eq hh hp, ih (by exact hh) (by exact hp)]
    simp

/-- A peer that answers every ping with its nonce before the next heartbeat: the protocol
never stops the channel, and no pong subscription is left live. -/
theorem lockstep_peer_never_stopped (nonce : Nat) (ns : List Nat) :
    (start nonce).run
        (.pong .success nonce :: ns.flatMap fun n => [.timer .channelTimeout n, .pong .success n]) =
      { create with handler := true, sent := nonce :: ns } := by
  have h₀ : (start nonce).step (.pong .success nonce) =
      { create with handler := true, sent := [nonce] } := by
    simp [step, relayPong_eq, start, setEvent, sendPing, stopped, create, pongStop]
  show ((start nonce).step (.pong .success nonce)).run _ = _
  rw [h₀]
  exact run_answered rfl rfl ns

/-- Two unanswered heartbeats leave two pong subscriptions, and at the next pong, whatever its
nonce, one of them stops the channel with `bad_stream`. -/
theorem overlapped_pings_stop (hh : p.handler = true) {n₁ n₂ : Nat} (hn : n₁ ≠ n₂) (m : Nat) :
    badStream ∈
      (p.run [.timer .channelTimeout n₁, .timer .channelTimeout n₂, .pong .success m]).stops := by
  have hh₁ : { p with pongs := p.pongs ++ [n₁], sent := p.sent ++ [n₁] }.handler = true := hh
  show badStream ∈ (((p.setEvent .channelTimeout n₁).setEvent .channelTimeout n₂).relayPong
    .success m).stops
  rw [heartbeat_eq hh, heartbeat_eq hh₁, relayPong_eq]
  simp only [hh, if_true, List.mem_append, List.mem_filterMap]
  refine .inr ?_
  by_cases hm : m = n₁
  · exact ⟨n₂, by simp, by simp [pongStop, hm, hn]⟩
  · exact ⟨n₁, by simp, by simp [pongStop, hm]⟩

/-- The first ping answered; then two heartbeats, and the peer answers the earlier of the
two: the channel is stopped with `bad_stream`. -/
theorem overlapped_pings_stop_correct_pong :
    let p := (start 1).run [.pong .success 1]
    p.handler = true ∧ (2 : Nat) ≠ 3 ∧
      badStream ∈
        (p.run [.timer .channelTimeout 2, .timer .channelTimeout 3, .pong .success 2]).stops :=
  ⟨rfl, by decide, overlapped_pings_stop rfl (by decide) 2⟩

end LegacyPing

end PeerNetwork
