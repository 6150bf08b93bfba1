import Mathlib.Tactic.SplitIfs
import PeerNetwork.Async

namespace PeerNetwork

/-- `protocol_ping_60001` on its strand: `nonce_` (`received` when no ping is outstanding), its
channel's stop code, and the pings sent. -/
structure Ping where
  nonce : Nat
  stopped : Option Code
  sent : List Nat
  deriving DecidableEq, Repr

namespace Ping

/-- The `received` sentinel. -/
def received : Nat := 0

def minimumNonce : Nat := received + 1

def maxInt64 : Nat := 9223372036854775807

def create : Ping := ⟨received, none, []⟩

def stop (p : Ping) (ec : Code) : Ping :=
  if p.stopped.isSome then p else { p with stopped := some ec }

def sendPing (p : Ping) (draw : Nat) : Ping :=
  if p.stopped.isSome then p
  else
    let n := pseudoRandomNext (minimumNonce + 1) maxInt64 draw
    { p with nonce := n, sent := p.sent ++ [n] }

def handleReceivePong (p : Ping) (ec : Code) (nonce : Nat) : Ping :=
  if p.stopped.isSome ∨ ec ≠ .success then p
  else if nonce ≠ p.nonce then p.stop .protocolViolation
  else { p with nonce := received }

def handleTimer (p : Ping) (ec : Code) (draw : Nat) : Ping :=
  if p.stopped.isSome then p
  else if ec ≠ .success then p.stop ec
  else if p.nonce ≠ received then p.stop ec
  else p.sendPing draw

/-- What the strand runs: a heartbeat (`handle_timer(success)`, with the generator's draw
for the ping it may send), or an inbound pong with its nonce. -/
inductive Event where
  | heartbeat (draw : Nat)
  | pong (nonce : Nat)
  deriving DecidableEq, Repr

def step (p : Ping) : Event → Ping
  | .heartbeat draw => p.handleTimer .success draw
  | .pong nonce => p.handleReceivePong .success nonce

def run (p : Ping) (es : List Event) : Ping := es.foldl step p

variable {p : Ping}

theorem pingNonce_mem (draw : Nat) :
    2 ≤ pseudoRandomNext (minimumNonce + 1) maxInt64 draw ∧
      pseudoRandomNext (minimumNonce + 1) maxInt64 draw ≤ maxInt64 :=
  pseudoRandomNext_mem (by decide) draw

theorem step_of_stopped (h : p.stopped.isSome) (e : Event) : p.step e = p := by
  cases e <;> simp [step, handleTimer, handleReceivePong, h]

/-- An unanswered heartbeat stops the channel with `success`, and a pong of nonce 0 with no ping
outstanding is taken for an answer. -/
theorem missed_pong_stop_success_zero_pong_kept :
    (run create [.heartbeat 0, .heartbeat 5]).stopped = some .success ∧
    (run create [.heartbeat 0, .pong 2, .pong 0]).stopped = none := by
  decide

end Ping

/-- The ping discipline of spec §4.8: the outstanding ping's nonce, if any, and whether the channel
has stopped. -/
structure PingSpec where
  expected : Option Nat
  stopped : Bool
  deriving DecidableEq, Repr

namespace PingSpec

def step (q : PingSpec) : Ping.Event → PingSpec
  | .heartbeat draw =>
    if q.stopped then q
    else match q.expected with
      | some _ => { q with stopped := true }
      | none =>
        let n := pseudoRandomNext (Ping.minimumNonce + 1) Ping.maxInt64 draw
        { q with expected := some n }
  | .pong n =>
    if q.stopped then q
    else if q.expected = some n then { q with expected := none }
    else { q with stopped := true }

def run (q : PingSpec) (es : List Ping.Event) : PingSpec := es.foldl step q

end PingSpec

namespace Ping

/-- Stopped alike, and while running `nonce_` is the outstanding nonce, or the sentinel when none
is. -/
def Refines (p : Ping) (q : PingSpec) : Prop :=
  p.stopped.isSome = q.stopped ∧
    (q.stopped = false → p.nonce = q.expected.getD received ∧ q.expected ≠ some received)

theorem step_refines {q : PingSpec} (h : Refines p q) {e : Event} (he : e ≠ .pong 0) :
    Refines (p.step e) (q.step e) := by
  obtain ⟨h1, h2⟩ := h
  cases hq : q.stopped
  · obtain ⟨hn, hne⟩ := h2 hq
    have hp : p.stopped = none := by simpa [hq] using h1
    cases e with
    | heartbeat draw =>
      have hr := pingNonce_mem draw
      cases hx : q.expected with
      | none =>
        simp_all [Refines, step, PingSpec.step, handleTimer, sendPing, received]
        omega
      | some m =>
        have : m ≠ 0 := fun h0 => hne (by rw [hx, h0]; rfl)
        simp_all [Refines, step, PingSpec.step, handleTimer, stop, received]
    | pong n =>
      have hn0 : n ≠ 0 := fun h0 => he (h0 ▸ rfl)
      cases hx : q.expected with
      | none => simp_all [Refines, step, PingSpec.step, handleReceivePong, stop, received]
      | some m =>
        by_cases hm : n = m
        · subst hm; simp_all [Refines, step, PingSpec.step, handleReceivePong, received]
        · simp_all [Refines, step, PingSpec.step, handleReceivePong, stop, received, Ne.symm hm]
  · have hp : p.stopped.isSome := by simpa [hq] using h1
    rw [step_of_stopped hp]
    cases e <;> simp [Refines, PingSpec.step, hq, h1]

/-- On runs whose pongs carry nonzero nonces, the code stops its channel after exactly the events
after which the spec's discipline stops it. -/
theorem run_refines_spec (es : List Event) (he : ∀ e ∈ es, e ≠ .pong 0) :
    (create.run es).stopped.isSome = (PingSpec.run ⟨none, false⟩ es).stopped := by
  suffices ∀ (p : Ping) (q : PingSpec), Refines p q → Refines (p.run es) (q.run es) from
    (this create ⟨none, false⟩ ⟨rfl, fun _ => ⟨rfl, by simp⟩⟩).1
  induction es with
  | nil => exact fun p q h => h
  | cons e es ih =>
    intro p q h
    exact ih (fun e' he' => he e' (by simp [he'])) _ _ (step_refines h (he e (by simp)))

/-- A ping answered, then a ping answered with the wrong nonce: both stop at that pong. -/
theorem run_refines_spec_wrong_pong :
    (∀ e ∈ [Event.heartbeat 0, .pong 2, .heartbeat 1, .pong 2], e ≠ .pong 0) ∧
    (create.run [.heartbeat 0, .pong 2, .heartbeat 1, .pong 2]).stopped.isSome =
      (PingSpec.run ⟨none, false⟩ [.heartbeat 0, .pong 2, .heartbeat 1, .pong 2]).stopped :=
  have h : ∀ e ∈ [Event.heartbeat 0, .pong 2, .heartbeat 1, .pong 2], e ≠ .pong 0 := by decide
  ⟨h, run_refines_spec _ h⟩

end Ping

end PeerNetwork
