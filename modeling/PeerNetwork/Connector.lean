import PeerNetwork.Async

namespace PeerNetwork

/-- What `handle_resolve` receives from `async_resolve`: endpoints, a cancellation, or an
error other than a cancellation, which is never `success`. -/
inductive Connector.Resolution where
  | endpoints
  | cancelled
  | failed (ec : Code) (h : ec ≠ .success)
  deriving DecidableEq, Repr

inductive Connector.Resolver where
  | idle
  | pending
  | cancelling
  | resolved
  | failed
  deriving DecidableEq, Repr

structure Connector.Call where
  code : Code
  channel : Bool
  deriving DecidableEq, Repr

/-- A connector on its strand, with the asynchronous operations it has outstanding: the
timer handler runs posted to the strand, the resolution, and the socket connect. -/
structure Connector where
  stopped : Bool
  timer : Deadline Unit
  timerPosted : List Code
  resolver : Connector.Resolver
  socket : Bool
  calls : List Connector.Call
  deriving DecidableEq, Repr

namespace Connector

variable (notify : Bool)

def create : Connector := ⟨true, Deadline.idle, [], .idle, false, []⟩

def invoke (c : Connector) (ec : Code) (channel : Bool) : Connector :=
  { c with calls := c.calls ++ [⟨ec, channel⟩] }

def cancelResolver (c : Connector) : Connector :=
  if c.resolver = .pending then { c with resolver := .cancelling } else c

def stopTimer (c : Connector) : Connector :=
  { c with timer := (c.timer.stop notify).1,
           timerPosted := c.timerPosted ++ ((c.timer.stop notify).2.map Prod.snd) }

def expireTimer (c : Connector) : Connector :=
  { c with timer := c.timer.expire.1, timerPosted := c.timerPosted ++ (c.timer.expire.2.map Prod.snd) }

def stop (c : Connector) : Connector :=
  if c.stopped then c else stopTimer notify (cancelResolver c)

def connect (c : Connector) : Connector :=
  { c with stopped := false, timer := (c.timer.start notify ()).1,
           timerPosted := c.timerPosted ++ ((c.timer.start notify ()).2.map Prod.snd),
           resolver := .pending }

def handleResolve (c : Connector) : Resolution → Connector
  | .cancelled => invoke { c with resolver := .failed } .channelStopped false
  | .failed ec _ => invoke { c with resolver := .failed } ec false
  | .endpoints => { c with resolver := .resolved, socket := true }

def doHandleConnect (c : Connector) (ec : Code) : Connector :=
  if c.stopped then { c with socket := false }
  else
    let c' := stopTimer notify { c with socket := false, stopped := true }
    if ec = .success then invoke c' .success true else invoke c' ec false

def handleTimer (c : Connector) (ec : Code) : Connector :=
  if c.stopped then c
  else
    let c' := { cancelResolver c with stopped := true }
    if ec = .success then invoke c' .channelTimeout false else invoke c' ec false

inductive Event where
  | stop
  | resolved (r : Resolution)
  | connected (ec : Code)
  | expired
  | timer
  deriving DecidableEq, Repr

/-- One strand step, `none` when the event cannot happen here; a resolution queued before a cancel
may still deliver its own result. -/
def step (c : Connector) : Event → Option Connector
  | .stop => some (stop notify c)
  | .resolved r =>
    match c.resolver, r with
    | .pending, .cancelled => none
    | .pending, r => some (handleResolve c r)
    | .cancelling, r => some (handleResolve c r)
    | _, _ => none
  | .connected ec => if c.socket then some (doHandleConnect notify c ec) else none
  | .expired => if c.timer.armed.isSome then some (expireTimer c) else none
  | .timer =>
    match c.timerPosted with
    | ec :: rest => some (handleTimer { c with timerPosted := rest } ec)
    | [] => none

def run (c : Connector) : List Event → Option Connector
  | [] => some c
  | e :: es => (step notify c e).bind fun c' => run c' es

variable {notify} {c c' : Connector}

@[simp] theorem invoke_stopped (ec : Code) (b : Bool) : (invoke c ec b).stopped = c.stopped := rfl
@[simp] theorem invoke_resolver (ec : Code) (b : Bool) : (invoke c ec b).resolver = c.resolver := rfl
@[simp] theorem invoke_socket (ec : Code) (b : Bool) : (invoke c ec b).socket = c.socket := rfl
@[simp] theorem invoke_calls_length (ec : Code) (b : Bool) :
    (invoke c ec b).calls.length = c.calls.length + 1 := by simp [invoke]

@[simp] theorem stopTimer_stopped : (stopTimer notify c).stopped = c.stopped := rfl
@[simp] theorem stopTimer_resolver : (stopTimer notify c).resolver = c.resolver := rfl
@[simp] theorem stopTimer_socket : (stopTimer notify c).socket = c.socket := rfl
@[simp] theorem stopTimer_calls : (stopTimer notify c).calls = c.calls := rfl

@[simp] theorem cancelResolver_stopped : (cancelResolver c).stopped = c.stopped := by
  unfold cancelResolver; split <;> rfl
@[simp] theorem cancelResolver_socket : (cancelResolver c).socket = c.socket := by
  unfold cancelResolver; split <;> rfl
@[simp] theorem cancelResolver_calls : (cancelResolver c).calls = c.calls := by
  unfold cancelResolver; split <;> rfl
@[simp] theorem cancelResolver_failed :
    (cancelResolver c).resolver = .failed ↔ c.resolver = .failed := by
  unfold cancelResolver; split <;> simp_all
@[simp] theorem cancelResolver_resolved :
    (cancelResolver c).resolver = .resolved ↔ c.resolver = .resolved := by
  unfold cancelResolver; split <;> simp_all
@[simp] theorem cancelResolver_idle :
    (cancelResolver c).resolver = .idle ↔ c.resolver = .idle := by
  unfold cancelResolver; split <;> simp_all

/-- What every state reached from one `connect` satisfies: one handler call for the `stopped_` latch
and one more if `handle_resolve` failed. -/
structure Inv (c : Connector) : Prop where
  calls_length : c.calls.length =
    (if c.stopped then 1 else 0) + (if c.resolver = .failed then 1 else 0)
  started : c.resolver ≠ .idle
  socket_resolved : c.socket = true → c.resolver = .resolved
  connected_stopped : c.resolver = .resolved → c.socket = false → c.stopped = true

theorem Inv.frame (hc : Inv c) (h1 : c'.stopped = c.stopped) (h2 : c'.resolver = c.resolver)
    (h3 : c'.socket = c.socket) (h4 : c'.calls = c.calls) : Inv c' := by
  obtain ⟨k1, k2, k3, k4⟩ := hc
  exact ⟨by rw [h4, k1, h1, h2], h2 ▸ k2, h2 ▸ h3 ▸ k3, h1 ▸ h2 ▸ h3 ▸ k4⟩

theorem connect_create_inv : Inv (connect notify create) :=
  ⟨rfl, by simp [connect], by simp [connect, create], by simp [connect]⟩

theorem cancelResolver_inv (hc : Inv c) : Inv (cancelResolver c) := by
  obtain ⟨h1, h2, h3, h4⟩ := hc
  unfold cancelResolver
  split <;> constructor <;> simp_all

theorem stop_inv (hc : Inv c) : Inv (stop notify c) := by
  unfold stop
  split
  · exact hc
  · exact (cancelResolver_inv hc).frame rfl rfl rfl rfl

theorem handleResolve_inv (hc : Inv c) (hr : c.resolver = .pending ∨ c.resolver = .cancelling)
    (r : Resolution) : Inv (handleResolve c r) := by
  obtain ⟨h1, -, h3, -⟩ := hc
  have hs : c.socket = false := by cases hr <;> cases h : c.socket <;> simp_all
  cases r <;> constructor <;> simp [handleResolve] <;> rcases hr with hr | hr <;> simp_all

theorem doHandleConnect_inv (hc : Inv c) (hs : c.socket = true) (ec : Code) :
    Inv (doHandleConnect notify c ec) := by
  obtain ⟨h1, h2, h3, -⟩ := hc
  have hr := h3 hs
  unfold doHandleConnect
  split
  · exact ⟨by simpa using h1, h2, by simp, fun _ _ => by assumption⟩
  · split <;> constructor <;> simp_all

theorem expireTimer_inv (hc : Inv c) : Inv (expireTimer c) := hc.frame rfl rfl rfl rfl

theorem handleTimer_inv (hc : Inv c) (ec : Code) : Inv (handleTimer c ec) := by
  unfold handleTimer
  split
  · exact hc
  · obtain ⟨h1, h2, h3, h4⟩ := hc
    split <;> constructor <;> simp_all <;> omega

theorem step_inv {e : Event} (hc : Inv c) (h : step notify c e = some c') : Inv c' := by
  cases e with
  | stop => cases h; exact stop_inv hc
  | resolved r =>
    simp only [step] at h
    split at h <;> cases h
    all_goals first
      | exact handleResolve_inv hc (.inl ‹_›) _
      | exact handleResolve_inv hc (.inr ‹_›) _
  | connected ec =>
    simp only [step] at h
    split at h <;> cases h
    exact doHandleConnect_inv hc ‹_› ec
  | expired =>
    simp only [step] at h
    split at h <;> cases h
    exact expireTimer_inv hc
  | timer =>
    simp only [step] at h
    split at h <;> cases h
    apply handleTimer_inv
    exact hc.frame rfl rfl rfl rfl

theorem run_inv {es : List Event} (hc : Inv c) (h : run notify c es = some c') : Inv c' := by
  induction es generalizing c with
  | nil => cases h; exact hc
  | cons e es ih =>
    simp only [run, Option.bind_eq_some] at h
    obtain ⟨c₁, h₁, h₂⟩ := h
    exact ih (step_inv hc h₁) h₂

/-- However the strand orders one connect's completions and `stop()` calls, the handler runs once
when the `stopped_` latch is set and once when `handle_resolve` fails: at most twice. -/
theorem connect_calls_le_two {es : List Event} (h : run notify (connect notify create) es = some c) :
    c.calls.length = (if c.stopped then 1 else 0) + (if c.resolver = .failed then 1 else 0) ∧
      c.calls.length ≤ 2 := by
  have hc := (run_inv connect_create_inv h).calls_length
  refine ⟨hc, ?_⟩
  split at hc <;> split at hc <;> omega

/-- The expiry-during-resolution order reaches the bound. -/
theorem connect_calls_le_two_at_expiry :
    let s : Connector :=
      ⟨true, ⟨none⟩, [], .failed, false, [⟨.channelTimeout, false⟩, ⟨.channelStopped, false⟩]⟩
    run true (connect true create) [.expired, .timer, .resolved .cancelled] = some s ∧
      (s.calls.length = (if s.stopped then 1 else 0) + (if s.resolver = .failed then 1 else 0) ∧
        s.calls.length ≤ 2) :=
  have h : run true (connect true create) [.expired, .timer, .resolved .cancelled] = some _ :=
    by decide
  ⟨h, connect_calls_le_two h⟩

/-- When the resolution succeeds, only latched paths remain: the handler runs at most once in
every order, and exactly once when the socket connect has completed. -/
theorem connect_resolved_calls {es : List Event}
    (h : run notify (connect notify create) es = some c) (hr : c.resolver = .resolved) :
    c.calls.length ≤ 1 ∧ (c.socket = false → c.calls.length = 1) := by
  have hc := run_inv connect_create_inv h
  have hl := hc.calls_length
  simp only [hr, reduceCtorEq, if_false, Nat.add_zero] at hl
  refine ⟨by split at hl <;> omega, fun hs => ?_⟩
  rw [hl, hc.connected_stopped hr hs, if_pos rfl]

/-- The timer expires, the resolution was already queued with its endpoints, and the socket
connect completes after the timer's handler: one call. -/
theorem connect_resolved_calls_after_expiry :
    let s : Connector := ⟨true, ⟨none⟩, [], .resolved, false, [⟨.channelTimeout, false⟩]⟩
    run true (connect true create) [.expired, .resolved .endpoints, .timer, .connected .success] =
      some s ∧ s.resolver = .resolved ∧ s.calls.length ≤ 1 ∧ (s.socket = false → s.calls.length = 1) :=
  have h : run true (connect true create)
      [.expired, .resolved .endpoints, .timer, .connected .success] = some _ := by decide
  ⟨h, rfl, connect_resolved_calls h rfl⟩

/-- The timer expires during the resolve: the handler gets `channel_timeout`, then `channel_stopped`
from the cancelled resolution, with either kind of deadline. -/
theorem expiry_during_resolve_calls_twice :
    ∀ notify, (run notify (connect notify create)
      [.expired, .timer, .resolved .cancelled]).map (·.calls) =
      some [⟨.channelTimeout, false⟩, ⟨.channelStopped, false⟩] := by
  decide

theorem stop_during_socket_connect_calls :
    (run false (connect false create) [.resolved .endpoints, .stop, .connected .success]).map
      (·.calls) = some [⟨.success, true⟩] ∧
    (run true (connect true create) [.resolved .endpoints, .stop, .timer]).map (·.calls) =
      some [⟨.operationCanceled, false⟩] := by
  decide

end Connector

end PeerNetwork
