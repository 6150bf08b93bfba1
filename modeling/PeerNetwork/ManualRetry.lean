import PeerNetwork.Async

namespace PeerNetwork

/-- The older `session_manual` for one endpoint, whose `connect(hostname, port, handler)` retries by
a count. -/
structure ManualRetry where
  limit : Nat
  stopped : Bool
  retries : Option Nat
  attempts : Nat
  notified : List Code
  deriving DecidableEq, Repr

namespace ManualRetry

def create (manualAttemptLimit : Nat) : ManualRetry := ⟨manualAttemptLimit, false, none, 0, []⟩

def startConnect (s : ManualRetry) (retries : Nat) : ManualRetry :=
  if s.stopped then { s with retries := none, notified := s.notified ++ [.serviceStopped] }
  else { s with retries := some retries, attempts := s.attempts + 1 }

def connect (s : ManualRetry) : ManualRetry := s.startConnect s.limit

/-- `handle_connect` for the connect in flight with `retries`; a successful connect ends in
the handler's invocation with `success` once the channel has started. -/
def handleConnect (s : ManualRetry) (ec : Code) (retries : Nat) : ManualRetry :=
  if ec ≠ .success then
    if s.limit = 0 then s.startConnect 0
    else if 0 < retries then s.startConnect (retries - 1)
    else { s with notified := s.notified ++ [ec] }
  else { s with notified := s.notified ++ [.success] }

def step (s : ManualRetry) (ec : Code) : Option ManualRetry :=
  s.retries.map fun r => handleConnect { s with retries := none } ec r

def run (s : ManualRetry) : List Code → Option ManualRetry
  | [] => some s
  | ec :: es => (s.step ec).bind fun s' => run s' es

variable {s : ManualRetry} {ec : Code}

theorem step_retry {r : Nat} (hs : s.stopped = false) (hl : s.limit ≠ 0)
    (hr : s.retries = some (r + 1)) (he : ec ≠ .success) :
    s.step ec = some { s with retries := some r, attempts := s.attempts + 1 } := by
  simp [step, hr, handleConnect, he, hl, startConnect, hs]

theorem step_last (hl : s.limit ≠ 0) (hr : s.retries = some 0) (he : ec ≠ .success) :
    s.step ec = some { s with retries := none, notified := s.notified ++ [ec] } := by
  simp [step, hr, handleConnect, he, hl]

theorem step_unbounded {r : Nat} (hs : s.stopped = false) (hl : s.limit = 0)
    (hr : s.retries = some r) (he : ec ≠ .success) :
    s.step ec = some { s with retries := some 0, attempts := s.attempts + 1 } := by
  simp [step, hr, handleConnect, he, hl, startConnect, hs]

theorem run_failures (r : Nat) :
    ∀ (s : ManualRetry) (es : List Code), s.stopped = false → s.limit ≠ 0 → s.retries = some r →
      (∀ e ∈ es, e ≠ .success) → es.length = r + 1 →
      run s es = some
        { s with retries := none, attempts := s.attempts + r, notified := s.notified ++ es.drop r } := by
  induction r with
  | zero =>
    intro s es _ hl hr hes hlen
    obtain ⟨e, rfl⟩ : ∃ e, es = [e] := List.length_eq_one.mp hlen
    simp [run, step_last hl hr (hes e (by simp))]
  | succ r ih =>
    intro s es hs hl hr hes hlen
    obtain ⟨e, es, rfl⟩ : ∃ e es', es = e :: es' := List.exists_cons_of_length_eq_add_one hlen
    rw [run, step_retry hs hl hr (hes e (by simp)), Option.some_bind,
      ih { s with retries := some r, attempts := s.attempts + 1 } es hs hl rfl
        (fun e' he' => hes e' (by simp [he'])) (by simpa using hlen)]
    simp [Nat.add_assoc, Nat.add_comm 1 r]

theorem run_failures_unbounded (es : List Code) :
    ∀ (s : ManualRetry) (r : Nat), s.stopped = false → s.limit = 0 → s.retries = some r →
      (∀ e ∈ es, e ≠ .success) →
      ∃ r', run s es = some { s with retries := some r', attempts := s.attempts + es.length } := by
  induction es with
  | nil => intro s r _ _ hr _; exact ⟨r, by simp [run, ← hr]⟩
  | cons e es ih =>
    intro s r hs hl hr hes
    obtain ⟨r', h⟩ := ih { s with retries := some 0, attempts := s.attempts + 1 } 0 hs hl rfl
      (fun e' he' => hes e' (by simp [he']))
    refine ⟨r', ?_⟩
    rw [run, step_unbounded hs hl hr (hes e (by simp)), Option.some_bind, h]
    simp [Nat.add_assoc, Nat.add_comm 1]

/-- With `manual_attempt_limit` `n ≥ 1` and every attempt failing, `n + 1` attempts are made and the
handler gets the last failure once. -/
theorem attempt_limit_attempts (n : Nat) (hn : n ≠ 0) (es : List Code)
    (hes : ∀ e ∈ es, e ≠ .success) (hlen : es.length = n + 1) :
    run (create n).connect es = some ⟨n, false, none, n + 1, es.drop n⟩ := by
  rw [run_failures n (create n).connect es rfl hn rfl hes hlen]
  simp [connect, startConnect, create, Nat.add_comm]

/-- A limit of two, three failures. -/
theorem attempt_limit_attempts_two :
    (2 ≠ 0 ∧ (∀ e ∈ [Code.other 1, .other 2, .other 3], e ≠ .success) ∧
      [Code.other 1, .other 2, .other 3].length = 2 + 1) ∧
    run (create 2).connect [.other 1, .other 2, .other 3] = some ⟨2, false, none, 3, [.other 3]⟩ :=
  have h : (2 ≠ 0 ∧ (∀ e ∈ [Code.other 1, .other 2, .other 3], e ≠ .success) ∧
      [Code.other 1, .other 2, .other 3].length = 2 + 1) := by decide
  ⟨h, attempt_limit_attempts 2 h.1 _ h.2.1 h.2.2⟩

/-- With `manual_attempt_limit` 0 every failure starts another attempt, and the handler never
sees a failure. -/
theorem attempt_limit_zero_unbounded (es : List Code) (hes : ∀ e ∈ es, e ≠ .success) :
    ∃ r, run (create 0).connect es = some ⟨0, false, some r, es.length + 1, []⟩ := by
  obtain ⟨r, h⟩ := run_failures_unbounded es (create 0).connect 0 rfl rfl rfl hes
  exact ⟨r, by rw [h]; simp [connect, startConnect, create, Nat.add_comm]⟩

theorem attempt_limit_zero_unbounded_three :
    (∀ e ∈ [Code.other 1, .other 2, .other 3], e ≠ .success) ∧
    ∃ r, run (create 0).connect [.other 1, .other 2, .other 3] = some ⟨0, false, some r, 4, []⟩ :=
  have h : ∀ e ∈ [Code.other 1, .other 2, .other 3], e ≠ .success := by decide
  ⟨h, attempt_limit_zero_unbounded _ h⟩

/-- A limit of one: two attempts, not one, before the handler sees the failure. -/
theorem attempt_limit_one_two_attempts :
    run (create 1).connect [.other 0, .other 0] = some ⟨1, false, none, 2, [.other 0]⟩ := by
  decide

end ManualRetry

end PeerNetwork
