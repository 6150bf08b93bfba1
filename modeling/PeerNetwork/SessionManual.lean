import PeerNetwork.P2p

namespace PeerNetwork

/-- `session_manual` on the strand, with a clock: its one `timer_`, the posted timer handlers,
connects in flight, channels, `start_connect` attempts and handler calls. -/
structure Manual where
  now : Nat
  stopped : Bool
  timer : Deadline (Authority × Nat)
  posted : List (Authority × Code)
  connecting : List Authority
  channels : List Authority
  attempts : List (Authority × Nat)
  notified : List (Authority × Code)
  deriving DecidableEq, Repr

namespace Manual

variable (notify : Bool)

def create : Manual := ⟨0, false, Deadline.idle, [], [], [], [], []⟩

def startConnect (s : Manual) (host : Authority) : Manual :=
  if s.stopped then { s with notified := s.notified ++ [(host, .serviceStopped)] }
  else { s with connecting := s.connecting ++ [host], attempts := s.attempts ++ [(host, s.now)] }

def connect (s : Manual) (host : Authority) : Manual :=
  if s.stopped then { s with notified := s.notified ++ [(host, .serviceStopped)] }
  else s.startConnect host

/-- `handle_connect`; `delay` is what `settings().connect_timeout()` drew for this failure. A
failure re-arms the session's one timer; a channel's `handle_channel_start` report is in `Full`. -/
def handleConnect (s : Manual) (host : Authority) (ec : Code) (delay : Nat) : Manual :=
  if ec = .serviceStopped then { s with notified := s.notified ++ [(host, ec)] }
  else if ec ≠ .success then
    { s with timer := (s.timer.start notify (host, s.now + delay)).1,
             posted := s.posted ++ (s.timer.start notify (host, s.now + delay)).2.map
               fun p => (p.1.1, p.2) }
  else if s.stopped then { s with notified := s.notified ++ [(host, .serviceStopped)] }
  else { s with channels := s.channels ++ [host] }

/-- A caller's `connect`, a connect completing (a failure arms `delay`), the timer expiring, a
posted handler running, a channel stopping, or the session stopping. -/
inductive Event where
  | connect (host : Authority)
  | connected (host : Authority) (ec : Code) (t delay : Nat)
  | expire (t : Nat)
  | timer (t : Nat)
  | channelStopped (host : Authority) (t : Nat)
  | stop
  deriving DecidableEq, Repr

/-- One strand step; `none` when the event cannot happen. Each connect completes once here;
the connector's second call of one connect is an event of `Full`. -/
def step (s : Manual) : Event → Option Manual
  | .connect host => some (s.connect host)
  | .connected host ec t delay =>
    if host ∈ s.connecting ∧ s.now ≤ t then
      some (handleConnect notify { s with now := t, connecting := s.connecting.erase host }
        host ec delay)
    else none
  | .expire t =>
    match s.timer.armed with
    | some (_, due) =>
      if s.now ≤ t ∧ due ≤ t then
        some { s with now := t, timer := s.timer.expire.1,
                      posted := s.posted ++ s.timer.expire.2.map fun p => (p.1.1, p.2) }
      else none
    | none => none
  | .timer t =>
    match s.posted with
    | (host, _) :: rest =>
      if s.now ≤ t then some (startConnect { s with now := t, posted := rest } host) else none
    | [] => none
  | .channelStopped host t =>
    if host ∈ s.channels ∧ s.now ≤ t then
      some (startConnect { s with now := t, channels := s.channels.erase host } host)
    else none
  | .stop => some { s with stopped := true }

def run (s : Manual) : List Event → Option Manual
  | [] => some s
  | e :: es => (step notify s e).bind fun s' => run s' es

section Inversion

variable {notify} {s s' : Manual}

theorem step_connected_eq {h : Authority} {ec : Code} {t delay : Nat}
    (hs : step notify s (.connected h ec t delay) = some s') :
    h ∈ s.connecting ∧ s.now ≤ t ∧
      s' = handleConnect notify { s with now := t, connecting := s.connecting.erase h } h ec delay := by
  simp only [step] at hs
  split at hs
  · rename_i hc
    exact ⟨hc.1, hc.2, (Option.some.inj hs).symm⟩
  · cases hs

theorem step_expire_eq {t : Nat} (hs : step notify s (.expire t) = some s') :
    ∃ p, s.timer.armed = some p ∧ s.now ≤ t ∧ p.2 ≤ t ∧
      s' = { s with now := t, timer := s.timer.expire.1,
                    posted := s.posted ++ s.timer.expire.2.map fun p => (p.1.1, p.2) } := by
  simp only [step] at hs
  split at hs
  · split at hs
    · rename_i ha hc
      exact ⟨_, ha, hc.1, hc.2, (Option.some.inj hs).symm⟩
    · cases hs
  · cases hs

theorem step_timer_eq {t : Nat} (hs : step notify s (.timer t) = some s') :
    ∃ h c rest, s.posted = (h, c) :: rest ∧ s.now ≤ t ∧
      s' = startConnect { s with now := t, posted := rest } h := by
  simp only [step] at hs
  split at hs
  · split at hs
    · exact ⟨_, _, _, ‹_›, ‹_›, (Option.some.inj hs).symm⟩
    · cases hs
  · cases hs

theorem step_channelStopped_eq {h : Authority} {t : Nat}
    (hs : step notify s (.channelStopped h t) = some s') :
    h ∈ s.channels ∧ s.now ≤ t ∧
      s' = startConnect { s with now := t, channels := s.channels.erase h } h := by
  simp only [step] at hs
  split at hs
  · rename_i hc
    exact ⟨hc.1, hc.2, (Option.some.inj hs).symm⟩
  · cases hs

end Inversion

variable {notify} {s s' : Manual} {host : Authority}

/-- Nothing in the session holds a way to start `host` again: no connect in flight, no
channel, no timer handler armed or posted for it. -/
structure Idle (s : Manual) (host : Authority) : Prop where
  connecting : host ∉ s.connecting
  channels : host ∉ s.channels
  armed : ∀ p, s.timer.armed = some p → p.1 ≠ host
  posted : ∀ p ∈ s.posted, p.1 ≠ host

theorem startConnect_idle (hi : Idle s host) {h : Authority} (hh : h ≠ host) :
    Idle (s.startConnect h) host ∧
      (s.startConnect h).attempts.filter (·.1 = host) = s.attempts.filter (·.1 = host) := by
  obtain ⟨h1, h2, h3, h4⟩ := hi
  unfold startConnect
  split
  · exact ⟨⟨h1, h2, h3, h4⟩, rfl⟩
  · exact ⟨⟨by simp [h1, hh.symm], h2, h3, h4⟩, by simp [hh]⟩

theorem handleConnect_idle (notify : Bool) (hi : Idle s host) {h : Authority} (hh : h ≠ host)
    (ec : Code) (delay : Nat) :
    Idle (handleConnect notify s h ec delay) host ∧
      (handleConnect notify s h ec delay).attempts = s.attempts := by
  obtain ⟨h1, h2, h3, h4⟩ := hi
  unfold handleConnect
  split
  · exact ⟨⟨h1, h2, h3, h4⟩, rfl⟩
  split
  · refine ⟨⟨h1, h2, fun p hp => ?_, fun p hp => ?_⟩, rfl⟩
    · simp only [Deadline.start_armed, Option.some.injEq] at hp
      rw [← hp]; exact hh
    · simp only [List.mem_append, List.mem_map] at hp
      rcases hp with hp | ⟨q, hq, rfl⟩
      · exact h4 p hp
      · exact h3 q.1 (Deadline.mem_cancelled notify hq)
  split
  · exact ⟨⟨h1, h2, h3, h4⟩, rfl⟩
  · exact ⟨⟨h1, by simp [h2, hh.symm], h3, h4⟩, rfl⟩

theorem step_idle {e : Event} (hi : Idle s host) (he : e ≠ .connect host)
    (hs : step notify s e = some s') :
    Idle s' host ∧ s'.attempts.filter (·.1 = host) = s.attempts.filter (·.1 = host) := by
  obtain ⟨h1, h2, h3, h4⟩ := hi
  cases e with
  | connect h =>
    cases hs
    unfold connect
    split
    · exact ⟨⟨h1, h2, h3, h4⟩, rfl⟩
    · exact startConnect_idle ⟨h1, h2, h3, h4⟩ fun e => he (e ▸ rfl)
  | connected h ec t delay =>
    obtain ⟨hc, -, rfl⟩ := step_connected_eq hs
    have hi₀ : Idle { s with now := t, connecting := s.connecting.erase h } host :=
      ⟨fun hm => h1 (List.mem_of_mem_erase hm), h2, h3, h4⟩
    obtain ⟨hi', ha⟩ := handleConnect_idle notify hi₀ (fun e => h1 (e ▸ hc)) ec delay
    exact ⟨hi', by rw [ha]⟩
  | expire t =>
    obtain ⟨-, -, -, -, rfl⟩ := step_expire_eq hs
    refine ⟨⟨h1, h2, by simp, fun p hp => ?_⟩, rfl⟩
    simp only [List.mem_append, List.mem_map] at hp
    rcases hp with hp | ⟨q, hq, rfl⟩
    · exact h4 p hp
    · exact h3 q.1 (Deadline.mem_expire hq)
  | timer t =>
    obtain ⟨h, c, rest, hp, -, rfl⟩ := step_timer_eq hs
    exact startConnect_idle (s := { s with now := t, posted := rest })
      ⟨h1, h2, h3, fun p hq => h4 p (by simp [hp, hq])⟩ (h4 (h, c) (by simp [hp]))
  | channelStopped h t =>
    obtain ⟨hc, -, rfl⟩ := step_channelStopped_eq hs
    exact startConnect_idle (s := { s with now := t, channels := s.channels.erase h })
      ⟨h1, fun hm => h2 (List.mem_of_mem_erase hm), h3, h4⟩ fun e => h2 (e ▸ hc)
  | stop => cases hs; exact ⟨⟨h1, h2, h3, h4⟩, rfl⟩

theorem run_idle {es : List Event} (hi : Idle s host) (he : ∀ e ∈ es, e ≠ .connect host)
    (hs : run notify s es = some s') :
    s'.attempts.filter (·.1 = host) = s.attempts.filter (·.1 = host) := by
  induction es generalizing s with
  | nil => cases hs; rfl
  | cons e es ih =>
    simp only [run, Option.bind_eq_some] at hs
    obtain ⟨s₁, h₁, h₂⟩ := hs
    obtain ⟨hi₁, ha₁⟩ := step_idle hi (he e (by simp)) h₁
    exact (ih hi₁ (fun e' he' => he e' (by simp [he'])) h₂).trans ha₁

/-- Two endpoints share the one timer: with the spec's deadline endpoint 1 is retried before its
delay is up, with a dropping one never. -/
theorem shared_timer_retry_early_or_lost :
    (run true create [.connect ⟨1, 8333⟩, .connect ⟨2, 8333⟩, .connected ⟨1, 8333⟩ (.other 0) 0 5,
      .connected ⟨2, 8333⟩ (.other 0) 1 5, .timer 1]).map (·.attempts) =
      some [(⟨1, 8333⟩, 0), (⟨2, 8333⟩, 0), (⟨1, 8333⟩, 1)] ∧
    ∃ s, run false create [.connect ⟨1, 8333⟩, .connect ⟨2, 8333⟩,
      .connected ⟨1, 8333⟩ (.other 0) 0 5, .connected ⟨2, 8333⟩ (.other 0) 1 5] = some s ∧
      ∀ es s', (∀ e ∈ es, e ≠ .connect ⟨1, 8333⟩) → run false s es = some s' →
        s'.attempts.filter (·.1 = ⟨1, 8333⟩) = [(⟨1, 8333⟩, 0)] := by
  refine ⟨by decide, _, rfl, fun es s' he h => ?_⟩
  rw [run_idle ⟨by decide, by decide, by decide, by decide⟩ he h]
  decide

end Manual

end PeerNetwork
