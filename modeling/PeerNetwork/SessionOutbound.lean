import PeerNetwork.Settings

namespace PeerNetwork

/-- `session_outbound` on the strand: `batch_`, `count_`, `stopped()`, the batch calls, their
completions, and the started channels with their slots. -/
structure Outbound.Batch where
  slot : Nat
  pending : Nat
  deriving DecidableEq, Repr

structure Outbound.Completion where
  call : Nat
  code : Code
  channel : Option Nat
  deriving DecidableEq, Repr

/-- `session_outbound` on the network strand: `batch_`, the session-wide `count_`, the
`stopped()` state, every batch call made so far, the completions they invoked, and the
channels started and not yet stopped, each with its slot. -/
structure Outbound where
  batch : Nat
  count : Nat
  stopped : Bool
  batches : List Outbound.Batch
  completions : List Outbound.Completion
  channels : List (Nat × Nat)
  deriving DecidableEq, Repr

namespace Outbound

def create (connectBatchSize : Nat) : Outbound := ⟨max connectBatchSize 1, 0, false, [], [], []⟩

/-- `start_connect`: a new batch call for the slot's connectors, unless stopped. -/
def startConnect (s : Outbound) (slot : Nat) : Outbound :=
  if s.stopped then s else { s with batches := s.batches ++ [⟨slot, s.batch⟩] }

/-- `start` and `handle_started`: bypassed with no outbound connections, else one batch per
slot. -/
def start (s : Outbound) (outboundConnections : Nat) : Outbound :=
  if outboundConnections = 0 then s
  else (List.range outboundConnections).foldl startConnect s

/-- `handle_connect`: a failed batch is started again, a channel is started. -/
def handleConnect (s : Outbound) (slot : Nat) (ec : Code) (channel : Option Nat) : Outbound :=
  if ec ≠ .success then s.startConnect slot
  else match channel with
    | some ch => { s with channels := s.channels ++ [(ch, slot)] }
    | none => s

def complete (s : Outbound) (k : Nat) (ec : Code) (channel : Option Nat) : Outbound :=
  handleConnect { s with completions := s.completions ++ [⟨k, ec, channel⟩] }
    (s.batches.getD k ⟨0, 0⟩).slot ec channel

/-- `handle_batch`, once per connector report of batch call `k`. -/
def handleBatch (s : Outbound) (k : Nat) (ec : Code) (channel : Nat) : Outbound :=
  let count := (s.count + 1) % sizeBound
  if ec = .success then
    complete { s with count := if count = s.batch then count else s.batch } k .success (some channel)
  else if count = s.batch then complete { s with count := count } k .connectFailed none
  else { s with count := count }

/-- What the strand runs next: a connector of batch call `k` reports (a channel comes with
success), an adopted channel stops, or the session stops. -/
inductive Event where
  | report (k : Nat) (ec : Code) (channel : Nat)
  | channelStopped (channel : Nat)
  | stop
  deriving DecidableEq, Repr

/-- One strand step; `none` when no connector of the call is left to report, or the
channel is not running. -/
def step (s : Outbound) : Event → Option Outbound
  | .report k ec ch =>
    match s.batches[k]? with
    | some b =>
      if b.pending = 0 then none
      else some (handleBatch { s with batches := s.batches.set k { b with pending := b.pending - 1 } }
        k ec ch)
    | none => none
  | .channelStopped ch =>
    match s.channels.find? (·.1 = ch) with
    | some (_, slot) => some (startConnect { s with channels := s.channels.erase (ch, slot) } slot)
    | none => none
  | .stop => some { s with stopped := true }

def run (s : Outbound) : List Event → Option Outbound
  | [] => some s
  | e :: es => (step s e).bind fun s' => run s' es

variable {s : Outbound} {j k slot : Nat} {ec : Code}

theorem step_report_eq {s' : Outbound} {ch : Nat} (hs : step s (.report k ec ch) = some s') :
    ∃ b, s.batches[k]? = some b ∧ b.pending ≠ 0 ∧
      s' = handleBatch { s with batches := s.batches.set k { b with pending := b.pending - 1 } }
        k ec ch := by
  simp only [step] at hs
  split at hs
  · rename_i b hb
    split at hs
    · cases hs
    · rename_i hp
      exact ⟨b, hb, hp, (Option.some.inj hs).symm⟩
  · cases hs

theorem step_channelStopped_eq {s' : Outbound} {ch : Nat} (hs : step s (.channelStopped ch) = some s') :
    ∃ slot, s' = startConnect { s with channels := s.channels.erase (ch, slot) } slot := by
  simp only [step] at hs
  split at hs
  · exact ⟨_, (Option.some.inj hs).symm⟩
  · cases hs

theorem startConnect_getElem? (hj : j < s.batches.length) :
    (s.startConnect slot).batches[j]? = s.batches[j]? := by
  unfold startConnect; split
  · rfl
  · exact List.getElem?_append_left hj

@[simp] theorem startConnect_completions : (s.startConnect slot).completions = s.completions := by
  unfold startConnect; split <;> rfl

theorem handleConnect_getElem? (hj : j < s.batches.length) (ch : Option Nat) :
    (s.handleConnect slot ec ch).batches[j]? = s.batches[j]? := by
  unfold handleConnect; split
  · exact startConnect_getElem? hj
  · split <;> rfl

@[simp] theorem handleConnect_completions (ch : Option Nat) :
    (s.handleConnect slot ec ch).completions = s.completions := by
  unfold handleConnect; split
  · exact startConnect_completions
  · split <;> rfl

theorem complete_getElem? (hj : j < s.batches.length) (ch : Option Nat) :
    (s.complete k ec ch).batches[j]? = s.batches[j]? := by
  unfold complete; apply handleConnect_getElem?; exact hj

@[simp] theorem complete_completions (ch : Option Nat) :
    (s.complete k ec ch).completions = s.completions ++ [⟨k, ec, ch⟩] := by
  simp [complete]

theorem handleBatch_frame (s : Outbound) (k : Nat) (ec : Code) (ch : Nat)
    (hj : j < s.batches.length) :
    (s.handleBatch k ec ch).batches[j]? = s.batches[j]? ∧
    ∃ l, (s.handleBatch k ec ch).completions = s.completions ++ l ∧ ∀ x ∈ l, x.call = k := by
  unfold handleBatch
  dsimp only
  split
  · exact ⟨by apply complete_getElem?; exact hj, [⟨k, .success, some ch⟩], by simp, by simp⟩
  · split
    · exact ⟨by apply complete_getElem?; exact hj, [⟨k, .connectFailed, none⟩], by simp, by simp⟩
    · exact ⟨rfl, [], by simp, by simp⟩

theorem step_keeps_drained {s' : Outbound} {e : Event} (hk : s.batches[k]? = some ⟨slot, 0⟩)
    (hs : step s e = some s') :
    s'.batches[k]? = some ⟨slot, 0⟩ ∧
      s'.completions.filter (·.call = k) = s.completions.filter (·.call = k) := by
  have hlen : k < s.batches.length := (List.getElem?_eq_some_iff.mp hk).1
  cases e with
  | report k' ec ch =>
    obtain ⟨b, hb, hp, rfl⟩ := step_report_eq hs
    have hne : k' ≠ k := by
      rintro rfl
      rw [hk, Option.some.injEq] at hb
      exact hp (hb ▸ rfl)
    obtain ⟨h1, l, h2, h3⟩ := handleBatch_frame
      { s with batches := s.batches.set k' { b with pending := b.pending - 1 } } k' ec ch
      (by simpa using hlen)
    have hl : l.filter (·.call = k) = [] :=
      List.filter_eq_nil_iff.mpr fun x hx => by simp [h3 x hx, hne]
    refine ⟨by rw [h1]; simpa [List.getElem?_set_ne hne] using hk, ?_⟩
    rw [h2, List.filter_append, hl, List.append_nil]
  | channelStopped ch =>
    obtain ⟨slot', rfl⟩ := step_channelStopped_eq hs
    refine ⟨?_, by simp⟩
    rw [← hk]
    apply startConnect_getElem?
    exact hlen
  | stop => cases hs; exact ⟨hk, rfl⟩

theorem run_keeps_drained {s' : Outbound} {es : List Event} (hk : s.batches[k]? = some ⟨slot, 0⟩)
    (hs : run s es = some s') :
    s'.batches[k]? = some ⟨slot, 0⟩ ∧
      s'.completions.filter (·.call = k) = s.completions.filter (·.call = k) := by
  induction es generalizing s with
  | nil => cases hs; exact ⟨hk, rfl⟩
  | cons e es ih =>
    simp only [run, Option.bind_eq_some] at hs
    obtain ⟨s₁, h₁, h₂⟩ := hs
    obtain ⟨hk₁, hc₁⟩ := step_keeps_drained hk h₁
    exact (ih hk₁ h₂).imp_right (·.trans hc₁)

/-- With one slot and batches of one, a second failing batch never completes: `count_` is already
past `batch_`. -/
theorem second_batch_never_completes :
    ∃ s, run ((create 1).start 1) [.report 0 (.other 0) 0, .report 1 (.other 0) 0] = some s ∧
      s.batches[1]? = some ⟨0, 0⟩ ∧ s.completions.filter (·.call = 1) = [] ∧
      ∀ es s', run s es = some s' → s'.completions.filter (·.call = 1) = [] := by
  refine ⟨_, rfl, rfl, rfl, fun es s' h => ?_⟩
  exact (run_keeps_drained rfl h).2

theorem batch_double_success_and_shared_count :
    (run ((create 2).start 1) [.report 0 .success 7, .report 0 .success 8]).map (·.channels) =
      some [(7, 0), (8, 0)] ∧
    (run ((create 2).start 2) [.report 0 (.other 0) 0, .report 1 (.other 0) 0]).map
      (fun s => (s.completions, s.batches)) =
      some ([⟨1, .connectFailed, none⟩], [⟨0, 1⟩, ⟨1, 1⟩, ⟨1, 2⟩]) := by
  decide

@[simp] theorem startConnect_count : (s.startConnect slot).count = s.count := by
  unfold startConnect; split <;> rfl
@[simp] theorem startConnect_batch : (s.startConnect slot).batch = s.batch := by
  unfold startConnect; split <;> rfl
@[simp] theorem handleConnect_count (ch : Option Nat) :
    (s.handleConnect slot ec ch).count = s.count := by
  unfold handleConnect; split
  · exact startConnect_count
  · split <;> rfl
@[simp] theorem handleConnect_batch (ch : Option Nat) :
    (s.handleConnect slot ec ch).batch = s.batch := by
  unfold handleConnect; split
  · exact startConnect_batch
  · split <;> rfl
@[simp] theorem complete_count (ch : Option Nat) : (s.complete k ec ch).count = s.count := by
  simp [complete]
@[simp] theorem complete_batch (ch : Option Nat) : (s.complete k ec ch).batch = s.batch := by
  simp [complete]

/-- The failed completions a run has produced so far are at most one, and none while
`count_` is below `batch_`; `count_` has grown by at most one a step. -/
structure FailedOnce (s : Outbound) (n : Nat) : Prop where
  none_below : s.count < s.batch → s.completions.countP (·.code = .connectFailed) = 0
  at_most_one : s.completions.countP (·.code = .connectFailed) ≤ 1
  count_le : s.count ≤ s.batch + n

theorem FailedOnce.frame {s' : Outbound} {n m : Nat} (h : FailedOnce s n) (hc : s'.count = s.count)
    (hb : s'.batch = s.batch) (hf : s'.completions = s.completions) (hn : n ≤ m) :
    FailedOnce s' m :=
  ⟨by rw [hc, hb, hf]; exact h.none_below, hf ▸ h.at_most_one, by rw [hc, hb]; have := h.count_le; omega⟩

theorem handleBatch_failedOnce {n : Nat} (h : FailedOnce s n) (hw : s.batch + n + 1 < sizeBound)
    (k : Nat) (ec : Code) (ch : Nat) : FailedOnce (s.handleBatch k ec ch) (n + 1) := by
  obtain ⟨h1, h2, h3⟩ := h
  have hmod : (s.count + 1) % sizeBound = s.count + 1 := Nat.mod_eq_of_lt (by omega)
  unfold handleBatch
  simp only [hmod]
  split
  · have hc : (if s.count + 1 = s.batch then s.count + 1 else s.batch) = s.batch := by
      split <;> omega
    refine ⟨fun hlt => absurd hlt (by simp [hc]), ?_, by simp [hc]⟩
    simpa [List.countP_append] using h2
  · split
    · rename_i hf
      refine ⟨fun hlt => absurd hlt (by simp [hf]), ?_, by simp; omega⟩
      simp [List.countP_append, h1 (by omega)]
    · exact ⟨fun hlt => h1 (by simp at hlt; omega), h2, by simp; omega⟩

@[simp] theorem handleBatch_batch (ch : Nat) : (s.handleBatch k ec ch).batch = s.batch := by
  unfold handleBatch; dsimp only; split <;> try split
  all_goals simp

theorem step_batch {s' : Outbound} {e : Event} (hs : step s e = some s') : s'.batch = s.batch := by
  cases e with
  | report k ec ch => obtain ⟨b, -, -, rfl⟩ := step_report_eq hs; simp
  | channelStopped ch => obtain ⟨slot, rfl⟩ := step_channelStopped_eq hs; simp
  | stop => cases hs; rfl

theorem step_failedOnce {s' : Outbound} {e : Event} {n : Nat} (h : FailedOnce s n)
    (hw : s.batch + n + 1 < sizeBound) (hs : step s e = some s') : FailedOnce s' (n + 1) := by
  cases e with
  | report k ec ch =>
    obtain ⟨b, -, -, rfl⟩ := step_report_eq hs
    apply handleBatch_failedOnce
    · exact h.frame rfl rfl rfl le_rfl
    · exact hw
  | channelStopped ch =>
    obtain ⟨slot, rfl⟩ := step_channelStopped_eq hs
    exact h.frame (by simp) (by simp) (by simp) (by omega)
  | stop => cases hs; exact h.frame rfl rfl rfl (by omega)

theorem run_failedOnce {s' : Outbound} {es : List Event} {n : Nat} (h : FailedOnce s n)
    (hw : s.batch + n + es.length < sizeBound) (hs : run s es = some s') :
    FailedOnce s' (n + es.length) := by
  induction es generalizing s n with
  | nil => cases hs; exact h
  | cons e es ih =>
    simp only [run, Option.bind_eq_some] at hs
    obtain ⟨s₁, h₁, h₂⟩ := hs
    have h₁' := step_failedOnce h (by simp at hw; omega) h₁
    have := ih h₁' (by rw [step_batch h₁]; simp at hw; omega) h₂
    rwa [List.length_cons, ← Nat.add_assoc, Nat.add_right_comm n]

theorem foldl_startConnect (l : List Nat) (s : Outbound) :
    (l.foldl startConnect s).count = s.count ∧ (l.foldl startConnect s).batch = s.batch ∧
      (l.foldl startConnect s).completions = s.completions := by
  induction l generalizing s with
  | nil => simp
  | cons a l ih => simpa using ih (s.startConnect a)

theorem start_failedOnce (size n : Nat) :
    ((create size).start n).batch = max size 1 ∧ FailedOnce ((create size).start n) 0 := by
  unfold start
  split
  · exact ⟨rfl, fun _ => rfl, by simp [create], by simp [create]⟩
  · obtain ⟨h1, h2, h3⟩ := foldl_startConnect (List.range n) (create size)
    refine ⟨h2, fun _ => by rw [h3]; rfl, by rw [h3]; simp [create], by rw [h1, h2]; simp [create]⟩

/-- Over the session's life at most one batch call completes with `connect_failed`, while `count_`
has no room to wrap. -/
theorem connect_failed_at_most_once {size n : Nat} {es : List Event} {s : Outbound}
    (h : run ((create size).start n) es = some s) (hw : max size 1 + es.length < sizeBound) :
    s.completions.countP (·.code = .connectFailed) ≤ 1 := by
  obtain ⟨hb, h0⟩ := start_failedOnce size n
  exact (run_failedOnce h0 (by rw [hb]; omega) h).at_most_one

/-- The failing second round: one failed completion in all. -/
theorem connect_failed_at_most_once_second_round :
    let s : Outbound := ⟨1, 2, false, [⟨0, 0⟩, ⟨0, 0⟩], [⟨0, .connectFailed, none⟩], []⟩
    run ((create 1).start 1) [.report 0 (.other 0) 0, .report 1 (.other 0) 0] = some s ∧
      max 1 1 + 2 < sizeBound ∧ s.completions.countP (·.code = .connectFailed) ≤ 1 :=
  have h : run ((create 1).start 1) [.report 0 (.other 0) 0, .report 1 (.other 0) 0] =
      some ⟨1, 2, false, [⟨0, 0⟩, ⟨0, 0⟩], [⟨0, .connectFailed, none⟩], []⟩ := by decide
  ⟨h, by decide, connect_failed_at_most_once h (by decide)⟩

theorem startConnect_batches_of_stopped (hst : s.stopped = true) :
    (s.startConnect slot).batches = s.batches := by
  simp [startConnect, hst]

@[simp] theorem startConnect_stopped : (s.startConnect slot).stopped = s.stopped := by
  unfold startConnect; split <;> rfl

@[simp] theorem handleConnect_stopped (ch : Option Nat) :
    (s.handleConnect slot ec ch).stopped = s.stopped := by
  unfold handleConnect; split
  · exact startConnect_stopped
  · split <;> rfl

theorem handleConnect_batches_of_stopped (hst : s.stopped = true) (ch : Option Nat) :
    (s.handleConnect slot ec ch).batches = s.batches := by
  unfold handleConnect; split
  · exact startConnect_batches_of_stopped hst
  · split <;> rfl

theorem handleBatch_of_stopped (hst : s.stopped = true) (ch : Nat) :
    (s.handleBatch k ec ch).stopped = true ∧ (s.handleBatch k ec ch).batches = s.batches := by
  unfold handleBatch complete
  dsimp only
  split
  · exact ⟨by simpa using hst, by apply handleConnect_batches_of_stopped; exact hst⟩
  · split
    · exact ⟨by simpa using hst, by apply handleConnect_batches_of_stopped; exact hst⟩
    · exact ⟨hst, rfl⟩

theorem step_stopped_batches {s' : Outbound} {e : Event} (hst : s.stopped = true)
    (hs : step s e = some s') : s'.stopped = true ∧ s'.batches.length = s.batches.length := by
  cases e with
  | report k ec ch =>
    obtain ⟨b, -, -, rfl⟩ := step_report_eq hs
    obtain ⟨h1, h2⟩ := handleBatch_of_stopped
      (s := { s with batches := s.batches.set k { b with pending := b.pending - 1 } }) hst ch
    exact ⟨h1, by rw [h2, List.length_set]⟩
  | channelStopped ch =>
    obtain ⟨slot, rfl⟩ := step_channelStopped_eq hs
    exact ⟨by simpa using hst,
      congrArg List.length (startConnect_batches_of_stopped (s := { s with channels := _ }) hst)⟩
  | stop => cases hs; exact ⟨rfl, rfl⟩

/-- A stopped session starts no batch call again: every retry and replacement goes through
`start_connect`, which checks `stopped()`. -/
theorem stopped_session_starts_no_batch {s s' : Outbound} {es : List Event}
    (hst : s.stopped = true) (hs : run s es = some s') :
    s'.stopped = true ∧ s'.batches.length = s.batches.length := by
  induction es generalizing s with
  | nil => cases hs; exact ⟨hst, rfl⟩
  | cons e es ih =>
    simp only [run, Option.bind_eq_some] at hs
    obtain ⟨s₁, h₁, h₂⟩ := hs
    obtain ⟨hst₁, hl₁⟩ := step_stopped_batches hst h₁
    exact (ih hst₁ h₂).imp_right (·.trans hl₁)

/-- One slot stopped with its batch's connector still out: the connector fails, the batch
completes with `connect_failed`, and no new batch is started. -/
theorem stopped_session_starts_no_batch_after_failure :
    let s : Outbound := ⟨1, 0, true, [⟨0, 1⟩], [], []⟩
    let s' : Outbound := ⟨1, 1, true, [⟨0, 0⟩], [⟨0, .connectFailed, none⟩], []⟩
    s.stopped = true ∧ run s [.report 0 (.other 0) 0] = some s' ∧
      (s'.stopped = true ∧ s'.batches.length = s.batches.length) :=
  have h : run ⟨1, 0, true, [⟨0, 1⟩], [], []⟩ [.report 0 (.other 0) 0] =
      some ⟨1, 1, true, [⟨0, 0⟩], [⟨0, .connectFailed, none⟩], []⟩ := by decide
  ⟨rfl, h, stopped_session_starts_no_batch rfl h⟩

end Outbound

end PeerNetwork
