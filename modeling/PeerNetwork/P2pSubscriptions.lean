import Mathlib.Data.List.Count
import PeerNetwork.Async

namespace PeerNetwork

inductive Subscriptions.Job where
  | subscribe (handler : Nat)
  | unsubscribe (key : UInt64)
  | close
  deriving DecidableEq, Repr

/-- `p2p`'s channel-connect subscriptions: `closed_`, `keys_`, the `connect_subscriber_`, the calls
between their `closed()` check and their post, the strand's work, and each handler's calls. -/
structure Subscriptions where
  closed : Bool
  keys : UInt64
  stopped : Bool
  retained : List (UInt64 × Nat)
  entering : List Nat
  posted : List Subscriptions.Job
  completed : List (Nat × Code)
  notified : List (Nat × Code)
  released : List Nat
  deriving DecidableEq, Repr

namespace Subscriptions

def subscriberStopped : Code := .other 2

def subscriberExists : Code := .other 3

def desubscribed : Code := .other 4

def create : Subscriptions := ⟨false, 0, false, [], [], [], [], [], []⟩

/-! ## The subscriber

Modelled from its contract as the distributor's header states it (the subscriber's source is
not among this repository's files): a stopped subscriber refuses with `subscriber_stopped`, a
key in use with `subscriber_exists`, each invoking the handler; `stop` invokes every handler
and prevents later subscription; a relay invokes every handler and keeps those that return
true; `notify_one` invokes the keyed handler and drops it. -/

def subscribe (s : Subscriptions) (handler : Nat) (key : UInt64) : Subscriptions × Code :=
  if s.stopped then
    ({ s with notified := s.notified ++ [(handler, subscriberStopped)] }, subscriberStopped)
  else if s.retained.any (·.1 = key) then
    ({ s with notified := s.notified ++ [(handler, subscriberExists)] }, subscriberExists)
  else ({ s with retained := s.retained ++ [(key, handler)] }, .success)

def notify (s : Subscriptions) (ec : Code) (keep : List Nat) : Subscriptions :=
  if s.stopped then s
  else { s with retained := s.retained.filter (·.2 ∈ keep),
                notified := s.notified ++ s.retained.map fun r => (r.2, ec),
                released := s.released ++ (s.retained.filter (·.2 ∉ keep)).map (·.2) }

def notifyOne (s : Subscriptions) (key : UInt64) (ec : Code) : Subscriptions :=
  match s.retained.find? (·.1 = key) with
  | some r => { s with retained := s.retained.erase r, notified := s.notified ++ [(r.2, ec)] }
  | none => s

def stopDefault (s : Subscriptions) (ec : Code) : Subscriptions :=
  if s.stopped then s
  else { s with stopped := true, retained := [],
                notified := s.notified ++ s.retained.map fun r => (r.2, ec) }

/-- `create_key`: `++keys_`, which wraps to zero after `2^64 - 1` keys. -/
def createKey (s : Subscriptions) : Subscriptions × UInt64 :=
  ({ s with keys := s.keys + 1 }, s.keys + 1)

/-- `subscribe_connect`, up to its post: closed, it completes and invokes the handler with
`service_stopped` at once. -/
def subscribeConnect (s : Subscriptions) (handler : Nat) : Subscriptions :=
  if s.closed then
    { s with completed := s.completed ++ [(handler, .serviceStopped)],
             notified := s.notified ++ [(handler, .serviceStopped)] }
  else { s with entering := s.entering ++ [handler] }

def doSubscribeConnect (s : Subscriptions) (handler : Nat) : Subscriptions :=
  let r := (s.createKey.1.subscribe handler s.createKey.2)
  { r.1 with completed := r.1.completed ++ [(handler, r.2)] }

def notifyConnect (s : Subscriptions) (keep : List Nat) : Subscriptions := s.notify .success keep

def doUnsubscribeConnect (s : Subscriptions) (key : UInt64) : Subscriptions :=
  s.notifyOne key desubscribed

def doClose (s : Subscriptions) : Subscriptions := s.stopDefault .serviceStopped

def runJob (s : Subscriptions) : Job → Subscriptions
  | .subscribe handler => s.doSubscribeConnect handler
  | .unsubscribe key => s.doUnsubscribeConnect key
  | .close => s.doClose

/-- A `subscribe_connect` check or post, an `unsubscribe_connect`, a `close()`, the strand running
its oldest work, or a relayed channel (`keep` stays subscribed). -/
inductive Event where
  | subscribe (handler : Nat)
  | enter (handler : Nat)
  | unsubscribe (key : UInt64)
  | close
  | run
  | notify (keep : List Nat)
  deriving DecidableEq, Repr

def step (s : Subscriptions) : Event → Option Subscriptions
  | .subscribe handler => some (s.subscribeConnect handler)
  | .enter handler =>
    if handler ∈ s.entering then
      some { s with entering := s.entering.erase handler, posted := s.posted ++ [.subscribe handler] }
    else none
  | .unsubscribe key => some { s with posted := s.posted ++ [.unsubscribe key] }
  | .close => some { s with closed := true, posted := s.posted ++ [.close] }
  | .run =>
    match s.posted with
    | j :: rest => some ({ s with posted := rest }.runJob j)
    | [] => none
  | .notify keep => some (s.notifyConnect keep)

def run (s : Subscriptions) : List Event → Option Subscriptions
  | [] => some s
  | e :: es => (step s e).bind fun s' => run s' es

/-- The subscriptions of handler `h` not yet run on the strand: past the check, or posted. -/
def pending (s : Subscriptions) (h : Nat) : Nat := s.entering.count h + s.posted.count (.subscribe h)

def held (s : Subscriptions) (h : Nat) : Nat := s.retained.countP (·.2 == h)

/-- The subscriptions of `h` that have ended: its handler invoked with a code other than
`success` (a stop, a refusal, `desubscribed`), or removed by its own return of false. -/
def ended (s : Subscriptions) (h : Nat) : Nat :=
  s.notified.countP (fun x => x.1 == h && x.2 != .success) + s.released.count h

def completions (s : Subscriptions) (h : Nat) : Nat := s.completed.countP (·.1 == h)

theorem countP_stopped (l : List (UInt64 × Nat)) (ec : Code) (hec : ec ≠ .success) (h : Nat) :
    (l.map fun r => (r.2, ec)).countP (fun x => x.1 == h && x.2 != .success) =
      l.countP (·.2 == h) := by
  rw [List.countP_map]
  congr 1
  funext r
  simp [hec]

theorem subscribe_frame (s : Subscriptions) (handler : Nat) (key : UInt64) :
    (s.subscribe handler key).1.entering = s.entering ∧ (s.subscribe handler key).1.posted = s.posted ∧
      (s.subscribe handler key).1.completed = s.completed ∧
      (s.subscribe handler key).1.stopped = s.stopped ∧
      (s.subscribe handler key).1.closed = s.closed ∧
      (s.stopped = true → (s.subscribe handler key).1.retained = s.retained) := by
  unfold subscribe
  split_ifs with hs
  · exact ⟨rfl, rfl, rfl, rfl, rfl, fun _ => rfl⟩
  · exact ⟨rfl, rfl, rfl, rfl, rfl, fun _ => rfl⟩
  · exact ⟨rfl, rfl, rfl, rfl, rfl, fun h' => absurd h' hs⟩

theorem subscribe_account (s : Subscriptions) (handler : Nat) (key : UInt64) (h : Nat) :
    held (s.subscribe handler key).1 h + ended (s.subscribe handler key).1 h =
      held s h + ended s h + if handler = h then 1 else 0 := by
  by_cases hh : handler = h <;> unfold subscribe <;> split_ifs <;>
    simp [held, ended, List.countP_append, subscriberStopped, subscriberExists, hh] <;> omega

theorem notifyConnect_account (s : Subscriptions) (keep : List Nat) (h : Nat) :
    held (s.notifyConnect keep) h + ended (s.notifyConnect keep) h = held s h + ended s h := by
  unfold notifyConnect notify
  split
  · rfl
  · have hp := List.countP_eq_countP_filter_add s.retained (·.2 == h) (fun r => decide (r.2 ∈ keep))
    simp only [held, ended, List.countP_append, List.count_append, List.count, List.countP_map,
      Function.comp_def, bne_self_eq_false, Bool.and_false, List.countP_false, Function.const_apply,
      decide_not] at hp ⊢
    omega

theorem notifyOne_account (s : Subscriptions) (key : UInt64) (h : Nat) :
    held (s.notifyOne key desubscribed) h + ended (s.notifyOne key desubscribed) h =
      held s h + ended s h := by
  unfold notifyOne
  split
  · rename_i r hr
    have := countP_erase_add (·.2 == h) (List.mem_of_find?_eq_some hr)
    have hd : (desubscribed != .success) = true := rfl
    simp only [held, ended, List.countP_append, List.countP_cons, List.countP_nil, hd,
      Bool.and_true] at this ⊢
    omega
  · rfl

theorem stopDefault_account (s : Subscriptions) {ec : Code} (hec : ec ≠ .success) (h : Nat) :
    held (s.stopDefault ec) h + ended (s.stopDefault ec) h = held s h + ended s h := by
  unfold stopDefault
  split
  · rfl
  · simp only [held, ended, List.countP_append, countP_stopped _ _ hec, List.countP_nil]
    omega

variable {s s' : Subscriptions}

theorem step_enter_eq {handler : Nat} (hs : s.step (.enter handler) = some s') :
    handler ∈ s.entering ∧ s' = { s with entering := s.entering.erase handler,
                                         posted := s.posted ++ [.subscribe handler] } := by
  simp only [step] at hs
  split at hs
  · exact ⟨‹_›, (Option.some.inj hs).symm⟩
  · cases hs

theorem step_run_eq (hs : s.step .run = some s') :
    ∃ j rest, s.posted = j :: rest ∧ s' = { s with posted := rest }.runJob j := by
  simp only [step] at hs
  split at hs
  · exact ⟨_, _, ‹_›, (Option.some.inj hs).symm⟩
  · cases hs

theorem notifyConnect_frame (s : Subscriptions) (keep : List Nat) :
    (s.notifyConnect keep).entering = s.entering ∧ (s.notifyConnect keep).posted = s.posted ∧
      (s.notifyConnect keep).completed = s.completed := by
  unfold notifyConnect notify; split <;> exact ⟨rfl, rfl, rfl⟩

theorem runJob_account (s : Subscriptions) (j : Job) (h : Nat) :
    (s.runJob j).entering = s.entering ∧ (s.runJob j).posted = s.posted ∧
      held (s.runJob j) h + ended (s.runJob j) h =
        held s h + ended s h + (if j = .subscribe h then 1 else 0) ∧
      completions (s.runJob j) h = completions s h + (if j = .subscribe h then 1 else 0) := by
  cases j with
  | subscribe handler =>
    obtain ⟨h1, h2, h3, -, -, -⟩ := subscribe_frame s.createKey.1 handler s.createKey.2
    have ha := subscribe_account s.createKey.1 handler s.createKey.2 h
    refine ⟨h1, h2, ?_, ?_⟩
    · simpa [runJob, doSubscribeConnect, held, ended] using ha
    · simp only [runJob, doSubscribeConnect, completions, List.countP_append, h3]
      by_cases hh : handler = h <;> simp [createKey, hh]
  | unsubscribe key =>
    refine ⟨?_, ?_, by simpa [runJob] using notifyOne_account s key h, ?_⟩ <;>
      simp only [runJob, doUnsubscribeConnect, notifyOne] <;> split <;> rfl
  | close =>
    refine ⟨?_, ?_, by simpa [runJob] using stopDefault_account s (by decide) h, ?_⟩ <;>
      simp only [runJob, doClose, stopDefault] <;> split <;> rfl

theorem step_account {e : Event} (hs : s.step e = some s') (h : Nat) :
    pending s' h + held s' h + ended s' h =
        pending s h + held s h + ended s h + (if e = .subscribe h then 1 else 0) ∧
      pending s' h + completions s' h =
        pending s h + completions s h + (if e = .subscribe h then 1 else 0) := by
  cases e with
  | subscribe handler =>
    cases hs
    unfold subscribeConnect
    by_cases hh : handler = h <;> split <;>
      simp [pending, held, ended, completions, List.countP_append, List.count_append,
        List.count_cons, hh] <;> omega
  | enter handler =>
    obtain ⟨hm, rfl⟩ := step_enter_eq hs
    have := List.count_pos_iff.mpr hm
    by_cases hh : handler = h
    · subst hh
      simp [pending, held, ended, completions, List.count_append, List.count_erase]
      omega
    · simp [pending, held, ended, completions, List.count_append, List.count_erase,
        List.count_cons, hh]
  | unsubscribe key => cases hs; simp [pending, held, ended, completions, List.count_append]
  | close => cases hs; simp [pending, held, ended, completions, List.count_append]
  | run =>
    obtain ⟨j, rest, hp, rfl⟩ := step_run_eq hs
    obtain ⟨h1, h2, h3, h4⟩ := runJob_account { s with posted := rest } j h
    simp only [pending, h1, h2, hp, List.count_cons, beq_iff_eq, reduceCtorEq, if_false,
      Nat.add_zero] at h3 h4 ⊢
    simp only [held, ended, completions] at h3 h4 ⊢
    omega
  | notify keep =>
    cases hs
    obtain ⟨h1, h2, h3⟩ := notifyConnect_frame s keep
    have := notifyConnect_account s keep h
    simp only [pending, completions, h1, h2, h3, reduceCtorEq, if_false, Nat.add_zero, and_true]
    omega

theorem run_account {es : List Event} (hs : s.run es = some s') (h : Nat) :
    pending s' h + held s' h + ended s' h =
        pending s h + held s h + ended s h + es.count (.subscribe h) ∧
      pending s' h + completions s' h = pending s h + completions s h + es.count (.subscribe h) := by
  induction es generalizing s with
  | nil => cases hs; simp
  | cons e es ih =>
    simp only [run, Option.bind_eq_some] at hs
    obtain ⟨s₁, h₁, h₂⟩ := hs
    obtain ⟨a₁, c₁⟩ := step_account h₁ h
    obtain ⟨a₂, c₂⟩ := ih h₂
    simp only [List.count_cons, beq_iff_eq] at a₂ c₂ ⊢
    omega

/-- Once closed, `do_close` is still queued or has stopped the subscriber; a stopped
subscriber retains nothing. -/
structure Closing (s : Subscriptions) : Prop where
  closed : s.closed = true → Job.close ∈ s.posted ∨ s.stopped = true
  stopped : s.stopped = true → s.retained = []

theorem runJob_closing {q : Subscriptions} (hq : q.stopped = true → q.retained = []) (j : Job) :
    (q.runJob j).closed = q.closed ∧ (q.runJob j).posted = q.posted ∧
      (q.stopped = true ∨ j = .close → (q.runJob j).stopped = true) ∧
      ((q.runJob j).stopped = true → (q.runJob j).retained = []) := by
  cases j with
  | subscribe handler =>
    obtain ⟨-, h2, -, h4, h3, h5⟩ := subscribe_frame q.createKey.1 handler q.createKey.2
    refine ⟨h3, h2, fun h => ?_, fun h => ?_⟩
    · simp only [runJob, doSubscribeConnect]
      rw [h4]; simpa using h
    · simp only [runJob, doSubscribeConnect] at h ⊢
      rw [h4] at h
      rw [h5 h]
      exact hq h
  | unsubscribe key =>
    simp only [runJob, doUnsubscribeConnect, notifyOne, reduceCtorEq, or_false]
    split
    · rename_i r hr
      refine ⟨rfl, rfl, id, fun h => ?_⟩
      rw [hq h] at hr
      cases hr
    · exact ⟨rfl, rfl, id, hq⟩
  | close =>
    simp only [runJob, doClose, stopDefault, or_true, true_implies]
    split
    · rename_i h
      exact ⟨rfl, rfl, h, hq⟩
    · exact ⟨rfl, rfl, rfl, fun _ => rfl⟩

theorem step_closing {e : Event} (hc : Closing s) (hs : s.step e = some s') : Closing s' := by
  obtain ⟨hc1, hc2⟩ := hc
  cases e with
  | subscribe handler =>
    cases hs
    unfold subscribeConnect
    split <;> exact ⟨hc1, hc2⟩
  | enter handler =>
    obtain ⟨-, rfl⟩ := step_enter_eq hs
    exact ⟨fun h => (hc1 h).imp_left (List.mem_append_left _), hc2⟩
  | unsubscribe key =>
    cases hs
    exact ⟨fun h => (hc1 h).imp_left (List.mem_append_left _), hc2⟩
  | close =>
    cases hs
    exact ⟨fun _ => .inl (by simp), hc2⟩
  | run =>
    obtain ⟨j, rest, hp, rfl⟩ := step_run_eq hs
    obtain ⟨h1, h2, h3, h4⟩ := runJob_closing (q := { s with posted := rest }) hc2 j
    refine ⟨fun h => ?_, h4⟩
    rw [h1] at h
    rcases hc1 h with hm | hm
    · rw [hp, List.mem_cons] at hm
      rcases hm with rfl | hm
      · exact .inr (h3 (.inr rfl))
      · exact .inl (h2 ▸ hm)
    · exact .inr (h3 (.inl hm))
  | notify keep =>
    cases hs
    unfold notifyConnect notify
    split
    · exact ⟨hc1, hc2⟩
    · rename_i hst
      exact ⟨hc1, fun h => absurd h hst⟩

theorem run_closing {es : List Event} (hc : Closing s) (hs : s.run es = some s') : Closing s' := by
  induction es generalizing s with
  | nil => cases hs; exact hc
  | cons e es ih =>
    simp only [run, Option.bind_eq_some] at hs
    obtain ⟨s₁, h₁, h₂⟩ := hs
    exact ih (step_closing hc h₁) h₂

/-- However `subscribe_connect` races `close()`, once the strand has drained, none is retained and
every subscription has ended exactly once, with one completion call. -/
theorem close_ends_every_subscription {es : List Event} {s : Subscriptions}
    (h : create.run es = some s) (hc : s.closed = true) (hp : s.posted = [])
    (he : s.entering = []) (handler : Nat) :
    s.retained = [] ∧ ended s handler = es.count (.subscribe handler) ∧
      completions s handler = es.count (.subscribe handler) := by
  have hcl := run_closing
    ⟨fun h => absurd h Bool.false_ne_true, fun h => absurd h Bool.false_ne_true⟩ h
  have hr : s.retained = [] := hcl.stopped ((hcl.closed hc).resolve_left (by simp [hp]))
  obtain ⟨ha, hco⟩ := run_account h handler
  simp only [pending, held, hp, he, hr, List.count_nil, List.countP_nil] at ha hco
  exact ⟨hr, by simpa [create, ended] using ha, by simpa [create, completions] using hco⟩

/-- A subscription that passes the check, then `close()`, then its post: `do_close` runs
first, and the late subscription is refused with `subscriber_stopped`. -/
theorem close_ends_every_subscription_late_post :
    let es : List Event := [.subscribe 1, .close, .enter 1, .run, .run]
    let s := (create.run es).getD create
    create.run es = some s ∧ s.closed = true ∧ s.posted = [] ∧ s.entering = [] ∧
      s.notified = [(1, subscriberStopped)] ∧
      (s.retained = [] ∧ ended s 1 = es.count (.subscribe 1) ∧
        completions s 1 = es.count (.subscribe 1)) := by
  intro es s
  have h : create.run es = some s := by decide
  exact ⟨h, by decide, by decide, by decide, by decide,
    close_ends_every_subscription h (by decide) (by decide) (by decide) 1⟩

end Subscriptions

end PeerNetwork
