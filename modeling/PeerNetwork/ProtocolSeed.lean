import PeerNetwork.Settings

namespace PeerNetwork

/-- `protocol_seed_31402` over `protocol_events`: the handler latch, the synchronizer's count, what
is outstanding, and the handler and `stop(ec)` calls made. -/
structure Seed where
  handler : Bool
  count : Nat
  timer : Bool
  stopSubscribed : Bool
  address : Bool
  sendingAddress : Bool
  sendingGetAddress : Bool
  storing : Bool
  completed : List Code
  stops : List Code
  deriving DecidableEq, Repr

namespace Seed

def notFound : Code := .other 0

def create : Seed := ⟨false, 0, false, false, false, false, false, false, [], []⟩

def stopped (p : Seed) : Bool := !p.handler

/-- `handle_seeding_complete`: the session's handler, then `stop(ec)`. -/
def handleSeedingComplete (p : Seed) (ec : Code) : Seed :=
  { p with completed := p.completed ++ [ec], stops := p.stops ++ [ec] }

/-- Modelled from its use, "three callbacks (or any error)", the synchronizer's source being absent:
an error or the clearing call passes its code to `complete`. -/
def synchronize (p : Seed) (ec : Code) : Seed :=
  if p.count = 3 then p
  else
    let count := if ec ≠ .success then 3 else p.count + 1
    if count = 3 then handleSeedingComplete { p with count } ec else { p with count }

/-- `protocol_events::set_event`: nothing once the handler is cleared; `channel_stopped`
clears it before the last call. -/
def setEvent (p : Seed) (ec : Code) : Seed :=
  if p.handler then
    synchronize (if ec = .channelStopped then { p with handler := false } else p) ec
  else p

def handleStopped (p : Seed) : Seed := p.setEvent .channelStopped

/-- The germination timer's expiry, unless stopped, is `channel_timeout`; `protocol_timer` is not
among this repository's files. -/
def handleTimer (p : Seed) : Seed := if p.stopped then p else p.setEvent .channelTimeout

def handleSend (p : Seed) (ec : Code) : Seed :=
  if p.stopped then p
  else if ec ≠ .success then p.setEvent ec
  else p.setEvent .success

def handleSendAddress (p : Seed) (ec : Code) : Seed := p.handleSend ec

def handleSendGetAddress (p : Seed) (ec : Code) : Seed := p.handleSend ec

/-- `handle_receive_address`; every path unsubscribes. A success hands the addresses to the
host pool's `store`. -/
def handleReceiveAddress (p : Seed) (ec : Code) : Seed :=
  if p.stopped then p
  else if ec ≠ .success then p.setEvent ec
  else { p with storing := true }

/-- `handle_store_addresses`: a stored batch is the third event, `channel_stopped`. -/
def handleStoreAddresses (p : Seed) (ec : Code) : Seed :=
  if p.stopped then p
  else if ec ≠ .success then p.setEvent ec
  else p.setEvent .channelStopped

/-- `send_own_address`: with no self port the first event is at once a success. -/
def sendOwnAddress (p : Seed) (self : Authority) : Seed :=
  if self.port = 0 then p.setEvent .success else { p with sendingAddress := true }

/-- `start(handler)`, with `settings.self` as an argument: without a host pool it completes with
`not_found`, otherwise it subscribes and sends. -/
def start (cfg : Settings) (self : Authority) : Seed :=
  if cfg.hostPoolCapacity = 0 then create.handleSeedingComplete notFound
  else
    let p := { create with handler := true, timer := true, stopSubscribed := true, address := true }
    { p.sendOwnAddress self with sendingGetAddress := true }

/-- What completes next on the channel: a send, the one `address` message (or its
subscription's stop code), the store, the timer, or the channel's stop. -/
inductive Event where
  | sentAddress (ec : Code)
  | sentGetAddress (ec : Code)
  | address (ec : Code)
  | stored (ec : Code)
  | timer
  | stopped
  deriving DecidableEq, Repr

def step (p : Seed) : Event → Option Seed
  | .sentAddress ec =>
    if p.sendingAddress then some ({ p with sendingAddress := false }.handleSendAddress ec)
    else none
  | .sentGetAddress ec =>
    if p.sendingGetAddress then some ({ p with sendingGetAddress := false }.handleSendGetAddress ec)
    else none
  | .address ec =>
    if p.address then some ({ p with address := false }.handleReceiveAddress ec) else none
  | .stored ec =>
    if p.storing then some ({ p with storing := false }.handleStoreAddresses ec) else none
  | .timer => if p.timer then some { p with timer := false }.handleTimer else none
  | .stopped =>
    if p.stopSubscribed then some { p with stopSubscribed := false }.handleStopped else none

def run (p : Seed) : List Event → Option Seed
  | [] => some p
  | e :: es => (step p e).bind fun p' => run p' es

/-- The sends in flight, each of which can still report the success the synchronizer
counts. -/
def credits (p : Seed) : Nat :=
  (if p.sendingAddress then 1 else 0) + (if p.sendingGetAddress then 1 else 0)

/-- While the latch is set the synchronizer has cleared exactly when the handler has run; every run
is followed by a stop with its code and never carries success. -/
structure Inv (p : Seed) : Prop where
  once : p.completed.length ≤ 1
  live : p.handler = true → (p.count = 3 ↔ p.completed.length = 1)
  off : p.handler = false → p.completed.length = 1
  failed : ∀ c ∈ p.completed, c ≠ .success
  stops : p.stops = p.completed
  budget : p.count = 3 ∨ p.count + p.credits ≤ 2

variable {p p' : Seed}

theorem Inv.clear (hi : Inv p) (h1 : p.completed.length = 1) : Inv { p with handler := false } :=
  ⟨hi.once, fun h => absurd h Bool.false_ne_true, fun _ => h1, hi.failed, hi.stops, hi.budget⟩

theorem synchronize_of_cleared (h : p.count = 3) (ec : Code) : p.synchronize ec = p := if_pos h

theorem Inv.complete {q : Seed} (hc : q.completed = []) (hs : q.stops = []) {ec : Code}
    (hec : ec ≠ .success) : Inv (handleSeedingComplete { q with count := 3 } ec) := by
  constructor <;> simp [handleSeedingComplete, hc, hs, hec]

theorem setEvent_inv {ec : Code} (hi : Inv p)
    (hs : ec = .success → p.count = 3 ∨ p.count + p.credits + 1 ≤ 2) : Inv (p.setEvent ec) := by
  unfold setEvent
  split
  case isFalse => exact hi
  case isTrue hh =>
  by_cases h3 : p.count = 3
  · have h1 := (hi.live hh).1 h3
    split
    · rw [synchronize_of_cleared (p := { p with handler := false }) h3]
      exact hi.clear h1
    · rw [synchronize_of_cleared h3]
      exact hi
  · have hc : p.completed = [] := by
      have := hi.once; have := (hi.live hh).not.1 h3
      exact List.length_eq_zero.1 (by omega)
    have hst : p.stops = [] := hi.stops.trans hc
    by_cases hec : ec = .success
    · subst hec
      have hb := (hs rfl).resolve_left h3
      have h4 : p.count + 1 ≠ 3 := by unfold credits at hb; omega
      simp only [synchronize, h3, h4, if_false, reduceCtorEq, ne_eq, not_true_eq_false]
      exact ⟨by simp [hc], fun _ => by simp [hc, h4], fun h => by simp [hh] at h,
        by simp [hc], hst.trans hc.symm, .inr (by simp only [credits] at hb ⊢; omega)⟩
    · split <;> simp only [synchronize, h3, hec, if_false, ne_eq, not_false_eq_true, if_true]
      · exact Inv.complete (q := { p with handler := false }) hc hst hec
      · exact Inv.complete hc hst hec

theorem setEvent_inv_of_failure {ec : Code} (hi : Inv p) (hec : ec ≠ .success) :
    Inv (p.setEvent ec) :=
  setEvent_inv hi fun h => absurd h hec

theorem Inv.settle {q : Seed} (hi : Inv p) (hh : q.handler = p.handler) (hc : q.count = p.count)
    (hcomp : q.completed = p.completed) (hs : q.stops = p.stops) (hcr : q.credits ≤ p.credits) :
    Inv q where
  once := hcomp ▸ hi.once
  live := by rw [hh, hc, hcomp]; exact hi.live
  off := by rw [hh, hcomp]; exact hi.off
  failed := hcomp ▸ hi.failed
  stops := by rw [hs, hcomp]; exact hi.stops
  budget := by rw [hc]; have := hi.budget; omega

theorem handleSend_inv {q : Seed} (hi : Inv p) (hq : Inv q) (hc : q.count = p.count)
    (hcr : q.credits + 1 ≤ p.credits) (ec : Code) : Inv (q.handleSend ec) := by
  have hb : q.count = 3 ∨ q.count + q.credits + 1 ≤ 2 := by have := hi.budget; omega
  unfold handleSend
  split_ifs with _ hec
  · exact hq
  · exact setEvent_inv_of_failure hq hec
  · exact setEvent_inv hq fun _ => hb

theorem handleReceiveAddress_inv (hi : Inv p) (ec : Code) : Inv (p.handleReceiveAddress ec) := by
  unfold handleReceiveAddress
  split_ifs with _ hec
  · exact hi
  · exact setEvent_inv_of_failure hi hec
  · exact hi.settle rfl rfl rfl rfl le_rfl

theorem handleStoreAddresses_inv (hi : Inv p) (ec : Code) : Inv (p.handleStoreAddresses ec) := by
  unfold handleStoreAddresses
  split_ifs with _ hec
  · exact hi
  · exact setEvent_inv_of_failure hi hec
  · exact setEvent_inv_of_failure hi (by decide)

theorem handleTimer_inv (hi : Inv p) : Inv p.handleTimer := by
  unfold handleTimer
  split
  · exact hi
  · exact setEvent_inv_of_failure hi (by decide)

theorem step_inv {e : Event} (hi : Inv p) (hs : p.step e = some p') : Inv p' := by
  cases e <;> simp only [step] at hs <;> split at hs <;> cases hs
  case sentAddress.isTrue ec _ =>
    exact handleSend_inv (q := { p with sendingAddress := false }) hi
      (hi.settle rfl rfl rfl rfl (by simp [credits])) rfl
      (by simp only [credits, *, Bool.false_eq_true, if_true, if_false]; omega) ec
  case sentGetAddress.isTrue ec _ =>
    exact handleSend_inv (q := { p with sendingGetAddress := false }) hi
      (hi.settle rfl rfl rfl rfl (by simp [credits])) rfl
      (by simp only [credits, *, Bool.false_eq_true, if_true, if_false]; omega) ec
  case address.isTrue ec _ =>
    refine handleReceiveAddress_inv ?_ ec
    exact hi.settle rfl rfl rfl rfl le_rfl
  case stored.isTrue ec _ =>
    refine handleStoreAddresses_inv ?_ ec
    exact hi.settle rfl rfl rfl rfl le_rfl
  case timer.isTrue =>
    refine handleTimer_inv ?_
    exact hi.settle rfl rfl rfl rfl le_rfl
  case stopped.isTrue =>
    refine setEvent_inv_of_failure ?_ (by decide)
    exact hi.settle rfl rfl rfl rfl le_rfl

theorem run_inv {es : List Event} (hi : Inv p) (hs : p.run es = some p') : Inv p' := by
  induction es generalizing p with
  | nil => cases hs; exact hi
  | cons e es ih =>
    simp only [run, Option.bind_eq_some] at hs
    obtain ⟨p₁, h₁, h₂⟩ := hs
    exact ih (step_inv hi h₁) h₂

theorem start_inv (cfg : Settings) (self : Authority) : Inv (start cfg self) := by
  unfold start sendOwnAddress
  split
  · constructor <;> decide
  · split <;> constructor <;> decide

@[simp] theorem synchronize_handler (ec : Code) : (p.synchronize ec).handler = p.handler := by
  simp only [synchronize, handleSeedingComplete]
  split_ifs <;> rfl

@[simp] theorem setEvent_handler (ec : Code) :
    (p.setEvent ec).handler = (p.handler && ec != .channelStopped) := by
  unfold setEvent
  split_ifs <;> simp_all

theorem handleSend_handler (ec : Code) :
    (p.handleSend ec).handler = (p.handler && ec != .channelStopped) := by
  unfold handleSend stopped
  split_ifs <;> simp_all

theorem handleReceiveAddress_handler (ec : Code) :
    (p.handleReceiveAddress ec).handler = (p.handler && ec != .channelStopped) := by
  unfold handleReceiveAddress stopped
  split_ifs <;> simp_all

theorem handleStoreAddresses_handler (ec : Code) :
    (p.handleStoreAddresses ec).handler =
      (p.handler && ec != .success && ec != .channelStopped) := by
  unfold handleStoreAddresses stopped
  split_ifs <;> simp_all

theorem handleTimer_handler : p.handleTimer.handler = p.handler := by
  unfold handleTimer stopped
  split_ifs <;> simp_all

theorem step_handler {e : Event} (hs : p.step e = some p') :
    (p'.handler = true → p.handler = true) ∧
      (e = .stopped ∨ e = .stored .success → p'.handler = false) := by
  cases e <;> simp only [step] at hs <;> split at hs <;> cases hs <;>
    simp [handleSendAddress, handleSendGetAddress, handleSend_handler, handleStopped,
      handleReceiveAddress_handler, handleStoreAddresses_handler, handleTimer_handler] <;>
    simp_all

theorem run_handler {es : List Event} (hs : p.run es = some p') (h : p'.handler = true) :
    p.handler = true ∧ ∀ e ∈ es, e ≠ .stopped ∧ e ≠ .stored .success := by
  induction es generalizing p with
  | nil => cases hs; exact ⟨h, by simp⟩
  | cons e es ih =>
    simp only [run, Option.bind_eq_some] at hs
    obtain ⟨p₁, h₁, h₂⟩ := hs
    obtain ⟨hp₁, hes⟩ := ih h₂
    obtain ⟨back, clears⟩ := step_handler h₁
    refine ⟨back hp₁, ?_⟩
    simp only [List.mem_cons, forall_eq_or_imp]
    refine ⟨⟨fun he => ?_, fun he => ?_⟩, hes⟩ <;> simp [clears (by simp [he])] at hp₁

/-- In whatever order its events come, seeding runs the handler at most once, never with `success`,
and follows the run with `stop` with the same code. -/
theorem seeding_completes_at_most_once_never_success (cfg : Settings) (self : Authority)
    (es : List Event) {p : Seed} (h : (start cfg self).run es = some p) :
    p.completed.length ≤ 1 ∧ (∀ c ∈ p.completed, c ≠ .success) ∧ p.stops = p.completed := by
  have hi := run_inv (start_inv cfg self) h
  exact ⟨hi.once, hi.failed, hi.stops⟩

/-- A seeding with no self port: `get_address` sent, the peer's addresses received and
stored, the channel stopped. -/
theorem seeding_completes_channel_stopped :
    let cfg : Settings := { Settings.default with hostPoolCapacity := 1000 }
    let es : List Event := [.sentGetAddress .success, .address .success, .stored .success, .stopped]
    let p := ((start cfg ⟨0, 0⟩).run es).getD create
    (start cfg ⟨0, 0⟩).run es = some p ∧ p.completed = [.channelStopped] ∧
      (p.completed.length ≤ 1 ∧ (∀ c ∈ p.completed, c ≠ .success) ∧ p.stops = p.completed) := by
  intro cfg es p
  have h : (start cfg ⟨0, 0⟩).run es = some p := by decide
  exact ⟨h, by decide, seeding_completes_at_most_once_never_success cfg ⟨0, 0⟩ es h⟩

theorem run_completes {cfg : Settings} {self : Authority} {es : List Event}
    (h : (start cfg self).run es = some p) (he : Event.stopped ∈ es ∨ Event.stored .success ∈ es) :
    p.completed.length = 1 := by
  cases hh : p.handler
  · exact (run_inv (start_inv cfg self) h).off hh
  · have := (run_handler h hh).2
    rcases he with he | he
    · exact absurd rfl (this _ he).1
    · exact absurd rfl (this _ he).2

/-- The handler has run by the time the channel's stop has reached the protocol, or a batch
of the seed's addresses has been stored: the protocol never leaves its session waiting. -/
theorem seeding_completes_by_stop_or_store (cfg : Settings) (self : Authority)
    (es : List Event) {p : Seed} (h : (start cfg self).run es = some p)
    (he : Event.stopped ∈ es ∨ Event.stored .success ∈ es) : p.completed.length = 1 :=
  run_completes h he

/-- A seed with a self port that sends both messages, then stores the addresses: the
handler has run, before the channel's stop. -/
theorem seeding_completes_on_store :
    let cfg : Settings := { Settings.default with hostPoolCapacity := 1000 }
    let es : List Event :=
      [.sentAddress .success, .sentGetAddress .success, .address .success, .stored .success]
    let p := ((start cfg ⟨1, 8333⟩).run es).getD create
    (start cfg ⟨1, 8333⟩).run es = some p ∧
      (Event.stopped ∈ es ∨ Event.stored .success ∈ es) ∧ p.completed.length = 1 := by
  intro cfg es p
  have h : (start cfg ⟨1, 8333⟩).run es = some p := by decide
  exact ⟨h, .inr (by decide), seeding_completes_by_stop_or_store cfg ⟨1, 8333⟩ es h (.inr (by decide))⟩

/-- A completion that reports no failure: a send, the `address` message or the store with
`success`, or the channel's stop; never the germination timer. -/
def Event.succeeds : Event → Bool
  | .sentAddress ec | .sentGetAddress ec | .address ec | .stored ec => ec == .success
  | .timer => false
  | .stopped => true

def Clean (p : Seed) : Prop := ∀ c ∈ p.completed, c = .success ∨ c = .channelStopped

theorem setEvent_clean {ec : Code} (hp : Clean p) (hc : ec = .success ∨ ec = .channelStopped) :
    Clean (p.setEvent ec) := by
  have : (p.setEvent ec).completed = p.completed ∨
      (p.setEvent ec).completed = p.completed ++ [ec] := by
    simp only [setEvent, synchronize, handleSeedingComplete]
    split_ifs <;> first | exact .inl rfl | exact .inr rfl
  intro c hm
  rcases this with h | h <;> rw [h] at hm
  · exact hp c hm
  · rcases List.mem_append.mp hm with hm | hm
    · exact hp c hm
    · rw [List.mem_singleton.mp hm]; exact hc

theorem handleSend_clean (hp : Clean p) : Clean (p.handleSend .success) := by
  unfold handleSend
  split
  · exact hp
  · simpa only [ne_eq, not_true_eq_false, if_false] using setEvent_clean hp (.inl rfl)

theorem handleReceiveAddress_clean (hp : Clean p) : Clean (p.handleReceiveAddress .success) := by
  unfold handleReceiveAddress
  split
  · exact hp
  · simpa only [ne_eq, not_true_eq_false, if_false] using hp

theorem handleStoreAddresses_clean (hp : Clean p) : Clean (p.handleStoreAddresses .success) := by
  unfold handleStoreAddresses
  split
  · exact hp
  · simpa only [ne_eq, not_true_eq_false, if_false] using setEvent_clean hp (.inr rfl)

theorem step_clean {e : Event} (hp : Clean p) (he : e.succeeds = true) (hs : p.step e = some p') :
    Clean p' := by
  cases e <;> simp only [step] at hs <;> split at hs <;> cases hs <;>
    simp only [Event.succeeds, beq_iff_eq, Bool.false_eq_true] at he
  case sentAddress.isTrue => subst he; exact handleSend_clean hp
  case sentGetAddress.isTrue => subst he; exact handleSend_clean hp
  case address.isTrue => subst he; exact handleReceiveAddress_clean hp
  case stored.isTrue => subst he; exact handleStoreAddresses_clean hp
  case stopped.isTrue => exact setEvent_clean hp (.inr rfl)

theorem run_clean {es : List Event} (hp : Clean p) (he : ∀ e ∈ es, e.succeeds = true)
    (hs : p.run es = some p') : Clean p' := by
  induction es generalizing p with
  | nil => cases hs; exact hp
  | cons e es ih =>
    simp only [run, Option.bind_eq_some] at hs
    obtain ⟨p₁, h₁, h₂⟩ := hs
    exact ih (step_clean hp (he e (List.mem_cons_self e es)) h₁)
      (fun e' h' => he e' (List.mem_cons_of_mem e h')) h₂

theorem start_clean (cfg : Settings) (self : Authority) (hc : cfg.hostPoolCapacity ≠ 0) :
    Clean (start cfg self) := by
  have h0 : Clean
      { create with handler := true, timer := true, stopSubscribed := true, address := true } := by
    simp [Clean, create]
  unfold start sendOwnAddress
  rw [if_neg hc]
  split
  · exact fun c hm => setEvent_clean h0 (.inl rfl) c hm
  · exact h0

/-- A seeding with a host pool whose sends, `address` and store all succeed, once it ends, has told
the handler `channel_stopped` once. -/
theorem seeding_course_ends_channel_stopped (cfg : Settings) (self : Authority)
    (es : List Event) {p : Seed} (h : (start cfg self).run es = some p)
    (hc : cfg.hostPoolCapacity ≠ 0) (hs : ∀ e ∈ es, e.succeeds = true)
    (he : Event.stopped ∈ es ∨ Event.stored .success ∈ es) : p.completed = [.channelStopped] := by
  have hl := run_completes h he
  have hclean := run_clean (start_clean cfg self hc) hs h
  have hf := (run_inv (start_inv cfg self) h).failed
  obtain ⟨c, hcp⟩ := List.length_eq_one.mp hl
  have hm : c ∈ p.completed := hcp ▸ List.mem_singleton_self c
  rw [hcp, (hclean c hm).resolve_left (hf c hm)]

/-- The own address sent, `get_address` sent, the peer's addresses received and stored. -/
theorem seeding_course_ends_channel_stopped_store :
    let cfg : Settings := { Settings.default with hostPoolCapacity := 1000 }
    let es : List Event :=
      [.sentAddress .success, .sentGetAddress .success, .address .success, .stored .success]
    let p := ((start cfg ⟨1, 8333⟩).run es).getD create
    (start cfg ⟨1, 8333⟩).run es = some p ∧ cfg.hostPoolCapacity ≠ 0 ∧
      (∀ e ∈ es, e.succeeds = true) ∧ (Event.stopped ∈ es ∨ Event.stored .success ∈ es) ∧
      p.completed = [.channelStopped] := by
  intro cfg es p
  have h : (start cfg ⟨1, 8333⟩).run es = some p := by decide
  exact ⟨h, by decide, by decide, .inr (by decide),
    seeding_course_ends_channel_stopped cfg ⟨1, 8333⟩ es h (by decide) (by decide) (.inr (by decide))⟩

end Seed

end PeerNetwork
