import Mathlib.Data.List.Count
import PeerNetwork.ManualRuns

namespace PeerNetwork

inductive P2pManual.Job where
  | start
  | connect (host : Authority) (handled : Bool)
  | close
  deriving DecidableEq, Repr

/-- `p2p`'s manual connection path: `closed_`, the posted jobs, the handlers answered
`service_stopped`, the dropped handlerless connects, and `manual_`'s session. -/
structure P2pManual where
  closed : Bool
  started : Bool
  attached : Bool
  posted : List P2pManual.Job
  refused : List Authority
  dropped : List Authority
  session : Manual
  deriving DecidableEq, Repr

namespace P2pManual

variable (notify : Bool)

def create : P2pManual := ⟨false, false, false, [], [], [], Manual.create⟩

/-- `do_start`: `manual_ = attach_manual_session()`, then its `start`. The session is stopped
from its start when `do_close` has already stopped the stop subscribers it subscribes to. -/
def doStart (p : P2pManual) : P2pManual := { p with attached := true }

/-- `do_connect` and `do_connect_handled`. Their session API, `connect(endpoint[, notifier])`, is
not among this repository's files; `Manual.connect`, `session_manual.cpp`'s `connect(authority,
handler)`, stands in for it. -/
def doConnect (p : P2pManual) (host : Authority) (handled : Bool) : P2pManual :=
  if p.attached then { p with session := p.session.connect host }
  else if handled then { p with refused := p.refused ++ [host] }
  else { p with dropped := p.dropped ++ [host] }

/-- `do_close`: `manual_.reset()`, then `stop_subscriber_.stop(service_stopped)`, which stops
every session, the manual one among them. -/
def doClose (p : P2pManual) : P2pManual :=
  { p with attached := false, session := { p.session with stopped := true } }

def runJob (p : P2pManual) : Job → P2pManual
  | .start => p.doStart
  | .connect host handled => p.doConnect host handled
  | .close => p.doClose

def connectHandled (p : P2pManual) (host : Authority) : P2pManual :=
  if p.closed then { p with refused := p.refused ++ [host] }
  else { p with posted := p.posted ++ [.connect host true] }

/-- A caller's `start`, `connect` or `close`, posted to the strand; the strand running its oldest
job; or a session event other than a connect or a stop. -/
inductive Event where
  | start
  | connect (host : Authority) (handled : Bool)
  | close
  | run
  | session (e : Manual.Event)
  deriving DecidableEq, Repr

def step (p : P2pManual) : Event → Option P2pManual
  | .start =>
    if p.started then none else some { p with started := true, posted := p.posted ++ [.start] }
  | .connect host true => some (p.connectHandled host)
  | .connect host false => some { p with posted := p.posted ++ [.connect host false] }
  | .close => some { p with closed := true, posted := p.posted ++ [.close] }
  | .run =>
    match p.posted with
    | j :: rest => some (runJob { p with posted := rest } j)
    | [] => none
  | .session (.connect _) | .session .stop => none
  | .session e => (p.session.step notify e).map fun s => { p with session := s }

def run (p : P2pManual) : List Event → Option P2pManual
  | [] => some p
  | e :: es => (step notify p e).bind fun p' => run p' es

variable {notify} {p p' : P2pManual}

theorem step_run_eq (hs : step notify p .run = some p') :
    ∃ j rest, p.posted = j :: rest ∧ p' = runJob { p with posted := rest } j := by
  simp only [step] at hs
  split at hs
  · exact ⟨_, _, ‹_›, (Option.some.inj hs).symm⟩
  · cases hs

theorem step_session_eq {e : Manual.Event} (hs : step notify p (.session e) = some p') :
    (∀ h, e ≠ .connect h) ∧ e ≠ .stop ∧
      ∃ s, p.session.step notify e = some s ∧ p' = { p with session := s } := by
  cases e with
  | connect h => cases hs
  | stop => cases hs
  | _ =>
    simp only [step, Option.map_eq_some'] at hs
    obtain ⟨s, hs, rfl⟩ := hs
    exact ⟨fun _ => nofun, nofun, s, hs, rfl⟩

/-- `close` takes effect on the strand: until `do_close` has run it waits there, and from then
on the manual session is stopped. -/
def Closing (p : P2pManual) : Prop :=
  p.closed = true → Job.close ∈ p.posted ∨ p.session.stopped = true

theorem runJob_frame (p : P2pManual) (j : Job) :
    (p.runJob j).closed = p.closed ∧ (p.runJob j).posted = p.posted := by
  cases j with
  | connect h handled => simp only [runJob, doConnect]; split_ifs <;> exact ⟨rfl, rfl⟩
  | _ => exact ⟨rfl, rfl⟩

theorem runJob_drains (p : P2pManual) (j : Job) (hst : p.session.stopped = true) :
    Manual.Drains p.session (p.runJob j).session := by
  cases j with
  | start => exact Manual.Drains.refl hst
  | connect h handled =>
    simp only [runJob, doConnect]
    split_ifs
    · exact Manual.step_drains hst (show p.session.step true (.connect h) = some _ from rfl)
    all_goals exact Manual.Drains.refl hst
  | close => exact ⟨rfl, rfl, .refl _, .refl _⟩

theorem runJob_stopped (p : P2pManual) (j : Job) (hst : p.session.stopped = true ∨ j = .close) :
    (p.runJob j).session.stopped = true := by
  rcases hst with hst | rfl
  · exact (runJob_drains p j hst).stopped
  · rfl

theorem step_closing {e : Event} (hi : Closing p) (hs : step notify p e = some p') :
    Closing p' := by
  intro hc
  cases e with
  | start =>
    simp only [step] at hs
    split at hs <;> cases hs
    simpa using hi hc
  | connect h handled =>
    cases handled <;> cases hs
    · simpa using hi hc
    · by_cases hcl : p.closed
      · simpa [connectHandled, hcl] using hi hcl
      · simp [connectHandled, hcl] at hc
  | close => cases hs; simp
  | run =>
    obtain ⟨j, rest, hp, rfl⟩ := step_run_eq hs
    obtain ⟨hc', hp'⟩ := runJob_frame { p with posted := rest } j
    rw [hc'] at hc
    rw [hp']
    rcases hi hc with hm | hst
    · rw [hp, List.mem_cons] at hm
      rcases hm with rfl | hm
      · exact .inr (runJob_stopped _ _ (.inr rfl))
      · exact .inl hm
    · exact .inr (runJob_stopped { p with posted := rest } j (.inl hst))
  | session e =>
    obtain ⟨-, -, s, he, rfl⟩ := step_session_eq hs
    rcases hi hc with hm | hst
    · exact .inl hm
    · exact .inr (Manual.step_drains hst he).stopped

theorem step_drains {e : Event} (hst : p.session.stopped = true) (hs : step notify p e = some p') :
    Manual.Drains p.session p'.session := by
  cases e with
  | start =>
    simp only [step] at hs
    split at hs <;> cases hs
    exact Manual.Drains.refl hst
  | connect h handled =>
    cases handled <;> cases hs
    · exact Manual.Drains.refl hst
    · unfold connectHandled; split <;> exact Manual.Drains.refl hst
  | close => cases hs; exact Manual.Drains.refl hst
  | run =>
    obtain ⟨j, rest, -, rfl⟩ := step_run_eq hs
    exact runJob_drains { p with posted := rest } j hst
  | session e =>
    obtain ⟨-, -, s, he, rfl⟩ := step_session_eq hs
    exact Manual.step_drains hst he

theorem run_closing {es : List Event} (hi : Closing p) (hs : run notify p es = some p') :
    Closing p' := by
  induction es generalizing p with
  | nil => cases hs; exact hi
  | cons e es ih =>
    simp only [run, Option.bind_eq_some] at hs
    obtain ⟨p₁, h₁, h₂⟩ := hs
    exact ih (step_closing hi h₁) h₂

end P2pManual

end PeerNetwork
