import PeerNetwork.ManualRuns
import PeerNetwork.Settings

namespace PeerNetwork

namespace Manual

/-- `session_manual` with a connector's second call of one connect (after a failure, never
`success`) and each adopted channel's `handle_channel_start` report. -/
structure Full where
  session : Manual
  owed : List Authority
  starting : List Authority
  started : List (Authority × Code)
  deriving DecidableEq, Repr

namespace Full

variable (notify : Bool)

def create : Full := ⟨Manual.create, [], [], []⟩

inductive Event where
  | session (e : Manual.Event)
  | again (host : Authority) (ec : Code) (t delay : Nat)
  | started (host : Authority) (ec : Code)
  deriving DecidableEq, Repr

/-- A first call of a connect's handler may leave a second one owed, and a success adopts a
channel whose start is still to be reported. -/
def step (s : Full) : Event → Option Full
  | .session (.connected host ec t delay) =>
    (s.session.step notify (.connected host ec t delay)).map fun m =>
      { s with session := m,
               owed := if ec = .success then s.owed else s.owed ++ [host],
               starting := if ec = .success ∧ s.session.stopped = false then s.starting ++ [host]
                 else s.starting }
  | .session e => (s.session.step notify e).map fun m => { s with session := m }
  | .again host ec t delay =>
    if host ∈ s.owed ∧ ec ≠ .success ∧ s.session.now ≤ t then
      some { s with session := handleConnect notify { s.session with now := t } host ec delay,
                    owed := s.owed.erase host }
    else none
  | .started host ec =>
    if host ∈ s.starting then
      some { s with starting := s.starting.erase host, started := s.started ++ [(host, ec)] }
    else none

def run (s : Full) : List Event → Option Full
  | [] => some s
  | e :: es => (step notify s e).bind fun s' => run s' es

variable {notify} {s s' : Full}

theorem step_session_eq {e : Manual.Event} (hs : step notify s (.session e) = some s') :
    s.session.step notify e = some s'.session := by
  cases e <;> simp only [step, Option.map_eq_some'] at hs <;> obtain ⟨m, hm, rfl⟩ := hs <;>
    exact hm

theorem run_sessions (s : Full) (es : List Manual.Event) :
    (run notify s (es.map .session)).map (·.session) = s.session.run notify es := by
  induction es generalizing s with
  | nil => rfl
  | cons e es ih =>
    simp only [List.map_cons, run, Manual.run]
    cases hs : step notify s (.session e) with
    | none =>
      cases hm : s.session.step notify e
      · rfl
      · exfalso
        cases e <;> simp_all [step]
    | some s₁ => rw [step_session_eq hs]; simpa only [Option.some_bind] using ih s₁

end Full

def AttemptsFrom (host : Authority) (b : Nat) (m m' : Manual) : Prop :=
  ∃ l, m'.attempts = m.attempts ++ l ∧ ∀ a ∈ l, a.1 = host → b ≤ a.2

section Late

variable {host : Authority} {t₀ b : Nat} {m : Manual}

theorem AttemptsFrom.refl (m : Manual) : AttemptsFrom host b m m := ⟨[], by simp, by simp⟩

theorem AttemptsFrom.trans {m₁ m₂ : Manual} (h₁ : AttemptsFrom host b m m₁)
    (h₂ : AttemptsFrom host b m₁ m₂) : AttemptsFrom host b m m₂ := by
  obtain ⟨l₁, e₁, g₁⟩ := h₁
  obtain ⟨l₂, e₂, g₂⟩ := h₂
  refine ⟨l₁ ++ l₂, by rw [e₂, e₁, List.append_assoc], fun a ha => ?_⟩
  rcases List.mem_append.mp ha with ha | ha
  exacts [g₁ a ha, g₂ a ha]

end Late

namespace Full

section Late

variable {host : Authority} {t₀ b : Nat} {s s' : Full}

end Late

end Full

end Manual

end PeerNetwork
