import Mathlib.Data.List.Count
import PeerNetwork.SessionManual

namespace PeerNetwork

namespace Manual

variable {notify : Bool} {s s' : Manual}

/-- What a stopped session can still do to itself: stay stopped, make no connect attempt, and
only lose connects in flight and channels. -/
structure Drains (s s' : Manual) : Prop where
  stopped : s'.stopped = true
  attempts : s'.attempts = s.attempts
  connecting : s'.connecting.Sublist s.connecting
  channels : s'.channels.Sublist s.channels

theorem Drains.refl (hst : s.stopped = true) : Drains s s := ⟨hst, rfl, .refl _, .refl _⟩

theorem Drains.trans {s'' : Manual} (h₁ : Drains s s') (h₂ : Drains s' s'') : Drains s s'' :=
  ⟨h₂.stopped, h₂.attempts.trans h₁.attempts, h₂.connecting.trans h₁.connecting,
    h₂.channels.trans h₁.channels⟩

theorem startConnect_drains (hst : s.stopped = true) (h : Authority) :
    Drains s (s.startConnect h) := by
  simp only [startConnect, if_pos hst]
  exact ⟨hst, rfl, .refl _, .refl _⟩

theorem handleConnect_drains (hst : s.stopped = true) (h : Authority) (ec : Code) (delay : Nat) :
    Drains s (handleConnect notify s h ec delay) := by
  unfold handleConnect
  split_ifs <;> exact ⟨hst, rfl, .refl _, .refl _⟩

theorem step_drains {e : Event} (hst : s.stopped = true) (hs : step notify s e = some s') :
    Drains s s' := by
  cases e with
  | connect h =>
    cases hs
    simp only [connect, if_pos hst]
    exact ⟨hst, rfl, .refl _, .refl _⟩
  | connected h ec t delay =>
    obtain ⟨-, -, rfl⟩ := step_connected_eq hs
    have h₁ : Drains s { s with now := t, connecting := s.connecting.erase h } :=
      ⟨hst, rfl, s.connecting.erase_sublist h, .refl _⟩
    exact h₁.trans (handleConnect_drains (s := { s with now := t, connecting := _ }) hst h ec delay)
  | expire t =>
    obtain ⟨-, -, -, -, rfl⟩ := step_expire_eq hs
    exact ⟨hst, rfl, .refl _, .refl _⟩
  | timer t =>
    obtain ⟨h, -, rest, -, -, rfl⟩ := step_timer_eq hs
    have h₁ : Drains s { s with now := t, posted := rest } := ⟨hst, rfl, .refl _, .refl _⟩
    exact h₁.trans (startConnect_drains (s := { s with now := t, posted := rest }) hst h)
  | channelStopped h t =>
    obtain ⟨-, -, rfl⟩ := step_channelStopped_eq hs
    have h₁ : Drains s { s with now := t, channels := s.channels.erase h } :=
      ⟨hst, rfl, .refl _, s.channels.erase_sublist h⟩
    exact h₁.trans (startConnect_drains (s := { s with now := t, channels := _ }) hst h)
  | stop => cases hs; exact ⟨rfl, rfl, .refl _, .refl _⟩

/-- A stopped session, whatever comes next, stays stopped, makes no connect attempt, and only
drains, each caller's handler getting `service_stopped`. -/
theorem stopped_session_drains {es : List Event} (hst : s.stopped = true)
    (hs : run notify s es = some s') :
    s'.stopped = true ∧ s'.attempts = s.attempts ∧ s'.connecting.Sublist s.connecting ∧
      s'.channels.Sublist s.channels := by
  suffices h : Drains s s' from ⟨h.stopped, h.attempts, h.connecting, h.channels⟩
  induction es generalizing s with
  | nil => cases hs; exact Drains.refl hst
  | cons e es ih =>
    simp only [run, Option.bind_eq_some] at hs
    obtain ⟨s₁, h₁, h₂⟩ := hs
    have d₁ := step_drains hst h₁
    exact d₁.trans (ih d₁.stopped h₂)

/-- A session stopped with a connect in flight: the connect succeeds, and the channel is
not adopted. -/
theorem stopped_session_drains_success :
    let s : Manual := { create with stopped := true, connecting := [⟨1, 8333⟩] }
    let es : List Event := [.connected ⟨1, 8333⟩ .success 0 0, .connect ⟨2, 8333⟩]
    let s' := (run true s es).getD create
    s.stopped = true ∧ run true s es = some s' ∧
      (s'.stopped = true ∧ s'.attempts = s.attempts ∧ s'.connecting.Sublist s.connecting ∧
        s'.channels.Sublist s.channels) := by
  intro s es s'
  have h : run true s es = some s' := by decide
  exact ⟨rfl, h, stopped_session_drains rfl h⟩

end Manual

end PeerNetwork
