import Mathlib.Data.Finset.Basic
import PeerNetwork.Async

namespace PeerNetwork

/-- The `(ip, port)` identity of a remote endpoint. -/
structure Authority where
  ip : Nat
  port : Nat
  deriving DecidableEq, Repr

/-- What `p2p` reads of a channel: its own nonce, its direction, whether it is quiet (a seed
channel), the remote authority, and the nonce of the `version` message the peer sent. -/
structure Channel where
  nonce : UInt64
  inbound : Bool
  quiet : Bool
  authority : Authority
  peerNonce : UInt64
  deriving DecidableEq, Repr

/-- The supervisor's fields that loopback detection and channel counting use, on the network
strand, with the host pool's set of reserved authorities. -/
structure P2p where
  enableLoopback : Bool
  closed : Bool
  nonces : Finset UInt64
  inboundChannelCount : Nat
  totalChannelCount : Nat
  reserved : Finset Authority
  deriving DecidableEq

def sizeBound : Nat := 2 ^ 64

namespace P2p

def initial (enableLoopback : Bool) : P2p := ⟨enableLoopback, false, ∅, 0, 0, ∅⟩

/-- Modelled from the spec: `hosts::reserve`, whose source is not among this repository's
files, inserts an authority that is not yet reserved and reports whether it did. -/
def reserve (r : Finset Authority) (a : Authority) : Bool × Finset Authority :=
  if a ∈ r then (false, r) else (true, insert a r)

theorem reserve_of_mem {r : Finset Authority} {a : Authority} (h : a ∈ r) :
    reserve r a = (false, r) := if_pos h

theorem reserve_of_not_mem {r : Finset Authority} {a : Authority} (h : a ∉ r) :
    reserve r a = (true, insert a r) := if_neg h

def unreserve (r : Finset Authority) (a : Authority) : Finset Authority := r.erase a

def storeNonce (s : P2p) (c : Channel) : Bool × P2p :=
  if s.enableLoopback ∨ c.inbound then (true, s)
  else if c.nonce ∈ s.nonces then (false, s)
  else (true, { s with nonces := insert c.nonce s.nonces })

def unstoreNonce (s : P2p) (c : Channel) : Bool × P2p :=
  if s.enableLoopback ∨ c.inbound then (true, s)
  else if c.nonce ∈ s.nonces then (true, { s with nonces := s.nonces.erase c.nonce })
  else (false, s)

def isLoopback (s : P2p) (c : Channel) : Bool :=
  if s.enableLoopback ∨ !c.inbound then false else c.peerNonce ∈ s.nonces

def countChannel (s : P2p) (c : Channel) : Code × P2p :=
  if s.closed then (.serviceStopped, s)
  else if s.isLoopback c then (.acceptFailed, s)
  else if c.inbound ∧ (s.inboundChannelCount + 1) % sizeBound = 0 then (.channelOverflow, s)
  else if !c.quiet ∧ (s.totalChannelCount + 1) % sizeBound = 0 then (.channelOverflow, s)
  else if !(reserve s.reserved c.authority).1 then (.addressInUse, s)
  else (.success,
    { s with
      reserved := (reserve s.reserved c.authority).2
      inboundChannelCount :=
        if c.inbound then (s.inboundChannelCount + 1) % sizeBound else s.inboundChannelCount
      totalChannelCount :=
        if !c.quiet then (s.totalChannelCount + 1) % sizeBound else s.totalChannelCount })

def uncountChannel (s : P2p) (c : Channel) : P2p :=
  let s' := { s with reserved := unreserve s.reserved c.authority }
  if c.inbound ∧ s'.inboundChannelCount = 0 then s'
  else if !c.quiet ∧ s'.totalChannelCount = 0 then s'
  else
    { s' with
      inboundChannelCount :=
        if c.inbound then (s'.inboundChannelCount + sizeBound - 1) % sizeBound
        else s'.inboundChannelCount
      totalChannelCount :=
        if !c.quiet then (s'.totalChannelCount + sizeBound - 1) % sizeBound
        else s'.totalChannelCount }

def close (s : P2p) : P2p := { s with closed := true }

variable {s : P2p} {c : Channel}

theorem countChannel_cases (s : P2p) (c : Channel) :
    (s.countChannel c).1 ≠ .success ∧ (s.countChannel c).2 = s ∨
    (s.countChannel c).1 = .success ∧ c.authority ∉ s.reserved ∧
    (c.inbound = true → (s.inboundChannelCount + 1) % sizeBound ≠ 0) ∧
    (c.quiet = false → (s.totalChannelCount + 1) % sizeBound ≠ 0) ∧
    (s.countChannel c).2 = { s with
      reserved := insert c.authority s.reserved
      inboundChannelCount :=
        if c.inbound then (s.inboundChannelCount + 1) % sizeBound else s.inboundChannelCount
      totalChannelCount :=
        if !c.quiet then (s.totalChannelCount + 1) % sizeBound else s.totalChannelCount } := by
  unfold countChannel
  split
  · exact .inl ⟨nofun, rfl⟩
  split
  · exact .inl ⟨nofun, rfl⟩
  split
  · exact .inl ⟨nofun, rfl⟩
  split
  · exact .inl ⟨nofun, rfl⟩
  by_cases hr : c.authority ∈ s.reserved
  · rw [if_pos (by simp [reserve_of_mem hr])]
    exact .inl ⟨nofun, rfl⟩
  · rename_i _ _ hi hq
    rw [if_neg (by simp [reserve_of_not_mem hr]), reserve_of_not_mem hr]
    exact .inr ⟨rfl, hr, fun h => by simpa [h] using hi, fun h => by simpa [h] using hq, rfl⟩

theorem countChannel_eq_self (h : (s.countChannel c).1 ≠ .success) : (s.countChannel c).2 = s :=
  (countChannel_cases s c).elim And.right fun h' => absurd h'.1 h

theorem countChannel_of_success (h : (s.countChannel c).1 = .success) :
    c.authority ∉ s.reserved ∧
    (c.inbound = true → (s.inboundChannelCount + 1) % sizeBound ≠ 0) ∧
    (c.quiet = false → (s.totalChannelCount + 1) % sizeBound ≠ 0) ∧
    (s.countChannel c).2 = { s with
      reserved := insert c.authority s.reserved
      inboundChannelCount :=
        if c.inbound then (s.inboundChannelCount + 1) % sizeBound else s.inboundChannelCount
      totalChannelCount :=
        if !c.quiet then (s.totalChannelCount + 1) % sizeBound else s.totalChannelCount } :=
  (countChannel_cases s c).elim (fun h' => absurd h h'.1) And.right

theorem countChannel_frame : (s.countChannel c).2.nonces = s.nonces ∧
    (s.countChannel c).2.closed = s.closed ∧
    (s.countChannel c).2.enableLoopback = s.enableLoopback := by
  rcases countChannel_cases s c with ⟨-, h⟩ | ⟨-, -, -, -, h⟩ <;> rw [h] <;> exact ⟨rfl, rfl, rfl⟩

@[simp] theorem countChannel_nonces : (s.countChannel c).2.nonces = s.nonces :=
  countChannel_frame.1
@[simp] theorem countChannel_closed : (s.countChannel c).2.closed = s.closed :=
  countChannel_frame.2.1
@[simp] theorem countChannel_enableLoopback :
    (s.countChannel c).2.enableLoopback = s.enableLoopback :=
  countChannel_frame.2.2

theorem countChannel_acceptFailed :
    (s.countChannel c).1 = .acceptFailed ↔ s.closed = false ∧ s.isLoopback c = true := by
  unfold countChannel
  split_ifs <;> simp_all

@[simp] theorem uncountChannel_nonces : (s.uncountChannel c).nonces = s.nonces := by
  unfold uncountChannel; dsimp only; split_ifs <;> rfl
@[simp] theorem uncountChannel_enableLoopback :
    (s.uncountChannel c).enableLoopback = s.enableLoopback := by
  unfold uncountChannel; dsimp only; split_ifs <;> rfl
@[simp] theorem uncountChannel_reserved :
    (s.uncountChannel c).reserved = s.reserved.erase c.authority := by
  unfold uncountChannel; dsimp only; split_ifs <;> rfl

theorem uncountChannel_counts (hi : c.inbound = true → s.inboundChannelCount ≠ 0)
    (ht : c.quiet = false → s.totalChannelCount ≠ 0) (hib : s.inboundChannelCount < sizeBound)
    (htb : s.totalChannelCount < sizeBound) :
    (s.uncountChannel c).inboundChannelCount =
      s.inboundChannelCount - (if c.inbound then 1 else 0) ∧
    (s.uncountChannel c).totalChannelCount =
      s.totalChannelCount - (if c.quiet then 0 else 1) := by
  unfold uncountChannel; dsimp only
  cases hq : c.quiet <;> cases hb : c.inbound <;> simp_all [sizeBound] <;> omega

theorem storeNonce_eq (s : P2p) (c : Channel) :
    (s.storeNonce c).2 = { s with nonces := (s.storeNonce c).2.nonces } := by
  unfold storeNonce; split_ifs <;> rfl

theorem unstoreNonce_eq (s : P2p) (c : Channel) :
    (s.unstoreNonce c).2 = { s with nonces := (s.unstoreNonce c).2.nonces } := by
  unfold unstoreNonce; split_ifs <;> rfl

/-- The network strand's reachable states, with the channels counted and not uncounted (`live`) and
the outbound ones whose nonce is stored (`stored`). -/
inductive Reachable : P2p → List Channel → List Channel → Prop where
  | initial (enableLoopback : Bool) : Reachable (initial enableLoopback) [] []
  | count {s : P2p} {live stored : List Channel} (c : Channel) : Reachable s live stored →
      Reachable (s.countChannel c).2
        (if (s.countChannel c).1 = .success then c :: live else live) stored
  | uncount {s : P2p} {live stored : List Channel} (c : Channel) : Reachable s live stored →
      c ∈ live → Reachable (s.uncountChannel c) (live.erase c) stored
  | store {s : P2p} {live stored : List Channel} (c : Channel) : Reachable s live stored →
      Reachable (s.storeNonce c).2 live
        (if (s.storeNonce c).1 = true ∧ c.inbound = false then c :: stored else stored)
  | unstore {s : P2p} {live stored : List Channel} (c : Channel) : Reachable s live stored →
      c ∈ stored → Reachable (s.unstoreNonce c).2 live (stored.erase c)
  | close {s : P2p} {live stored : List Channel} : Reachable s live stored →
      Reachable s.close live stored

structure Counted (s : P2p) (live : List Channel) : Prop where
  total : s.totalChannelCount = live.countP (fun c => !c.quiet)
  inbound : s.inboundChannelCount = live.countP (·.inbound)
  reserved : s.reserved = (live.map (·.authority)).toFinset
  nodup : (live.map (·.authority)).Nodup
  total_lt : s.totalChannelCount < sizeBound
  inbound_lt : s.inboundChannelCount < sizeBound

structure Stored (s : P2p) (stored : List Channel) : Prop where
  nonces : s.nonces = (stored.map (·.nonce)).toFinset
  nodup : (stored.map (·.nonce)).Nodup
  outbound : ∀ c ∈ stored, c.inbound = false

theorem map_erase_toFinset {β : Type} [DecidableEq β] {f : Channel → β} {l : List Channel}
    (hc : c ∈ l) (hn : (l.map f).Nodup) :
    ((l.erase c).map f).toFinset = (l.map f).toFinset.erase (f c) ∧ ((l.erase c).map f).Nodup := by
  have hp : (l.map f).Perm (f c :: (l.erase c).map f) := (List.perm_cons_erase hc).map f
  obtain ⟨hnot, hnd⟩ := List.nodup_cons.mp (hp.nodup_iff.mp hn)
  refine ⟨?_, hnd⟩
  rw [List.toFinset_eq_of_perm _ _ hp, List.toFinset_cons,
    Finset.erase_insert (by simpa using hnot)]

theorem bump_countP (p : Channel → Bool) {n : Nat} {live : List Channel} (h : n = live.countP p)
    (hlt : n < sizeBound) (hb : p c = true → (n + 1) % sizeBound ≠ 0) :
    (if p c then (n + 1) % sizeBound else n) = (c :: live).countP p ∧
      (if p c then (n + 1) % sizeBound else n) < sizeBound := by
  rw [List.countP_cons, ← h]
  split
  · have := hb ‹_›
    simp only [sizeBound, if_true] at *
    omega
  · omega

theorem Counted.count {live : List Channel} (h : Counted s live) :
    Counted (s.countChannel c).2 (if (s.countChannel c).1 = .success then c :: live else live) := by
  split
  · rename_i hs
    obtain ⟨hfree, hib, htb, heq⟩ := countChannel_of_success hs
    obtain ⟨ht, htl⟩ := bump_countP (fun c => !c.quiet) h.total h.total_lt (by simpa using htb)
    obtain ⟨hi, hil⟩ := bump_countP (·.inbound) h.inbound h.inbound_lt hib
    rw [heq]
    exact ⟨ht, hi, by simp [h.reserved],
      List.nodup_cons.mpr ⟨by simpa [h.reserved] using hfree, h.nodup⟩, htl, hil⟩
  · rwa [countChannel_eq_self ‹_›]

theorem Counted.uncount {live : List Channel} (h : Counted s live) (hc : c ∈ live) :
    Counted (s.uncountChannel c) (live.erase c) := by
  obtain ⟨h1, h2, h3, h4, h5, h6⟩ := h
  obtain ⟨hset, hnd⟩ := map_erase_toFinset hc h4
  have ht := (countP_erase_add (fun c => !c.quiet) hc).symm
  have hi := (countP_erase_add (·.inbound) hc).symm
  obtain ⟨hi', ht'⟩ := uncountChannel_counts (s := s) (c := c)
    (by intro hb; simp_all) (by intro hq; simp_all) h6 h5
  exact ⟨by cases hq : c.quiet <;> simp_all, by cases hb : c.inbound <;> simp_all,
    by simp [h3, hset], hnd, by omega, by omega⟩

theorem Counted.frame {s' : P2p} {live : List Channel} (h : Counted s live)
    (h1 : s'.totalChannelCount = s.totalChannelCount)
    (h2 : s'.inboundChannelCount = s.inboundChannelCount) (h3 : s'.reserved = s.reserved) :
    Counted s' live :=
  ⟨h1 ▸ h.total, h2 ▸ h.inbound, h3 ▸ h.reserved, h.nodup, h1 ▸ h.total_lt, h2 ▸ h.inbound_lt⟩

theorem Reachable.counted {live stored : List Channel} (h : Reachable s live stored) :
    Counted s live := by
  induction h with
  | initial => exact ⟨rfl, rfl, rfl, List.nodup_nil, by simp [P2p.initial, sizeBound], by simp [P2p.initial, sizeBound]⟩
  | count c _ ih => exact ih.count
  | uncount c _ hc ih => exact ih.uncount hc
  | store c _ ih => rw [storeNonce_eq]; exact ih.frame rfl rfl rfl
  | unstore c _ _ ih => rw [unstoreNonce_eq]; exact ih.frame rfl rfl rfl
  | close _ ih => exact ih.frame rfl rfl rfl

theorem Stored.frame {s' : P2p} {stored : List Channel} (h : Stored s stored)
    (hn : s'.nonces = s.nonces) : Stored s' stored :=
  ⟨hn ▸ h.nonces, h.nodup, h.outbound⟩

theorem Stored.store {stored : List Channel} (h : Stored s stored) (hl : s.enableLoopback = false) :
    Stored (s.storeNonce c).2
      (if (s.storeNonce c).1 = true ∧ c.inbound = false then c :: stored else stored) := by
  cases hb : c.inbound
  · by_cases hn : c.nonce ∈ s.nonces
    · simpa [storeNonce, hl, hb, hn] using h
    · have hn' : c.nonce ∉ stored.map (·.nonce) := by simpa [h.nonces] using hn
      simp only [storeNonce, hl, hb, hn, Bool.false_eq_true, or_self, if_false, and_self, if_true]
      exact ⟨by simp [h.nonces], List.nodup_cons.mpr ⟨hn', h.nodup⟩,
        by simpa [hb] using h.outbound⟩
  · simpa [storeNonce, hb] using h

theorem Stored.unstore {stored : List Channel} (h : Stored s stored) (hl : s.enableLoopback = false)
    (hc : c ∈ stored) : Stored (s.unstoreNonce c).2 (stored.erase c) := by
  obtain ⟨h1, h2, h3⟩ := h
  obtain ⟨hset, hnd⟩ := map_erase_toFinset hc h2
  have hmem : c.nonce ∈ s.nonces := by rw [h1]; simpa using ⟨c, hc, rfl⟩
  have he : (s.unstoreNonce c).2.nonces = s.nonces.erase c.nonce := by
    simp [unstoreNonce, hl, h3 c hc, hmem]
  exact ⟨by rw [he, h1, hset], hnd, fun d hd => h3 d (List.mem_of_mem_erase hd)⟩

@[simp] theorem storeNonce_enableLoopback :
    (s.storeNonce c).2.enableLoopback = s.enableLoopback := by
  rw [storeNonce_eq]
@[simp] theorem unstoreNonce_enableLoopback :
    (s.unstoreNonce c).2.enableLoopback = s.enableLoopback := by
  rw [unstoreNonce_eq]

theorem Reachable.stored {live stored : List Channel} (h : Reachable s live stored)
    (hl : s.enableLoopback = false) : Stored s stored := by
  induction h with
  | initial => exact ⟨rfl, List.nodup_nil, by simp⟩
  | count c _ ih => exact (ih (by simpa using hl)).frame (by simp)
  | uncount c _ _ ih => exact (ih (by simpa using hl)).frame (by simp)
  | store c _ ih => exact (ih (by simpa using hl)).store (by simpa using hl)
  | unstore c _ hc ih => exact (ih (by simpa using hl)).unstore (by simpa using hl) hc
  | close _ ih => exact (ih hl).frame rfl

/-- Over every run the counters count the live channels, the non-quiet and the inbound ones, without
wrapping; the reserved set is their distinct authorities; a failed count changes nothing. -/
theorem counting_invariant {s : P2p} {live stored : List Channel} (h : Reachable s live stored) :
    s.totalChannelCount = live.countP (fun c => !c.quiet) ∧
    s.inboundChannelCount = live.countP (·.inbound) ∧
    s.reserved = (live.map (·.authority)).toFinset ∧ (live.map (·.authority)).Nodup ∧
    s.totalChannelCount < sizeBound ∧ s.inboundChannelCount < sizeBound ∧
    ∀ c, (s.countChannel c).1 ≠ .success →
      (s.countChannel c).2.totalChannelCount = s.totalChannelCount ∧
      (s.countChannel c).2.inboundChannelCount = s.inboundChannelCount ∧
      (s.countChannel c).2.reserved = s.reserved := by
  obtain ⟨h1, h2, h3, h4, h5, h6⟩ := h.counted
  refine ⟨h1, h2, h3, h4, h5, h6, fun c hc => ?_⟩
  rw [countChannel_eq_self hc]
  exact ⟨rfl, rfl, rfl⟩

/-- An inbound and an outbound channel counted, then the inbound one uncounted: the
counters are back to the outbound channel alone. -/
theorem counting_invariant_after_uncount :
    let a : Channel := ⟨1, true, false, ⟨1, 8333⟩, 5⟩
    let b : Channel := ⟨2, false, false, ⟨2, 8333⟩, 0⟩
    let s := ((((P2p.initial false).countChannel a).2.countChannel b).2.uncountChannel a)
    Reachable s [b] [] ∧ s.totalChannelCount = 1 ∧ s.inboundChannelCount = 0 := by
  intro a b s
  have hr : Reachable s [b] [] := by
    have h := (Reachable.count b (Reachable.count a (Reachable.initial false))).uncount a
    simp only [show ((P2p.initial false).countChannel a).1 = .success by decide,
      show (((P2p.initial false).countChannel a).2.countChannel b).1 = .success by decide,
      if_true] at h
    exact (by decide : [b, a].erase a = [b]) ▸ h (by simp)
  exact ⟨hr, (counting_invariant hr).1.trans (by decide), (counting_invariant hr).2.1.trans (by decide)⟩

/-- Over every run with `enable_loopback` off, the nonce set is the stored channels' nonces and an
inbound count fails with `accept_failed` exactly when the peer echoes one. -/
theorem loopback_invariant {s : P2p} {live stored : List Channel} (h : Reachable s live stored)
    (hl : s.enableLoopback = false) :
    s.nonces = (stored.map (·.nonce)).toFinset ∧
    (∀ c : Channel, c.inbound = true → s.closed = false →
      ((s.countChannel c).1 = .acceptFailed ↔ c.peerNonce ∈ stored.map (·.nonce))) ∧
    ∀ c : Channel, c.inbound = false → (s.countChannel c).1 ≠ .acceptFailed := by
  have hn := (h.stored hl).nonces
  refine ⟨hn, fun c hi hc => ?_, fun c hi => ?_⟩
  · simp [countChannel_acceptFailed, isLoopback, hl, hi, hn, hc]
  · simp [countChannel_acceptFailed, isLoopback, hi]

/-- Our outbound channel stored its nonce, and an inbound peer echoes it: the count fails with
`accept_failed`. -/
theorem loopback_invariant_echo :
    let a : Channel := ⟨7, false, false, ⟨1, 8333⟩, 3⟩
    let b : Channel := ⟨9, true, false, ⟨2, 8333⟩, 7⟩
    let s := ((P2p.initial false).storeNonce a).2
    Reachable s [] [a] ∧ s.enableLoopback = false ∧ (s.countChannel b).1 = .acceptFailed := by
  intro a b s
  have hr : Reachable s [] [a] := by
    have h := Reachable.store a (Reachable.initial false)
    rwa [show (if ((P2p.initial false).storeNonce a).1 = true ∧ a.inbound = false then [a] else [])
      = [a] by decide] at h
  exact ⟨hr, rfl, ((loopback_invariant hr rfl).2.1 b rfl rfl).mpr (by simp [a, b])⟩

end P2p

end PeerNetwork
