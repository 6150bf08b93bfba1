import Mathlib.Data.Nat.Bitwise
import PeerNetwork.P2p

namespace PeerNetwork

/-- What the address filters read of a pool address; `is_v6` and `is_specified` belong to the
address library, which is not among this repository's files. -/
structure AddressItem where
  authority : Authority
  services : UInt64
  v6 : Bool
  specified : Bool
  deriving DecidableEq, Repr

/-- The `settings` fields the address filters read, at the widths `settings.hpp` declares
them. -/
structure FilterSettings where
  enableIpv6 : Bool
  servicesMinimum : UInt64
  invalidServices : UInt64
  blacklists : List Authority
  whitelists : List Authority
  friends : List Authority
  deriving DecidableEq, Repr

namespace FilterSettings

def disabled (s : FilterSettings) (item : AddressItem) : Bool := !s.enableIpv6 && item.v6

def insufficient (s : FilterSettings) (item : AddressItem) : Bool :=
  (item.services &&& s.servicesMinimum) != s.servicesMinimum

def unsupported (s : FilterSettings) (item : AddressItem) : Bool :=
  (item.services &&& s.invalidServices) != 0

def blacklisted (s : FilterSettings) (item : AddressItem) : Bool :=
  s.blacklists.contains item.authority

def whitelisted (s : FilterSettings) (item : AddressItem) : Bool :=
  s.whitelists.isEmpty || s.whitelists.contains item.authority

def peered (s : FilterSettings) (item : AddressItem) : Bool := s.friends.contains item.authority

def excluded (s : FilterSettings) (item : AddressItem) : Bool :=
  !item.specified || s.disabled item || s.insufficient item || s.unsupported item ||
    s.peered item || s.blacklisted item || !s.whitelisted item

theorem unsupported_of_sufficient {s : FilterSettings} {item : AddressItem}
    (hs : s.insufficient item = false) (hc : s.servicesMinimum &&& s.invalidServices ≠ 0) :
    s.unsupported item = true := by
  simp only [insufficient, bne_eq_false_iff_eq] at hs
  simp only [unsupported, bne_iff_ne, ne_eq]
  intro h0
  apply hc
  apply UInt64.toNat.inj
  have hs' := congrArg UInt64.toNat hs
  have h0' := congrArg UInt64.toNat h0
  simp only [UInt64.and_toNat, UInt64.toNat_zero] at hs' h0' ⊢
  calc s.servicesMinimum.toNat &&& s.invalidServices.toNat
      = (item.services.toNat &&& s.servicesMinimum.toNat) &&& s.invalidServices.toNat := by
        rw [hs']
    _ = (item.services.toNat &&& s.invalidServices.toNat) &&& s.servicesMinimum.toNat := by
        rw [Nat.land_assoc, Nat.land_comm s.servicesMinimum.toNat, ← Nat.land_assoc]
    _ = 0 := by rw [h0', Nat.zero_and]

/-- A `services_minimum` that shares a bit with `invalid_services` excludes every address. -/
theorem conflicting_services_exclude_all {s : FilterSettings}
    (hc : s.servicesMinimum &&& s.invalidServices ≠ 0) (item : AddressItem) :
    s.excluded item = true := by
  cases hi : s.insufficient item
  · simp [excluded, unsupported_of_sufficient hi hc]
  · simp [excluded, hi]

/-- A minimum with the bit 16, which the default `invalid_services` (176) also has: an address
offering the minimum is unsupported. -/
theorem conflicting_services_exclude_all_bit16 :
    let s : FilterSettings := ⟨false, 17, 176, [], [], []⟩
    s.servicesMinimum &&& s.invalidServices ≠ 0 ∧
      s.excluded ⟨⟨1, 8333⟩, 17, false, true⟩ = true :=
  ⟨by decide, conflicting_services_exclude_all (by decide) _⟩

end FilterSettings

end PeerNetwork
