import Mathlib.Logic.Basic

namespace PeerNetwork

/-- The `error::` codes the modelled handlers produce or test; `other` stands for any code
that no modelled handler tells apart (the mapped asio errors, `invalid_magic`, ...). -/
inductive Code where
  | success
  | channelStopped
  | channelTimeout
  | operationCanceled
  | serviceStopped
  | connectFailed
  | acceptFailed
  | channelOverflow
  | addressInUse
  | addressBlocked
  | protocolViolation
  | other (value : Nat)
  deriving DecidableEq, Repr

/-- `pseudo_random::next(from, to)` of the system library, whose source is not among this
repository's files: uniform on `[from, to]`; `draw` is any value of its generator. -/
def pseudoRandomNext (lo hi draw : Nat) : Nat := lo + draw % (hi + 1 - lo)

theorem pseudoRandomNext_mem {lo hi : Nat} (h : lo ≤ hi) (draw : Nat) :
    lo ≤ pseudoRandomNext lo hi draw ∧ pseudoRandomNext lo hi draw ≤ hi := by
  have := Nat.mod_lt draw (show 0 < hi + 1 - lo by omega)
  unfold pseudoRandomNext
  omega

theorem countP_erase_add {α : Type} [BEq α] [LawfulBEq α] (p : α → Bool) {l : List α} {a : α}
    (ha : a ∈ l) : (l.erase a).countP p + (if p a then 1 else 0) = l.countP p := by
  induction l with
  | nil => cases ha
  | cons b l ih =>
    rw [List.erase_cons]
    split
    · rename_i hb
      rw [beq_iff_eq.mp hb, List.countP_cons]
    · rename_i hb
      have hm : a ∈ l := (List.mem_cons.mp ha).resolve_left fun e => hb (by simp [e])
      rw [List.countP_cons, List.countP_cons, ← ih hm]
      omega

/-- The deadline timer of spec §4.2, whose source is not among this repository's files. A cancelled
arm's handler gets `operation_canceled` when `notify` holds, as the spec says, and is dropped
otherwise, as the connector's comments say. -/
structure Deadline (α : Type) where
  armed : Option α
  deriving DecidableEq, Repr

namespace Deadline

variable {α : Type} (notify : Bool)

def idle : Deadline α := ⟨none⟩

def cancelled (t : Deadline α) : List (α × Code) :=
  match t.armed, notify with
  | some h, true => [(h, .operationCanceled)]
  | _, _ => []

def start (t : Deadline α) (h : α) : Deadline α × List (α × Code) :=
  (⟨some h⟩, t.cancelled notify)

def stop (t : Deadline α) : Deadline α × List (α × Code) :=
  (⟨none⟩, t.cancelled notify)

def expire (t : Deadline α) : Deadline α × List (α × Code) :=
  (⟨none⟩, match t.armed with
    | some h => [(h, .success)]
    | none => [])

@[simp] theorem cancelled_none (t : Deadline α) (h : t.armed = none) :
    t.cancelled notify = [] := by
  simp [cancelled, h]

theorem mem_cancelled {t : Deadline α} {p : α × Code} (h : p ∈ t.cancelled notify) :
    t.armed = some p.1 := by
  unfold cancelled at h
  split at h <;> simp_all

theorem mem_expire {t : Deadline α} {p : α × Code} (h : p ∈ t.expire.2) : t.armed = some p.1 := by
  unfold expire at h
  split at h <;> simp_all

@[simp] theorem idle_armed : (idle : Deadline α).armed = none := rfl

@[simp] theorem start_armed (t : Deadline α) (h : α) : (t.start notify h).1.armed = some h := rfl

@[simp] theorem stop_armed (t : Deadline α) : (t.stop notify).1.armed = none := rfl

@[simp] theorem expire_armed (t : Deadline α) : t.expire.1.armed = none := rfl

end Deadline

end PeerNetwork
