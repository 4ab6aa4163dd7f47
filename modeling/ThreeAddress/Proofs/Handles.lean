import Mathlib.Algebra.Group.Nat.Defs
import ThreeAddress.Handle

set_option autoImplicit false

namespace ThreeAddress.Handle

variable {k : Kind}

theorem index_lt (h : Handle k) : h.index < 2 ^ 32 := h.val.toNat_lt

@[simp] theorem index_of_nat (n : Nat) : (ofNat n : Handle k).index = n % 2 ^ 32 := by
  simp [ofNat, index]

theorem index_of_nat_of_lt (n : Nat) (fits : n < 2 ^ 32) : (ofNat n : Handle k).index = n := by
  rw [index_of_nat, Nat.mod_eq_of_lt fits]

@[simp] theorem of_nat_index (h : Handle k) : ofNat h.index = h := by
  apply index_injective
  have bound := h.index_lt
  simp only [index_of_nat]
  omega

theorem plus_one (h : Handle k) : h.plus 1 = .ok (.ofNat (h.index + 1)) := by
  have bound := h.index_lt
  have small : h.index + (1 : UInt64).toNat < UInt64.size := by
    simp only [UInt64.size, UInt64.reduceToNat]
    omega
  rw [plus, if_pos small]
  rfl

-- A step of one never overflows, so counters need no failing case.
theorem post_increment_index (h : Handle k) : postIncrement h = .ok h (.ofNat (h.index + 1)) := by
  change postIncrement.run h = _
  rw [postIncrement, incrementBy]
  simp only [EStateM.run_bind, EStateM.run_get, plus_one, EStateM.run_set, EStateM.run_pure]

theorem next_eq (h : Handle k) : h.next = .ofNat (h.index + 1) := by
  rw [next, take, post_increment_index]

theorem post_increment_run (h : Handle k) : postIncrement h = .ok h h.next := by
  rw [post_increment_index, next_eq]

@[simp] theorem take_eq (h : Handle k) : h.take = (h, h.next) := by
  rw [take, post_increment_run]

theorem index_next (h : Handle k) : h.next.index = (h.index + 1) % 2 ^ 32 := by
  rw [next_eq, index_of_nat]

theorem next_of_nat (n : Nat) : (ofNat n : Handle k).next = .ofNat (n + 1) := by
  apply index_injective
  rw [index_next, index_of_nat, index_of_nat]
  omega

theorem block_nodup (first count : Nat) (fits : count ≤ 2 ^ 32) :
    ((List.range' first count).map ofNat : List (Handle k)).Nodup := by
  refine List.pairwise_map.mpr (List.Pairwise.imp_of_mem ?_ List.nodup_range')
  intro a b inside within apart same
  have indices := congrArg index same
  rw [index_of_nat, index_of_nat] at indices
  rw [List.mem_range'_1] at inside within
  omega

end ThreeAddress.Handle
