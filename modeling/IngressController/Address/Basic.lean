/-!
# Internet addresses and networks

An address is a number of 32 or 128 bits. A network is the set of addresses that agree with its
base address in a given number of leading bits; truncating it clears the other bits of the base
and changes no member.
-/

set_option autoImplicit false

namespace IngressController.Address

/-- The two kinds of addresses. -/
inductive Family where
  | v4
  | v6
  deriving DecidableEq, Repr

/-- The number of bits of an address. -/
def Family.width : Family → Nat
  | .v4 => 32
  | .v6 => 128

/-- An address. -/
structure Ip where
  family : Family
  value : Fin (Nat.pow 2 family.width)
  deriving DecidableEq

/-- The addresses that share the first `length` bits of `base`. -/
structure Network where
  base : Ip
  length : Nat
  length_le : length ≤ base.family.width
  deriving DecidableEq

/-- The leading bits of an address, as a number. -/
def Ip.leading (ip : Ip) (length : Nat) : Nat :=
  ip.value.val / Nat.pow 2 (ip.family.width - length)

/-- Whether an address belongs to a network. -/
def Network.Contains (net : Network) (ip : Ip) : Prop :=
  ip.family = net.base.family ∧ ip.leading net.length = net.base.leading net.length

instance (net : Network) (ip : Ip) : Decidable (net.Contains ip) :=
  inferInstanceAs (Decidable (_ ∧ _))

/-- The address with all but its leading bits cleared. -/
def Ip.truncate (ip : Ip) (length : Nat) : Ip where
  family := ip.family
  value := ⟨ip.leading length * Nat.pow 2 (ip.family.width - length),
    Nat.lt_of_le_of_lt (Nat.div_mul_le_self _ _) ip.value.isLt⟩

/-- The network with the bits of its base cleared that membership does not depend on. -/
def Network.truncate (net : Network) : Network where
  base := net.base.truncate net.length
  length := net.length
  length_le := net.length_le

theorem Ip.leading_truncate (ip : Ip) (length : Nat) :
    (ip.truncate length).leading length = ip.leading length :=
  Nat.mul_div_cancel _ (Nat.two_pow_pos _)

/-- Truncating a network does not change its members. -/
theorem Network.contains_truncate (net : Network) (ip : Ip) :
    net.truncate.Contains ip ↔ net.Contains ip := by
  simp only [Contains, truncate, Ip.leading_truncate]
  rfl

/-- A truncated network is not changed by truncating it again. -/
theorem Network.truncate_truncate (net : Network) : net.truncate.truncate = net.truncate := by
  obtain ⟨⟨family, value⟩, length, hlen⟩ := net
  simp only [truncate, Ip.truncate, Ip.leading, Network.mk.injEq, Ip.mk.injEq, heq_eq_eq,
    true_and, and_true, Fin.mk.injEq]
  exact congrArg (· * Nat.pow 2 (family.width - length))
    (Nat.mul_div_cancel _ (Nat.two_pow_pos _))

end IngressController.Address
