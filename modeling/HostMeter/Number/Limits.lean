set_option autoImplicit false

/-! How many values a word of so many bits has, and powers of numbers. -/

namespace HostMeter

def limit16 : Nat := 65536
def limit31 : Nat := 2147483648
def limit32 : Nat := 4294967296
def limit63 : Nat := 9223372036854775808
def limit64 : Nat := 18446744073709551616

def power (base n : Nat) : Nat := Nat.pow base n

example : limit31 = power 2 31 ∧ limit16 = power 2 16 ∧ limit32 = power 2 32 ∧ limit63 = power 2 63
    ∧ limit64 = power 2 64 := by decide +kernel

end HostMeter
