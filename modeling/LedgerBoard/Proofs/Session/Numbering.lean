import Mathlib.Algebra.Group.Nat.Defs
import LedgerBoard.Proofs.Number.Decimal
import LedgerBoard.Session.Event

/-!
# The numbers of subscriptions

A handle numbers the subscriptions that it asks for, from zero. The number can be read off the id,
so no id comes twice before all numbers of a word are used up.
-/

namespace LedgerBoard.Handle

/-- The id gives its number back. -/
theorem subscriptionId_injective {left right : UInt32}
    (same : subscriptionId left = subscriptionId right) : left = right := by
  have same_numeral := String.ofList_injective ((String.append_right_inj _).mp same)
  have same_number := congrArg Number.digitsValue same_numeral
  rw [Number.digitsValue_decimal, Number.digitsValue_decimal] at same_number
  exact UInt32.toNat_inj.mp same_number

theorem subscriptionId_ofNat {number : Nat} (fits : number < 2 ^ 32) :
    subscriptionId (.ofNat number) = "sub-" ++ toString number := by
  rw [subscriptionId, Number.ofList_decimal, UInt32.toNat_ofNat_of_lt' fits]

theorem subscriptionId_ofNat_injective {left right : Nat} (left_fits : left < 2 ^ 32)
    (right_fits : right < 2 ^ 32)
    (same : subscriptionId (.ofNat left) = subscriptionId (.ofNat right)) : left = right := by
  have same_word := congrArg UInt32.toNat (subscriptionId_injective same)
  rwa [UInt32.toNat_ofNat_of_lt' left_fits, UInt32.toNat_ofNat_of_lt' right_fits] at same_word

end LedgerBoard.Handle
