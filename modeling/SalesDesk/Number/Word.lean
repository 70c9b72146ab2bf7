/-!
# Words

Integers are unbounded here. Where one has to fit into a signed word of so many bits, this is the
test.
-/

namespace SalesDesk.Word

/-- A signed word holds the integers from the negated bound up to below the bound. -/
def bound (bits : Nat) : Int := Int.ofNat (Nat.pow 2 (bits - 1))

def fits (bits : Nat) (n : Int) : Bool := decide (-bound bits ≤ n ∧ n < bound bits)

end SalesDesk.Word
