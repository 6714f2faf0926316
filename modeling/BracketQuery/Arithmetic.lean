/-!
Powers and sums of numbers are those of the core library in every module. Without these priorities
they would go through the algebraic structure on the numbers wherever that is imported, and one
definition would be two different terms.
-/

attribute [default_instance 20000, instance (20000)] instPowNat

namespace BracketQuery

instance (priority := 20000) instZeroNat : Zero Nat := .ofOfNat0

end BracketQuery
