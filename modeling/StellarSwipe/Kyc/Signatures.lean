import StellarSwipe.Kyc.Providers

namespace StellarSwipe.Kyc
set_option autoImplicit true

section
/- `String.splitOn` is defined by well-founded recursion; the header below is split by
evaluation. -/
attribute [local semireducible] String.splitOnAux

end

end StellarSwipe.Kyc
