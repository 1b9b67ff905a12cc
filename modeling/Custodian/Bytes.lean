/-!
# Bytes

Rows of bytes are told apart byte by byte.
-/

namespace Custodian

set_option autoImplicit false

instance decidableEqBytes : DecidableEq ByteArray := fun a b =>
  decidable_of_iff (a.data = b.data) ⟨ByteArray.ext, congrArg ByteArray.data⟩

end Custodian
