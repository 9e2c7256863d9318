import CriDockerd.Bandwidth.Shaper

/-! The CIDRs that the shaper reads from the list of the filters (`network/bandwidth/linux.go`), where `tc` prints them
    in hexadecimal. -/

namespace CriDockerd.Bandwidth
open Text NetIP

/-- A CIDR from its hexadecimal form to text. A mask with a one after a zero has size 0. -/
def asciiCIDR (cidr : Text) : Except GoError Text :=
  match split cidr '/' with
  | [hexIP, hexMask] =>
    match decodeString hexIP with
    | .error err => .error (.text err)
    | .ok ip =>
      match decodeString hexMask with
      | .error err => .error (.text err)
      | .ok mask =>
        let size := (simpleMaskLength mask).getD 0
        .ok (ipString ip ++ '/' :: itoa size)
  | _ => .error (.text ("unexpected CIDR format: " ++ cidr))

end CriDockerd.Bandwidth
