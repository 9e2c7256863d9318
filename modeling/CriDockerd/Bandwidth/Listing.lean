import CriDockerd.Bandwidth.Shaper

/-! The filters of an interface as `tc` lists them, with all the handles and flow IDs that there can be; and the calls of
    the shaper that work on the list, from the list on. -/

namespace CriDockerd.Bandwidth
open Text NetIP

/-! ### Handles and flow IDs -/

/-- The handle of a u32 filter: its table, the bucket in the table, and the number in the bucket. -/
structure Handle where
  table : Nat
  bucket : Nat
  node : Nat
  table_pos : 0 < table
  node_pos : 0 < node
  deriving DecidableEq

def Handle.text (h : Handle) : Text := hex h.table ++ ':' :: (hexOr h.bucket ++ ':' :: hex h.node)

/-- The class that a filter leads to. -/
structure FlowID where
  major : Nat
  minor : Nat
  some_pos : 0 < major ∨ 0 < minor
  deriving DecidableEq

def FlowID.text (f : FlowID) : Text := hexOr f.major ++ ':' :: hexOr f.minor

/-! ### Lists -/

structure ListedFilter where
  handle : Handle
  flowid : FlowID
  network : U32Match
  offset : Nat
  deriving DecidableEq

namespace ListedFilter
variable (version : Version) (f : ListedFilter)

def words : List Text :=
  version.head ++ "fh".toList :: f.handle.text :: "order" :: itoa f.handle.node :: "key" :: "ht" ::
    hex f.handle.table :: "bkt" :: hex f.handle.bucket :: "flowid" :: f.flowid.text :: version.tail

def matchWords : List Text :=
  ["match", hexString f.network.net.ip ++ '/' :: hexString f.network.net.mask, "at", itoa f.offset]

end ListedFilter

/-- What is in a list: a line for the filters of a preference, one for each of their tables, and the filters. -/
inductive Listed where
  | preference
  | table (number divisor : Nat)
  | filter (f : ListedFilter)

def Listed.lines (version : Version) : Listed → List Text
  | .preference => [join [' '] filterWords]
  | .table number divisor =>
    [join [' '] (version.head ++ ["fh".toList, hex number ++ [':'], "ht".toList, "divisor".toList, itoa divisor])]
  | .filter f => [join [' '] (f.words version), ' ' :: ' ' :: join [' '] f.matchWords]

def Listed.filter? : Listed → Option ListedFilter
  | .filter f => some f
  | _ => none

/-! ### Calls -/

/-- `findCIDRClass`, from the list on. -/
def findCIDRClassIn (cidr : Text) (data : List Text) : Except GoError (List (Text × Text)) :=
  match hexCIDR cidr with
  | .error err => .error err
  | .ok hex => scanFilters ("match ".toList ++ hex) data [] []

/-- `Reset`, from the list on. -/
def resetFrom (env : Env) (iface cidr : Text) (data : List Text) (w : World) : Option GoError × World :=
  match findCIDRClassIn cidr data with
  | .error err => (some err, w)
  | .ok [] => (some (.text ("Failed to find cidr: " ++ cidr ++ " on interface: " ++ iface)), w)
  | .ok classAndHandle => resetAll env classAndHandle w

section
variable {env : Env} {iface cidr : Text} {w w' : World}

theorem findCIDRClass_of_list {data : List Text} (h : exec env .filterShow w = (.ok data, w')) :
    findCIDRClass env cidr w = (findCIDRClassIn cidr data, w') := by
  unfold findCIDRClass findCIDRClassIn
  rw [h]
  cases hexCIDR cidr <;> rfl

theorem reset_of_list {data : List Text} (h : exec env .filterShow w = (.ok data, w')) :
    reset env iface cidr w = resetFrom env iface cidr data w' := by
  rw [reset, findCIDRClass_of_list h]
  unfold resetFrom
  cases findCIDRClassIn cidr data with
  | error err => rfl
  | ok found => cases found <;> rfl

theorem reset_of_error {err : GoError} (h : exec env .filterShow w = (.error err, w')) :
    reset env iface cidr w = (some err, w') := by
  rw [reset, findCIDRClass, h]

end

end CriDockerd.Bandwidth
