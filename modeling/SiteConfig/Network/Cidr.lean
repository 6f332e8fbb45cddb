import SiteConfig.Fault
import SiteConfig.Network.Mask

/-!
# Networks as one text

The service takes a network as one text in CIDR notation, `a.b.c.d/n`; a user writes an address
and a dotted mask. White space around an address is not part of it.

- `Network`: an address and a prefix length; the host bits of the address are kept.
- `Cidr.encode`: address and mask to CIDR notation.
- `Cidr.decode`: CIDR notation to address and mask.
-/

namespace SiteConfig

/-- An address with the number of its leading bits that name the network. -/
structure Network where
  address : Address
  length : Nat
  deriving DecidableEq, Repr, Inhabited

namespace Network

/-- The text `a.b.c.d/n`. -/
def text (net : Network) : List Char :=
  net.address.text ++ '/' :: Text.decimal net.length

/-- A prefix length: decimal digits, behind an optional plus sign, with a value up to 32. -/
def length? (s : List Char) : Option Nat :=
  let digits :=
    match s with
    | '+' :: rest => rest
    | rest => rest
  match Text.natural? digits with
  | some n => if n ≤ Mask.maxPrefix then some n else none
  | none => none

/-- Reads a network: up to white space at the ends, a dotted quad, a slash and a prefix length. -/
def parse? (s : List Char) : Option Network :=
  let t := Text.trim s
  match t.dropWhile (· ≠ '/') with
  | _ :: rest =>
    match Address.parse? (t.takeWhile (· ≠ '/')), length? rest with
    | some a, some n => some ⟨a, n⟩
    | _, _ => none
  | [] => none

end Network

namespace Cidr

/-- Reads an address, up to white space at the ends. -/
def address (s : String) : Except Fault Address :=
  match Address.parse? (Text.trim s.toList) with
  | some a => .ok a
  | none => .error (.network s)

/-- Reads a network. -/
def network (s : String) : Except Fault Network :=
  match Network.parse? s.toList with
  | some net => .ok net
  | none => .error (.network s)

/-- The prefix length of a mask. -/
def prefixLength (m : Address) : Except Fault Nat :=
  match Mask.prefixLength? m with
  | some n => .ok n
  | none => .error (.mask (String.ofList m.text))

/-- Combines an address and a mask into CIDR notation. With a mask, its prefix length goes behind
the address. Without one, an address that carries a prefix already is kept as it is written, and a
bare address stands for a single host. -/
def encode (ip mask : String) : Except Fault String :=
  if mask ≠ "" then do
    -- The address is looked at before the mask: of two faults, its own counts.
    let a ← address ip
    let m ← address mask
    let n ← prefixLength m
    return String.ofList (Network.text ⟨a, n⟩)
  else if '/' ∈ ip.toList then do
    -- Only checked: what is sent are the characters as they are written.
    let _ ← network ip
    return ip
  else do
    let a ← address ip
    return String.ofList (Network.text ⟨a, Mask.maxPrefix⟩)

/-- An address and the mask that goes with it, both as texts. -/
structure Pair where
  address : String
  mask : Option String
  deriving DecidableEq, Repr, Inhabited

/-- Takes CIDR notation apart. A text without a slash is passed on as the address, and gives no
mask. A mask from a record that kept it apart counts before the prefix, unless it is empty. -/
def decode (cidr : String) (apart : Option String) : Except Fault Pair := do
  let pair ←
    if '/' ∈ cidr.toList then do
      let net ← network cidr
      pure ⟨String.ofList net.address.text,
        (Mask.ofPrefix? net.length).map fun m => String.ofList m.text⟩
    else pure (Pair.mk cidr none)
  return match apart with
    | some m => if m ≠ "" then ⟨pair.address, some m⟩ else pair
    | none => pair

end Cidr

end SiteConfig
