import Mathlib.Data.Nat.Bitwise
import Threadbook.ImageStructure

/-!
# Addresses an image may be fetched from

A resolved address is permitted unless it lies in one of the networks that are reserved,
private, or lead back to this machine.
-/

namespace Threadbook.ReceiptImage

inductive IpAddr
  | v4 (bits : BitVec 32)
  | v6 (bits : BitVec 128)
  deriving DecidableEq

structure SocketAddr where
  ip : IpAddr
  port : ℕ
  deriving DecidableEq

def SocketAddr.rank (self : SocketAddr) : ℕ :=
  match self.ip with
  | .v4 bits => bits.toNat * 2 ^ 16 + self.port
  | .v6 bits => 2 ^ 48 + bits.toNat * 2 ^ 16 + self.port

/-- The address of four bytes. -/
def ipv4 (a b c d : ℕ) : BitVec 32 := BitVec.ofNat 32 (((a * 256 + b) * 256 + c) * 256 + d)

def ipv6 (segments : List ℕ) : BitVec 128 :=
  BitVec.ofNat 128 (segments.foldl (fun bits segment => bits * 2 ^ 16 + segment) 0)

structure Network (w : ℕ) where
  address : BitVec w
  prefixLength : ℕ

def Network.contains {w : ℕ} (network : Network w) (address : BitVec w) : Bool :=
  address >>> (w - network.prefixLength) == network.address >>> (w - network.prefixLength)

/-- The networks of short addresses that are denied. -/
def v4Deny : List (Network 32) :=
  [⟨ipv4 0 0 0 0, 8⟩, ⟨ipv4 10 0 0 0, 8⟩, ⟨ipv4 100 64 0 0, 10⟩, ⟨ipv4 127 0 0 0, 8⟩,
    ⟨ipv4 169 254 0 0, 16⟩, ⟨ipv4 172 16 0 0, 12⟩, ⟨ipv4 192 0 0 0, 24⟩, ⟨ipv4 192 0 2 0, 24⟩,
    ⟨ipv4 192 31 196 0, 24⟩, ⟨ipv4 192 52 193 0, 24⟩, ⟨ipv4 192 88 99 0, 24⟩,
    ⟨ipv4 192 168 0 0, 16⟩, ⟨ipv4 192 175 48 0, 24⟩, ⟨ipv4 198 18 0 0, 15⟩,
    ⟨ipv4 198 51 100 0, 24⟩, ⟨ipv4 203 0 113 0, 24⟩, ⟨ipv4 224 0 0 0, 4⟩, ⟨ipv4 240 0 0 0, 4⟩]

/-- The networks of long addresses that are denied. -/
def v6Deny : List (Network 128) :=
  [⟨ipv6 [0, 0, 0, 0, 0, 0, 0, 0], 128⟩, ⟨ipv6 [0, 0, 0, 0, 0, 0, 0, 0], 96⟩,
    ⟨ipv6 [0, 0, 0, 0, 0, 0, 0, 1], 128⟩, ⟨ipv6 [0, 0, 0, 0, 0, 0xffff, 0, 0], 96⟩,
    ⟨ipv6 [0x64, 0xff9b, 0, 0, 0, 0, 0, 0], 96⟩, ⟨ipv6 [0x64, 0xff9b, 1, 0, 0, 0, 0, 0], 48⟩,
    ⟨ipv6 [0x100, 0, 0, 0, 0, 0, 0, 0], 64⟩, ⟨ipv6 [0x2001, 0, 0, 0, 0, 0, 0, 0], 23⟩,
    ⟨ipv6 [0x2001, 0xdb8, 0, 0, 0, 0, 0, 0], 32⟩, ⟨ipv6 [0x2002, 0, 0, 0, 0, 0, 0, 0], 16⟩,
    ⟨ipv6 [0x3fff, 0, 0, 0, 0, 0, 0, 0], 20⟩, ⟨ipv6 [0xfc00, 0, 0, 0, 0, 0, 0, 0], 7⟩,
    ⟨ipv6 [0xfe80, 0, 0, 0, 0, 0, 0, 0], 10⟩, ⟨ipv6 [0xfec0, 0, 0, 0, 0, 0, 0, 0], 10⟩,
    ⟨ipv6 [0xff00, 0, 0, 0, 0, 0, 0, 0], 8⟩]

def isSpecialAddress : IpAddr → Bool
  | .v4 bits => v4Deny.any (·.contains bits) || bits == ipv4 168 63 129 16 ||
      bits == ipv4 100 100 100 200
  | .v6 bits => v6Deny.any (·.contains bits)

def permits (address : IpAddr) : Bool := !isSpecialAddress address

example : [ipv4 10 0 0 1, ipv4 127 0 0 1, ipv4 169 254 169 254, ipv4 8 8 8 8].map
    (fun bits => permits (.v4 bits)) = [false, false, false, true] := by decide

/-- How many addresses a name may have. -/
def maxReceiptImageDnsAnswers : ℕ := 16

/-- **The address policy**: all addresses are permitted, and are those of a web server. -/
def validateAddresses (addresses : List SocketAddr) : Except FailureCode Unit :=
  if addresses.isEmpty ∨ maxReceiptImageDnsAnswers < addresses.length ∨
      ∃ address ∈ addresses, address.port ≠ 443 ∨ permits address.ip = false then
    .error .addressRejected
  else .ok ()

end Threadbook.ReceiptImage
