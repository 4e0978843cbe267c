import Mathlib.Data.List.Destutter
import Lantunnel.Lib.RustStd

/-!
# Rust's `std::net` addresses

`Ipv4Addr`, `Ipv6Addr`, `IpAddr` and `SocketAddr` with the textual forms `FromStr`
accepts and `Display` prints.
-/

namespace Lantunnel.Lib.RustNet
open Lib.FieldCodec Lib.RustStd

abbrev Ipv4Addr := BitVec 32

abbrev Ipv6Addr := BitVec 128

inductive IpAddr
  | v4 (ip : Ipv4Addr)
  | v6 (ip : Ipv6Addr)
  deriving DecidableEq

inductive SocketAddr
  | v4 (ip : Ipv4Addr) (port : UInt16)
  | v6 (ip : Ipv6Addr) (port : UInt16) (flowinfo scopeId : UInt32)
  deriving DecidableEq

namespace SocketAddr

def new : IpAddr → UInt16 → SocketAddr
  | .v4 ip, port => .v4 ip port
  | .v6 ip, port => .v6 ip port 0 0

def ip : SocketAddr → IpAddr
  | v4 ip _ => .v4 ip
  | v6 ip _ _ _ => .v6 ip

def port : SocketAddr → UInt16
  | v4 _ port | v6 _ port _ _ => port

def isIpv4 : SocketAddr → Bool
  | v4 .. => true
  | v6 .. => false

/-- The fields the derived order compares, one after the other. -/
def orderKey : SocketAddr → List ℕ
  | v4 ip port => [0,ip.toNat,port.toNat]
  | v6 ip port flowinfo scopeId =>
    [1,ip.toNat,port.toNat,flowinfo.toNat,scopeId.toNat]

end SocketAddr

def octets (ip : Ipv4Addr) : Bytes := beBytes 4 ip.toNat

theorem octets_inj {a b : Ipv4Addr} (h : octets a=octets b) : a=b :=
  BitVec.eq_of_toNat_eq (beBytes_inj a.isLt b.isLt h)

def ofOctets (bytes : Vector UInt8 4) : Ipv4Addr := BitVec.ofNat 32 (beNat bytes.toList)

theorem octets_ofOctets (bytes : Vector UInt8 4) : octets (ofOctets bytes)=bytes.toList := by
  have hlen : bytes.toList.length=4 := by simp
  have hlt : beNat bytes.toList<2^32 := by simpa using beNat_lt bytes.toList
  rw [octets,ofOctets,BitVec.toNat_ofNat,Nat.mod_eq_of_lt hlt,beBytes_beNat hlen]

/-- `sort_unstable`, `dedup`, then the first element. -/
def firstSorted (addrs : List SocketAddr) : Option SocketAddr :=
  ((addrs.mergeSort fun a b => a.orderKey≤b.orderKey).destutter (· ≠ ·)).head?

def readGivenChar (c : Char) : List Char → Option (Unit × List Char)
  | [] => none
  | d::rest => if d=c then some ((),rest) else none

/-- `char::to_digit` for radix 10 and 16. -/
def toDigit (radix : ℕ) (c : Char) : Option ℕ :=
  let v :=
    if c.isDigit then c.toNat - '0'.toNat
    else if 'a'≤c ∧ c ≤ 'f' then c.toNat - 'a'.toNat+10
    else if 'A'≤c ∧ c ≤ 'F' then c.toNat - 'A'.toNat+10
    else radix
  if v<radix then some v else none

def numberValue (radix : ℕ) (ds : List Char) : ℕ :=
  ds.foldl (fun acc c => acc*radix+(toDigit radix c).getD 0) 0

/-- `read_number` into an integer type with `limit` values. -/
def readNumber (radix : ℕ) (maxDigits : Option ℕ) (allowZeroPrefix : Bool) (limit : ℕ)
    (cs : List Char) : Option (ℕ × List Char) :=
  let ds:=cs.takeWhile fun c => (toDigit radix c).isSome
  if (maxDigits.any fun m => m<ds.length) || ds.isEmpty
      || (!allowZeroPrefix && ds.head?=some '0' && 1<ds.length)
      || limit≤numberValue radix ds then
    none
  else
    some (numberValue radix ds,cs.drop ds.length)

def readSeparator {α : Type} (sep : Char) (index : ℕ)
    (inner : List Char → Option (α × List Char)) (cs : List Char) : Option (α × List Char) :=
  if 0 < index then do
    let (_,cs) ← readGivenChar sep cs
    inner cs
  else
    inner cs

def readIpv4Addr (cs : List Char) : Option (Ipv4Addr × List Char) := do
  let octet:=fun i => readSeparator '.' i (readNumber 10 (some 3) false 256)
  let (a,cs) ← octet 0 cs
  let (b,cs) ← octet 1 cs
  let (c,cs) ← octet 2 cs
  let (d,cs) ← octet 3 cs
  return (BitVec.ofNat 32 (((a*256+b)*256+c)*256+d),cs)

/-- `read_groups`: up to `n` more of `limit` groups; the flag tells that the
last two came from an embedded IPv4 address. -/
def readGroups (limit : ℕ) : ℕ → List Char → List ℕ × Bool × List Char
  | 0, cs => ([],false,cs)
  | n+1, cs =>
    let i:=limit-(n+1)
    match if 0<n then readSeparator ':' i readIpv4Addr cs else none with
    | some (ip,rest) => ([ip.toNat/65536,ip.toNat % 65536],true,rest)
    | none =>
      match readSeparator ':' i (readNumber 16 (some 4) true 65536) cs with
      | some (g,rest) =>
        let (gs,ipv4,rest):=readGroups limit n rest
        (g::gs,ipv4,rest)
      | none => ([],false,cs)

def ofSegments (gs : List ℕ) : Ipv6Addr :=
  BitVec.ofNat 128 (gs.foldl (fun acc g => acc*65536+g) 0)

def readIpv6Addr (cs : List Char) : Option (Ipv6Addr × List Char) :=
  let (head,headIpv4,cs):=readGroups 8 8 cs
  if head.length=8 then some (ofSegments head,cs)
  else if headIpv4 then none
  else do
    let (_,cs) ← readGivenChar ':' cs
    let (_,cs) ← readGivenChar ':' cs
    let limit:=8-(head.length+1)
    let (tail,_,cs):=readGroups limit limit cs
    return (ofSegments (head++List.replicate (8-head.length-tail.length) 0++tail),cs)

def readPort (cs : List Char) : Option (UInt16 × List Char) := do
  let (_,cs) ← readGivenChar ':' cs
  let (n,cs) ← readNumber 10 none true 65536 cs
  return (UInt16.ofNat n,cs)

def readSocketAddrV4 (cs : List Char) : Option (SocketAddr × List Char) := do
  let (ip,cs) ← readIpv4Addr cs
  let (port,cs) ← readPort cs
  return (.v4 ip port,cs)

def readScopeId (cs : List Char) : Option (UInt32 × List Char) := do
  let (_,cs) ← readGivenChar '%' cs
  let (n,cs) ← readNumber 10 none true 4294967296 cs
  return (UInt32.ofNat n,cs)

def readSocketAddrV6 (cs : List Char) : Option (SocketAddr × List Char) := do
  let (_,cs) ← readGivenChar '[' cs
  let (ip,cs) ← readIpv6Addr cs
  let (scopeId,cs):=(readScopeId cs).getD (0,cs)
  let (_,cs) ← readGivenChar ']' cs
  let (port,cs) ← readPort cs
  return (.v6 ip port 0 scopeId,cs)

def parseWith {α : Type} (inner : List Char → Option (α × List Char)) (s : String) : Option α :=
  match inner s.toList with
  | some (a,[]) => some a
  | _ => none

def parseIpv4Addr (s : String) : Option Ipv4Addr :=
  if 15<(asBytes s).length then none else parseWith readIpv4Addr s

def parseIpv6Addr : String → Option Ipv6Addr := parseWith readIpv6Addr

def parseIpAddr : String → Option IpAddr :=
  parseWith fun cs => ((readIpv4Addr cs).map fun (ip,rest) => (.v4 ip,rest)).or
    ((readIpv6Addr cs).map fun (ip,rest) => (.v6 ip,rest))

def parseSocketAddr : String → Option SocketAddr :=
  parseWith fun cs => (readSocketAddrV4 cs).or (readSocketAddrV6 cs)

def decimal (n : ℕ) : String := Nat.repr n

def hex (n : ℕ) : String := String.ofList (Nat.toDigits 16 n)

def ipv4ToString (ip : Ipv4Addr) : String :=
  ".".intercalate ((octets ip).map fun b => decimal b.toNat)

def segments (ip : Ipv6Addr) : List ℕ :=
  (List.range 8).map fun i => ip.toNat/65536^(7-i) % 65536

/-- Start and length of the first longest run of zero segments. -/
def longestZeroes (segs : List ℕ) : ℕ × ℕ :=
  let step:=fun (state : (ℕ × ℕ) × (ℕ × ℕ)) (entry : ℕ × ℕ) =>
    let (longest,current):=state
    let (i,segment):=entry
    if segment=0 then
      let current:=if current.2=0 then (i,1) else (current.1,current.2+1)
      (if longest.2<current.2 then current else longest,current)
    else
      (longest,(0,0))
  (((List.range segs.length).zip segs).foldl step ((0,0),(0,0))).1

def fmtSubslice (segs : List ℕ) : String := ":".intercalate (segs.map hex)

def ipv6ToString (ip : Ipv6Addr) : String :=
  if ip.toNat/4294967296=65535 then
    "::ffff:" ++ ipv4ToString (BitVec.ofNat 32 ip.toNat)
  else
    let segs:=segments ip
    let (start,len):=longestZeroes segs
    if 1<len then
      fmtSubslice (segs.take start) ++ "::" ++ fmtSubslice (segs.drop (start+len))
    else
      fmtSubslice segs

def IpAddr.toString : IpAddr → String
  | v4 ip => ipv4ToString ip
  | v6 ip => ipv6ToString ip

def SocketAddr.toString : SocketAddr → String
  | v4 ip port => ipv4ToString ip ++ ":" ++ decimal port.toNat
  | v6 ip port _ scopeId =>
    let scope:=if scopeId=0 then "" else "%" ++ decimal scopeId.toNat
    "[" ++ ipv6ToString ip++scope ++ "]:" ++ decimal port.toNat

example : (parseSocketAddr "[2001:db8::7%3]:080").map SocketAddr.toString =
    some "[2001:db8::7%3]:80" := by decide

theorem toDigit_of_isDigit {c : Char} (h : c.isDigit=true) :
    toDigit 10 c=some (c.toNat - '0'.toNat) := by
  have hlt : c.toNat - '0'.toNat<10 := by
    simp only [Char.isDigit,Bool.and_eq_true,decide_eq_true_eq] at h
    have hle : c.val.toNat≤57 := UInt32.le_iff_toNat_le.mp h.2
    have hc : c.toNat=c.val.toNat := rfl
    have h0 : '0'.toNat=48 := rfl
    omega
  simp only [toDigit,h,if_true]
  rw [if_pos hlt]

theorem numberValue_eq_ofDigitChars {ds : List Char} (h : ∀ c∈ds, c.isDigit=true) :
    numberValue 10 ds=Nat.ofDigitChars 10 ds 0 := by
  apply List.foldl_ext
  intro acc c hc
  rw [toDigit_of_isDigit (h c hc),Option.getD_some,Nat.mul_comm]

theorem numberValue_toDigits (n : ℕ) : numberValue 10 (Nat.toDigits 10 n)=n := by
  have hdig : ∀ c∈Nat.toDigits 10 n, c.isDigit=true :=
    fun c hc => Nat.isDigit_of_mem_toDigits (by norm_num) (by norm_num) hc
  rw [numberValue_eq_ofDigitChars hdig,Nat.ofDigitChars_ten_toDigits]

def LOCALHOST : Ipv4Addr := 0x7f000001

end Lantunnel.Lib.RustNet
