import Lantunnel.Lib.RustNet

/-!
# Printed IPv4 addresses

The decimal form of an IPv4 address reads back, in front of anything that does
not go on with a digit, and no other text reads as that address: a number with a
needless zero in front is refused.
-/

namespace Lantunnel.Lib.RustNet
open Lib.FieldCodec List Option

def NotDigit (rest : List Char) : Prop := ∀ c, rest.head?=some c → toDigit 10 c=none

variable {rest cs : List Char}

theorem takeWhile_digits {ds : List Char} (hds : ∀ c∈ds, c.isDigit=true) (hrest : NotDigit rest) :
    (ds++rest).takeWhile (fun c => (toDigit 10 c).isSome)=ds := by
  rw [takeWhile_append_of_pos]
  · cases rest with
    | nil => simp
    | cons c =>
      rw [takeWhile_cons,hrest c rfl]
      simp
  · intro c hc
    rw [toDigit_of_isDigit (hds c hc)]
    rfl

theorem isDigit_of_mem_decimal {n : ℕ} {c : Char} (h : c∈Nat.toDigits 10 n) : c.isDigit=true :=
  Nat.isDigit_of_mem_toDigits (by norm_num) (by norm_num) h

theorem readNumber_toDigits {n limit : ℕ} {maxDigits : Option ℕ} {zero : Bool} (hn : n<limit)
    (hmax : (maxDigits.any fun m => m<(Nat.toDigits 10 n).length)=false)
    (hzero : zero=true ∨ ¬ ((Nat.toDigits 10 n).head?=some '0' ∧ 1<(Nat.toDigits 10 n).length))
    (hrest : NotDigit rest) :
    readNumber 10 maxDigits zero limit (Nat.toDigits 10 n++rest)=some (n,rest) := by
  have hne : (Nat.toDigits 10 n).isEmpty=false := by simp [Nat.toDigits_ne_nil]
  rw [readNumber,takeWhile_digits (fun _ => isDigit_of_mem_decimal) hrest,numberValue_toDigits,hne,
    hmax,if_neg,drop_left]
  simp only [Bool.or_eq_true,decide_eq_true_eq,Bool.not_eq_true',Bool.and_eq_true]
  rintro (((h | h) | h) | h)
  · cases h
  · cases h
  · simp_all
  · omega

theorem toDigits_octet_short : ∀ n<256, (Nat.toDigits 10 n).length≤3 ∧
    ¬ ((Nat.toDigits 10 n).head?=some '0' ∧ 1<(Nat.toDigits 10 n).length) := by
  decide +kernel

theorem readNumber_octet {n : ℕ} (hn : n<256) (hrest : NotDigit rest) :
    readNumber 10 (some 3) false 256 (Nat.toDigits 10 n++rest)=some (n,rest) := by
  obtain ⟨hlen,hzero⟩:=toDigits_octet_short n hn
  exact readNumber_toDigits hn (by simpa using hlen) (.inr hzero) hrest

theorem ipv4ToString_toList (ip : Ipv4Addr) : ∃ a b c d : UInt8, octets ip=[a,b,c,d] ∧
      (ipv4ToString ip).toList=Nat.toDigits 10 a.toNat ++ '.'::(Nat.toDigits 10 b.toNat ++
        '.'::(Nat.toDigits 10 c.toNat ++ '.'::Nat.toDigits 10 d.toNat)) := by
  have hlen : (octets ip).length=4 := beBytes_length 4 ip.toNat
  obtain ⟨a,b,c,d,hocts⟩ : ∃ a b c d, octets ip=[a,b,c,d] := length_eq_four.mp hlen
  rw [ipv4ToString,hocts]
  simp [String.intercalate_cons_cons,decimal,Nat.toList_repr]

theorem notDigit_nil : NotDigit [] := by
  rintro c ⟨⟩

theorem notDigit_dot (rest : List Char) : NotDigit ('.'::rest) := by
  intro c hc
  cases hc
  decide

theorem ofNat_octets {ip : Ipv4Addr} {a b c d : UInt8} (h : octets ip=[a,b,c,d]) :
    BitVec.ofNat 32 (((a.toNat*256+b.toNat)*256+c.toNat)*256+d.toNat)=ip := by
  have hvalue : beNat (octets ip)=ip.toNat := by
    rw [octets,beNat_beBytes]
    exact Nat.mod_eq_of_lt ip.isLt
  rw [h] at hvalue
  have hnat : beNat [a,b,c,d]=((a.toNat*256+b.toNat)*256+c.toNat)*256+d.toNat := by
    simp [beNat]
  rw [← hnat,hvalue,BitVec.ofNat_toNat,BitVec.setWidth_eq]

theorem readIpv4Addr_toString (ip : Ipv4Addr) (hrest : NotDigit rest) :
    readIpv4Addr ((ipv4ToString ip).toList++rest)=some (ip,rest) := by
  obtain ⟨a,b,c,d,hocts,hchs⟩:=ipv4ToString_toList ip
  rw [hchs]
  simp only [append_assoc,cons_append]
  have ha:=readNumber_octet a.toNat_lt (notDigit_dot (Nat.toDigits 10 b.toNat ++
    '.'::(Nat.toDigits 10 c.toNat ++ '.'::(Nat.toDigits 10 d.toNat++rest))))
  have hb:=readNumber_octet b.toNat_lt (notDigit_dot (Nat.toDigits 10 c.toNat ++
    '.'::(Nat.toDigits 10 d.toNat++rest)))
  have hc:=readNumber_octet c.toNat_lt (notDigit_dot (Nat.toDigits 10 d.toNat++rest))
  have hd:=readNumber_octet d.toNat_lt hrest
  simp only [readIpv4Addr,readSeparator,readGivenChar,ha,hb,hc,hd,Nat.lt_irrefl,if_true,if_false,
    Option.bind_eq_bind,Option.bind_some,Nat.zero_lt_succ,Option.pure_def,
    ofNat_octets hocts]

theorem eq_digitChar_of_isDigit {c : Char} (h : c.isDigit=true) : ∃ d<10, c=Nat.digitChar d := by
  simp only [Char.isDigit,Bool.and_eq_true,decide_eq_true_eq] at h
  have hlow : 48≤c.toNat := UInt32.le_iff_toNat_le.mp h.1
  have hhigh : c.toNat≤57 := UInt32.le_iff_toNat_le.mp h.2
  have hprint : ∀ d<10, Nat.digitChar d=Char.ofNat (d+48) := by decide
  refine ⟨c.toNat-48,by omega,?_⟩
  rw [hprint _ (by omega),Nat.sub_add_cancel hlow,Char.ofNat_toNat]

open Lib.RustStd in
theorem isDigit_char {c : Char} (h : c.isDigit=true) :
    c ≠ '.' ∧ c ≠ ':' ∧ c ≠ '[' ∧ c ≠ '+' ∧ isWhitespace c=false ∧ c.toLower=c := by
  obtain ⟨d,hd,rfl⟩ := eq_digitChar_of_isDigit h
  have hall : ∀ d < 10, Nat.digitChar d ≠ '.' ∧ Nat.digitChar d ≠ ':' ∧ Nat.digitChar d ≠ '[' ∧
      Nat.digitChar d ≠ '+' ∧ isWhitespace (Nat.digitChar d)=false ∧
      (Nat.digitChar d).toLower=Nat.digitChar d := by decide
  exact hall d hd

theorem toDigits_ofDigitChars {ds : List Char} (hne : ds≠[]) (hdig : ∀ c∈ds, c.isDigit=true)
    (hzero : ds.head?≠some '0') :
    0<Nat.ofDigitChars 10 ds 0 ∧ Nat.toDigits 10 (Nat.ofDigitChars 10 ds 0)=ds := by
  induction ds using reverseRecOn with
  | nil => exact absurd rfl hne
  | append_singleton ds c ih =>
    obtain ⟨d,hd,rfl⟩:=eq_digitChar_of_isDigit (hdig c (by simp))
    have hvalue : Nat.ofDigitChars 10 (ds++[Nat.digitChar d]) 0 =
        10*Nat.ofDigitChars 10 ds 0+d := by
      rw [Nat.ofDigitChars_eq_foldl,Nat.ofDigitChars_eq_foldl,foldl_append,foldl_cons,foldl_nil]
      exact congrArg _ (Nat.toNat_digitChar_sub_48_of_lt_ten hd)
    have hone : Nat.toDigits 10 d=[Nat.digitChar d] := Nat.toDigits_of_lt_base hd
    rw [hvalue]
    cases ds with
    | nil =>
      have hpos : d≠0 := by
        rintro rfl
        exact hzero rfl
      rw [Nat.ofDigitChars_nil,Nat.mul_zero,Nat.zero_add,hone]
      exact ⟨Nat.pos_of_ne_zero hpos,rfl⟩
    | cons =>
      obtain ⟨hpos,hprint⟩:=ih (by simp) (fun y hy => hdig y (mem_append_left _ hy)) hzero
      refine ⟨by omega,?_⟩
      rw [← Nat.toDigits_append_toDigits (by norm_num) hpos hd,hprint,hone]

theorem isDigit_of_toDigit {c : Char} (h : (toDigit 10 c).isSome=true) : c.isDigit=true := by
  by_contra hnot
  rw [toDigit,if_neg hnot] at h
  split_ifs at h with hlow hup <;> simp_all

theorem readNumber_eq {n limit : ℕ} {maxDigits : Option ℕ} {zero : Bool}
    (h : readNumber 10 maxDigits zero limit cs=some (n,rest)) :
    ∃ ds, cs=ds++rest ∧ ds≠[] ∧ (∀ c∈ds, c.isDigit=true) ∧ n=Nat.ofDigitChars 10 ds 0 ∧ n<limit ∧
      (zero=false → ds.head?=some '0' → ds.length≤1) := by
  rw [readNumber] at h
  generalize hds : cs.takeWhile (fun c => (toDigit 10 c).isSome)=ds at h
  have hdig : ∀ c∈ds, c.isDigit=true := by
    intro c hc
    rw [← hds] at hc
    exact isDigit_of_toDigit (mem_takeWhile_imp (p := fun c => (toDigit 10 c).isSome) hc)
  have hcs : ds++cs.drop ds.length=cs := by
    have hpre : ds <+: cs := hds ▸ takeWhile_prefix _
    exact prefix_iff_eq_append.mp hpre
  split at h
  · cases h
  rename_i hok
  obtain ⟨rfl,rfl⟩:=Prod.mk.inj (some.inj h)
  simp only [Bool.or_eq_true,Bool.and_eq_true,not_or,List.isEmpty_iff,decide_eq_true_eq,not_le,
    Bool.not_eq_true'] at hok
  obtain ⟨⟨⟨-,hne⟩,hzero⟩,hlt⟩:=hok
  refine ⟨ds,hcs.symm,hne,hdig,numberValue_eq_ofDigitChars hdig,hlt,?_⟩
  intro hnot hhead
  by_contra hlong
  exact hzero ⟨⟨hnot,hhead⟩,not_le.mp hlong⟩

theorem readNumber_octet_eq {n : ℕ} (h : readNumber 10 (some 3) false 256 cs=some (n,rest)) :
    n<256 ∧ cs=Nat.toDigits 10 n++rest := by
  obtain ⟨ds,rfl,hne,hdig,rfl,hlt,hzero⟩:=readNumber_eq h
  refine ⟨hlt,?_⟩
  by_cases hhead : ds.head?=some '0'
  · obtain ⟨tail,rfl⟩:=head?_eq_some_iff.mp hhead
    have htail : tail=[] := by simpa using hzero rfl hhead
    subst htail
    rfl
  · rw [(toDigits_ofDigitChars hne hdig hhead).2]

theorem readGivenChar_eq {c : Char} {u : Unit}
    (h : readGivenChar c cs=some (u,rest)) : cs=c::rest := by
  cases cs with
  | nil => cases h
  | cons =>
    rw [readGivenChar] at h
    split at h
    · rename_i heq
      cases h
      rw [heq]
    · cases h

theorem octets_ofNat {a b c d : ℕ} (ha : a<256) (hb : b<256) (hc : c<256) (hd : d<256) :
    octets (BitVec.ofNat 32 (((a*256+b)*256+c)*256+d)) =
      [UInt8.ofNat a,UInt8.ofNat b,UInt8.ofNat c,UInt8.ofNat d] := by
  have hvalue : beNat [UInt8.ofNat a,UInt8.ofNat b,UInt8.ofNat c,UInt8.ofNat d] =
      ((a*256+b)*256+c)*256+d := by
    simp only [beNat,foldl_cons,foldl_nil,UInt8.toNat_ofNat_of_lt' ha,UInt8.toNat_ofNat_of_lt' hb,
      UInt8.toNat_ofNat_of_lt' hc,UInt8.toNat_ofNat_of_lt' hd,
      Nat.zero_mul,Nat.zero_add]
  have hread:=octets_ofOctets #v[UInt8.ofNat a,UInt8.ofNat b,UInt8.ofNat c,UInt8.ofNat d]
  rw [← hvalue]
  exact hread

theorem readIpv4Addr_eq {ip : Ipv4Addr}
    (h : readIpv4Addr cs=some (ip,rest)) : cs=(ipv4ToString ip).toList++rest := by
  simp only [readIpv4Addr,readSeparator,Nat.lt_irrefl,if_false,Nat.zero_lt_succ,if_true,
    Option.bind_eq_bind,Option.bind_eq_some_iff,Option.pure_def,Prod.exists] at h
  obtain ⟨a,_,ha,b,_,⟨_,_,hdot₁,hb⟩,c,_,⟨_,_,hdot₂,hc⟩,d,_,⟨_,_,hdot₃,hd⟩,hip⟩:=h
  obtain ⟨rfl,rfl⟩:=Prod.mk.inj (some.inj hip)
  obtain ⟨haLt,rfl⟩:=readNumber_octet_eq ha
  obtain ⟨hbLt,rfl⟩:=readNumber_octet_eq hb
  obtain ⟨hcLt,rfl⟩:=readNumber_octet_eq hc
  obtain ⟨hdLt,rfl⟩:=readNumber_octet_eq hd
  rw [readGivenChar_eq hdot₁,readGivenChar_eq hdot₂,readGivenChar_eq hdot₃]
  obtain ⟨a',b',c',d',hocts,hchs⟩:=ipv4ToString_toList
    (BitVec.ofNat 32 (((a*256+b)*256+c)*256+d))
  rw [octets_ofNat haLt hbLt hcLt hdLt] at hocts
  obtain ⟨rfl,rfl,rfl,rfl⟩ : UInt8.ofNat a=a' ∧ UInt8.ofNat b=b' ∧ UInt8.ofNat c=c' ∧
    UInt8.ofNat d=d' := by simpa using hocts
  rw [hchs,UInt8.toNat_ofNat_of_lt' haLt,UInt8.toNat_ofNat_of_lt' hbLt,
    UInt8.toNat_ofNat_of_lt' hcLt,UInt8.toNat_ofNat_of_lt' hdLt]
  simp only [append_assoc,cons_append]

theorem parseIpAddr_v4_iff {s : String} {ip : Ipv4Addr} :
    parseIpAddr s=some (.v4 ip) ↔ s=ipv4ToString ip := by
  constructor
  · intro h
    rw [parseIpAddr,parseWith] at h
    split at h
    · rename_i a hread
      cases h
      rcases hv4 : readIpv4Addr s.toList with _ | ⟨_,_⟩
      · rw [hv4] at hread
        simp at hread
      rw [hv4] at hread
      cases hread
      have hchs:=readIpv4Addr_eq hv4
      rwa [append_nil,String.toList_inj] at hchs
    · cases h
  · rintro rfl
    have hread:=readIpv4Addr_toString ip notDigit_nil
    rw [append_nil] at hread
    rw [parseIpAddr,parseWith,hread]
    rfl

theorem ipv4ToString_chars (ip : Ipv4Addr) :
    (∀ c∈(ipv4ToString ip).toList, c.isDigit=true ∨ c = '.') ∧
    (∃ c, (ipv4ToString ip).toList.head?=some c ∧ c.isDigit=true) ∧
    ∃ c, (ipv4ToString ip).toList.getLast?=some c ∧ c.isDigit=true := by
  obtain ⟨a,b,c,d,-,hchs⟩:=ipv4ToString_toList ip
  rw [hchs]
  refine ⟨?_,?_,?_⟩
  · intro x hx
    simp only [mem_append,mem_cons] at hx
    rcases hx with hx | rfl | hx | rfl | hx | rfl | hx
    · exact .inl (isDigit_of_mem_decimal hx)
    · exact .inr rfl
    · exact .inl (isDigit_of_mem_decimal hx)
    · exact .inr rfl
    · exact .inl (isDigit_of_mem_decimal hx)
    · exact .inr rfl
    · exact .inl (isDigit_of_mem_decimal hx)
  · obtain ⟨x,_,hx⟩:=exists_cons_of_ne_nil (Nat.toDigits_ne_nil (n := a.toNat) (b := 10))
    rw [hx]
    exact ⟨x,rfl,isDigit_of_mem_decimal (n := a.toNat) (hx ▸ mem_cons_self ..)⟩
  · have hne:=Nat.toDigits_ne_nil (n := d.toNat) (b := 10)
    refine ⟨(Nat.toDigits 10 d.toNat).getLast hne,?_,isDigit_of_mem_decimal (getLast_mem hne)⟩
    simp [getLast?_append,getLast?_cons,getLast?_eq_some_getLast hne]

theorem readPort_eq {port : UInt16} (h : readPort cs=some (port,[])) :
    ∃ ds, cs = ':'::ds ∧ ds≠[] ∧ (∀ c∈ds, c.isDigit=true) ∧ Nat.ofDigitChars 10 ds 0<65536 := by
  simp only [readPort,Option.bind_eq_bind,Option.bind_eq_some_iff,Option.pure_def,Prod.exists] at h
  obtain ⟨_,_,hcol,_,_,hread,hend⟩:=h
  obtain ⟨-,rfl⟩:=Prod.mk.inj (some.inj hend)
  obtain ⟨ds,rfl,hne,hdig,rfl,hlt,-⟩:=readNumber_eq hread
  rw [append_nil] at hcol
  exact ⟨ds,readGivenChar_eq hcol,hne,hdig,hlt⟩

theorem readPort_decimal (port : UInt16) :
    readPort (':'::Nat.toDigits 10 port.toNat)=some (port,[]) := by
  have hread : readNumber 10 none true 65536 (Nat.toDigits 10 port.toNat)=some (port.toNat,[]) := by
    simpa using readNumber_toDigits port.toNat_lt rfl (.inl rfl) notDigit_nil
  simp [readPort,readGivenChar,hread]

theorem parseSocketAddr_v4 (ip : Ipv4Addr) (port : UInt16) :
    parseSocketAddr (ipv4ToString ip ++ ":" ++ decimal port.toNat)=some (.v4 ip port) := by
  have hchs : (ipv4ToString ip ++ ":" ++ decimal port.toNat).toList =
      (ipv4ToString ip).toList ++ ':'::Nat.toDigits 10 port.toNat := by
    simp [decimal,Nat.toList_repr]
  have hcol : NotDigit (':'::Nat.toDigits 10 port.toNat) := by
    rintro c ⟨⟩
    decide
  rw [parseSocketAddr,parseWith,hchs,readSocketAddrV4,readIpv4Addr_toString ip hcol]
  simp [readPort_decimal]

theorem parseSocketAddr_unbracketed {s : String} {socket : SocketAddr}
    (h : parseSocketAddr s=some socket) (hopen : s.toList.head?≠some '[') :
    ∃ ip port ds, socket = .v4 ip port ∧ s.toList=(ipv4ToString ip).toList ++ ':'::ds ∧
      ds≠[] ∧ (∀ c∈ds, c.isDigit=true) ∧ Nat.ofDigitChars 10 ds 0 < 65536 := by
  rw [parseSocketAddr,parseWith] at h
  split at h
  · rename_i a hread
    cases h
    have hv6 : readSocketAddrV6 s.toList=none := by
      cases hs : s.toList with
      | nil => rfl
      | cons c =>
        have hc : c ≠ '[' := by
          rintro rfl
          exact hopen (by rw [hs]; rfl)
        rw [readSocketAddrV6,readGivenChar,if_neg hc]
        rfl
    rw [hv6,Option.or_none] at hread
    simp only [readSocketAddrV4,Option.bind_eq_bind,Option.bind_eq_some_iff,Option.pure_def,
      Prod.exists] at hread
    obtain ⟨ip,_,hip,port,_,hport,hend⟩ := hread
    obtain ⟨rfl,rfl⟩ := Prod.mk.inj (Option.some.inj hend)
    obtain ⟨ds,rfl,hne,hdig,hlt⟩ := readPort_eq hport
    exact ⟨ip,port,ds,rfl,readIpv4Addr_eq hip,hne,hdig,hlt⟩
  · cases h

end Lantunnel.Lib.RustNet
