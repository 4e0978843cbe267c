import Mathlib.Tactic

/-!
# Aligned blocks of addresses

A block of `2 ^ k` addresses starts at a multiple of its size.
-/

namespace Lantunnel.Lib.AddressBlock

variable {w k : ℕ}

def highMask (w k : ℕ) : BitVec w := BitVec.allOnes w <<< k

theorem toNat_and_highMask (a : BitVec w) (k : ℕ) : (a &&& highMask w k).toNat=a.toNat/2^k*2^k := by
  have hshift : a &&& highMask w k=(a >>> k) <<< k := by
    ext i hi
    simp only [highMask,BitVec.getElem_and,BitVec.getElem_shiftLeft,BitVec.getElem_allOnes,
      BitVec.getElem_ushiftRight]
    by_cases hik : i<k
    · simp [hik]
    have hback : k+(i-k)=i := by omega
    simp [hik,hback,BitVec.getLsbD_eq_getElem hi]
  have hle : a.toNat/2^k*2^k<2^w :=
    Nat.lt_of_le_of_lt (Nat.div_mul_le_self _ _) a.isLt
  rw [hshift,BitVec.toNat_shiftLeft,BitVec.toNat_ushiftRight,Nat.shiftRight_eq_div_pow,
    Nat.shiftLeft_eq,Nat.mod_eq_of_lt hle]

def Aligned (n : BitVec w) (k : ℕ) : Prop := 2^k ∣ n.toNat

variable {n : BitVec w}

theorem and_highMask_self_iff : n &&& highMask w k=n ↔ Aligned n k := by
  rw [← BitVec.toNat_inj,toNat_and_highMask,Aligned]
  constructor
  · intro h
    exact ⟨n.toNat/2^k,by rw [Nat.mul_comm,h]⟩
  · exact Nat.div_mul_cancel

theorem and_highMask_eq_iff (hn : Aligned n k) (a : BitVec w) :
    a &&& highMask w k=n ↔ n.toNat≤a.toNat ∧ a.toNat<n.toNat+2^k := by
  obtain ⟨q,hq⟩:=hn
  have hpos : 0<2^k := Nat.two_pow_pos k
  rw [← BitVec.toNat_inj,toNat_and_highMask,hq]
  have hdiv:=Nat.div_add_mod a.toNat (2^k)
  rw [Nat.mul_comm (a.toNat/2^k)]
  constructor
  · omega
  rintro ⟨_,hhigh⟩
  have hle : q≤a.toNat/2^k := (Nat.le_div_iff_mul_le hpos).mpr (by rwa [Nat.mul_comm])
  have hlt : a.toNat/2^k<q+1 :=
    (Nat.div_lt_iff_lt_mul hpos).mpr (by rw [Nat.mul_comm,Nat.mul_succ]; exact hhigh)
  rw [le_antisymm (by omega) hle]

theorem toNat_not_highMask (hk : k≤w) : (~~~highMask w k).toNat=2^k-1 := by
  have hpow : 2^w=2^(w-k)*2^k := by rw [← Nat.pow_add,Nat.sub_add_cancel hk]
  have hhigh:=toNat_and_highMask (BitVec.allOnes w) k
  rw [BitVec.allOnes_and,BitVec.toNat_allOnes] at hhigh
  have hdiv : (2^w-1)/2^k=2^(w-k)-1 := by
    rw [hpow,Nat.mul_comm,Nat.mul_sub_div 0 _ _ (by positivity)]
    simp
  rw [BitVec.toNat_not,hhigh,hdiv,Nat.sub_mul,Nat.one_mul,← hpow]
  have hle : 2^k≤2^w := Nat.pow_le_pow_right (by omega) hk
  omega

theorem toNat_or_not_highMask (hn : Aligned n k) (hk : k≤w) :
    (n ||| ~~~highMask w k).toNat=n.toNat+(2^k-1) := by
  obtain ⟨q,hq⟩:=hn
  have hlow : 2^k-1<2^k := Nat.sub_lt (Nat.two_pow_pos k) (by omega)
  rw [BitVec.toNat_or,toNat_not_highMask hk,hq,Nat.two_pow_add_eq_or_of_lt hlow]

theorem Aligned.end_le (hn : Aligned n k) (hk : k≤w) : n.toNat+2^k≤2^w := by
  obtain ⟨q,hq⟩:=hn
  have hpow : 2^w=2^k*2^(w-k) := by rw [← Nat.pow_add,Nat.add_sub_cancel' hk]
  have hlt:=n.isLt
  rw [hq,hpow] at hlt ⊢
  have hq' : q<2^(w-k) := Nat.lt_of_mul_lt_mul_left hlt
  exact Nat.mul_le_mul_left _ hq'

theorem Aligned.half (hn : Aligned n (k+1)) : Aligned n k :=
  Dvd.dvd.trans (Nat.pow_dvd_pow 2 (Nat.le_succ k)) hn

theorem Aligned.toNat_upper (hn : Aligned n (k+1)) (hk : k+1≤w) :
    (n+1#w <<< k).toNat=n.toNat+2^k := by
  have hend:=hn.end_le hk
  have hone : (1#w <<< k).toNat=2^k := by
    rw [BitVec.toNat_shiftLeft,BitVec.toNat_ofNat,Nat.one_mod_eq_one.mpr (by
      have hw:=Nat.lt_two_pow_self (n := w)
      omega),Nat.one_shiftLeft,Nat.mod_eq_of_lt (by omega)]
  rw [BitVec.toNat_add,hone,Nat.mod_eq_of_lt (by omega)]

theorem Aligned.upper (hn : Aligned n (k+1)) (hk : k+1≤w) : Aligned (n+1#w <<< k) k := by
  rw [Aligned,hn.toNat_upper hk]
  exact Nat.dvd_add hn.half (dvd_refl _)

theorem nested {n n' k k' : ℕ} (hn : 2^k ∣ n) (hn' : 2^k' ∣ n') (hk : k≤k')
    (hmeet : n<n'+2^k') (hmeet' : n'<n+2^k) : n'≤n ∧ n+2^k≤n'+2^k' := by
  obtain ⟨q,rfl⟩:=hn
  obtain ⟨_,rfl⟩:=Dvd.dvd.trans (Nat.pow_dvd_pow 2 hk) hn'
  obtain ⟨d,hd⟩:=Nat.pow_dvd_pow 2 hk
  rw [hd,← Nat.mul_add] at hmeet ⊢
  rw [← Nat.mul_succ] at hmeet' ⊢
  have hlow:=Nat.lt_of_mul_lt_mul_left hmeet'
  have hhigh:=Nat.lt_of_mul_lt_mul_left hmeet
  exact ⟨Nat.mul_le_mul_left _ (Nat.le_of_lt_succ hlow),Nat.mul_le_mul_left _ hhigh⟩

end Lantunnel.Lib.AddressBlock
