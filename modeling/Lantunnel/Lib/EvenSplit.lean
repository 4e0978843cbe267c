import Mathlib.Tactic

/-!
# Cutting a list into parts of nearly equal size

`count` consecutive parts, of which the first `n % count` have one element more than the
others.
-/

namespace Lantunnel.Lib.EvenSplit

variable {α : Type}

def start (n count i : ℕ) : ℕ := i*(n/count)+min i (n % count)

def size (n count i : ℕ) : ℕ := n/count+if i<n % count then 1 else 0

def part (l : List α) (count i : ℕ) : List α :=
  (l.drop (start l.length count i)).take (size l.length count i)

theorem start_succ (n count i : ℕ) : start n count (i+1)=start n count i+size n count i := by
  rw [start,start,size,Nat.succ_mul]
  split <;> omega

variable {n count i : ℕ}

theorem start_count (h : 0<count) : start n count count=n := by
  have hrest:=Nat.mod_lt n h
  rw [start,Nat.min_eq_right hrest.le,Nat.div_add_mod n count]

theorem start_mono (n count : ℕ) {j : ℕ} (h : i≤j) : start n count i≤ start n count j := by
  induction h with
  | refl => exact le_rfl
  | step =>
    rw [start_succ]
    omega

theorem stop_le (h : i<count) : start n count i+size n count i≤n := by
  have hmono:=start_mono n count (Nat.succ_le_of_lt h)
  rw [start_succ,start_count (by omega)] at hmono
  exact hmono

theorem part_length {l : List α} (h : i<count) : (part l count i).length=size l.length count i := by
  have hstop:=stop_le (n := l.length) h
  rw [part,List.length_take,List.length_drop]
  omega

theorem size_le {most : ℕ} (h : n≤count*most) (i : ℕ) : size n count i≤ most := by
  have hspl:=Nat.div_add_mod n count
  rw [size]
  split
  · -- a rest means that the base alone does not hold all
    rename_i hi
    have hlt : n/count< most := by
      refine Nat.lt_of_mul_lt_mul_left (a := count) ?_
      omega
    omega
  · rw [Nat.add_zero]
    exact Nat.div_le_of_le_mul h

theorem flatMap_part_take (l : List α) (k : ℕ) (h : k≤count) :
    (List.range k).flatMap (part l count)=l.take (start l.length count k) := by
  induction k with
  | zero => simp [start]
  | succ k ih =>
    rw [List.range_succ,List.flatMap_append,ih (by omega),List.flatMap_singleton,part,
      start_succ,List.take_add]

theorem flatMap_part (l : List α) (h : 0<count) : (List.range count).flatMap (part l count)=l := by
  rw [flatMap_part_take l count le_rfl,start_count h,List.take_length]

end Lantunnel.Lib.EvenSplit
