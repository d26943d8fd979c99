/-
The decimal digits of a number. Writing divides by ten again and again, with
fuel; `decimalList_of_lt` and `decimalList_of_le` say it without the fuel, and
everything else follows along them: digits only, no zero in front of others, and
the number itself when the digits are read.
-/
import Mathlib.Data.List.TakeWhile
import TreeExplorer.Decimal

namespace TreeExplorer.Text

/-! ## Digits -/

theorem digit?_digitChar (d : Nat) : digit? (digitChar d) = some (d % 10) := by
  have hlt : d % 10 < 10 := Nat.mod_lt d (by decide)
  rw [digitChar]
  generalize d % 10 = r at hlt
  decide +revert

theorem isDigit_digitChar (d : Nat) : isDigit (digitChar d) = true := by
  rw [isDigit, digit?_digitChar, Option.isSome_some]

theorem digitChar_eq_zero_iff (d : Nat) : digitChar d = '0' ↔ d % 10 = 0 := by
  have hlt : d % 10 < 10 := Nat.mod_lt d (by decide)
  rw [digitChar]
  generalize d % 10 = r at hlt
  decide +revert

/-! ## Writing -/

theorem decimalLoop_append (fuel n : Nat) (acc rest : List Char) :
    decimalLoop fuel n (acc ++ rest) = decimalLoop fuel n acc ++ rest := by
  induction fuel generalizing n acc with
  | zero => rfl
  | succ fuel ih =>
    simp only [decimalLoop]
    split
    · rfl
    · exact ih (n / 10) (digitChar n :: acc)

/-- Any fuel beyond the number does. -/
theorem decimalLoop_eq {fuel fuel' n : Nat} (h : n < fuel) (h' : n < fuel') (acc : List Char) :
    decimalLoop fuel n acc = decimalLoop fuel' n acc := by
  induction fuel generalizing fuel' n acc with
  | zero => omega
  | succ fuel ih =>
    obtain ⟨fuel', rfl⟩ : ∃ k, fuel' = k + 1 := ⟨fuel' - 1, by omega⟩
    simp only [decimalLoop]
    split
    · rfl
    · exact ih (by omega) (by omega) _

theorem decimalList_of_lt {n : Nat} (h : n < 10) : decimalList n = [digitChar n] := by
  rw [decimalList, decimalLoop, if_pos h]

theorem decimalList_of_le {n : Nat} (h : 10 ≤ n) :
    decimalList n = decimalList (n / 10) ++ [digitChar n] := by
  rw [decimalList, decimalLoop, if_neg (by omega), decimalList, ← decimalLoop_append]
  exact decimalLoop_eq (by omega) (by omega) _

/-- What holds of a digit, and of digits with one more behind them, holds of the
digits of every number. -/
theorem decimalList_induction {p : Nat → List Char → Prop}
    (single : ∀ n < 10, p n [digitChar n])
    (more : ∀ n, 10 ≤ n → p (n / 10) (decimalList (n / 10)) →
      p n (decimalList (n / 10) ++ [digitChar n])) (n : Nat) : p n (decimalList n) := by
  induction n using Nat.strongRecOn with
  | ind n ih =>
    by_cases h : n < 10
    · rw [decimalList_of_lt h]
      exact single n h
    · have hle : 10 ≤ n := Nat.le_of_not_lt h
      rw [decimalList_of_le hle]
      exact more n hle (ih (n / 10) (by omega))

theorem isDigit_of_mem_decimalList {n : Nat} : ∀ c ∈ decimalList n, isDigit c = true := by
  refine decimalList_induction (p := fun _ ds => ∀ c ∈ ds, isDigit c = true) ?_ ?_ n
  · intro n _ c hc
    rw [List.mem_singleton.1 hc]
    exact isDigit_digitChar n
  · intro n _ ih c hc
    rcases List.mem_append.1 hc with hc | hc
    · exact ih c hc
    · rw [List.mem_singleton.1 hc]
      exact isDigit_digitChar n

/-- The first digit is zero for zero alone. -/
theorem decimalList_eq_cons (n : Nat) :
    ∃ c rest, decimalList n = c :: rest ∧ (c = '0' → n = 0 ∧ rest = []) := by
  refine decimalList_induction
    (p := fun n ds => ∃ c rest, ds = c :: rest ∧ (c = '0' → n = 0 ∧ rest = [])) ?_ ?_ n
  · intro n hn
    refine ⟨digitChar n, [], rfl, fun h => ⟨?_, rfl⟩⟩
    have hzero := (digitChar_eq_zero_iff n).1 h
    omega
  · rintro n hn ⟨c, rest, hds, hc⟩
    refine ⟨c, rest ++ [digitChar n], by rw [hds, List.cons_append], fun h => ?_⟩
    have hzero := (hc h).1
    omega

end TreeExplorer.Text

namespace TreeExplorer.Decimal

open Text

theorem isPlainWhole_decimalList (n : Nat) : isPlainWhole (decimalList n) = true := by
  obtain ⟨c, rest, hds, hc⟩ := decimalList_eq_cons n
  have hdigits : (c :: rest).all isDigit = true := by
    rw [← hds]
    exact List.all_eq_true.2 isDigit_of_mem_decimalList
  rw [hds]
  by_cases hzero : c = '0'
  · obtain ⟨-, rfl⟩ := hc hzero
    rw [hzero]
    rfl
  · rw [isPlainWhole]
    · exact hdigits
    · simp
    · simp [hzero]
    · simp [hzero]

/-- Reading the digits of a number gives the number. -/
theorem digitRun_decimalList (n : Nat) : (digitRun (decimalList n)).1 = n := by
  have hall : (decimalList n).takeWhile (fun c => (digit? c).isSome) = decimalList n :=
    List.takeWhile_eq_self_iff.2 isDigit_of_mem_decimalList
  rw [digitRun, hall]
  refine decimalList_induction
    (p := fun n ds => ds.foldl (fun n c => n * 10 + (digit? c).getD 0) 0 = n) ?_ ?_ n
  · intro n hn
    simp only [List.foldl_cons, List.foldl_nil, digit?_digitChar, Option.getD_some]
    omega
  · intro n hn ih
    simp only [List.foldl_append, List.foldl_cons, List.foldl_nil, ih, digit?_digitChar,
      Option.getD_some]
    omega

end TreeExplorer.Decimal
