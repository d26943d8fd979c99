/-
Letter case within ASCII, character by character: two texts are the same up to case
if at each place they have the same character, or the small and the capital form of one
ASCII letter.
-/
import Mathlib.Data.List.Forall2
import TreeExplorer.Text.Ascii

namespace TreeExplorer.Text

/-- The first character is a capital ASCII letter and the second its small form. -/
def Lowers (c d : Char) : Prop :=
  'A' ≤ c ∧ c ≤ 'Z' ∧ d.toNat = c.toNat + 32

/-- The same character, or the two forms of one ASCII letter. -/
def SameLetter (c d : Char) : Prop :=
  c = d ∨ Lowers c d ∨ Lowers d c

/-- The second character is the first, or its small form where it is a capital ASCII
letter. -/
def LowersTo (c d : Char) : Prop :=
  Lowers c d ∨ ¬('A' ≤ c ∧ c ≤ 'Z') ∧ d = c

/-- `t` is `s` with small forms for its capital ASCII letters. -/
def SmallForm (s t : String) : Prop :=
  List.Forall₂ LowersTo s.toList t.toList

theorem toNat_lowerChar (c : Char) :
    (lowerChar c).toNat = if 65 ≤ c.toNat ∧ c.toNat ≤ 90 then c.toNat + 32 else c.toNat := by
  have hbounds : 'A' ≤ c ∧ c ≤ 'Z' ↔ 65 ≤ c.toNat ∧ c.toNat ≤ 90 := Iff.rfl
  rw [lowerChar]
  by_cases h : 'A' ≤ c ∧ c ≤ 'Z'
  · rw [if_pos h, if_pos (hbounds.1 h)]
    have hvalid : Nat.isValidChar (c.toNat + 32) := .inl (by have := hbounds.1 h; omega)
    rw [Char.ofNat, dif_pos hvalid]
    rfl
  · rw [if_neg h, if_neg fun h' => h (hbounds.2 h')]

theorem lowerChar_eq_iff {c d : Char} : lowerChar c = lowerChar d ↔ SameLetter c d := by
  have hlowers : ∀ x y : Char, Lowers x y ↔ 65 ≤ x.toNat ∧ x.toNat ≤ 90 ∧ y.toNat = x.toNat + 32 :=
    fun _ _ => Iff.rfl
  simp only [SameLetter, hlowers, ← Char.toNat_inj, toNat_lowerChar]
  split <;> split <;> omega

theorem sameIgnoringCase_iff {s t : String} :
    sameIgnoringCase s t = true ↔ List.Forall₂ SameLetter s.toList t.toList := by
  have hlower : ∀ cs ds : List Char,
      cs.map lowerChar = ds.map lowerChar ↔ List.Forall₂ SameLetter cs ds := by
    intro cs ds
    rw [← List.forall₂_eq_eq_eq, List.forall₂_map_left_iff, List.forall₂_map_right_iff]
    simp only [lowerChar_eq_iff]
  rw [sameIgnoringCase, beq_iff_eq, lower, lower, ← hlower]
  exact String.ofList_inj

theorem lowersTo_iff {c d : Char} : LowersTo c d ↔ lowerChar c = d := by
  have hbounds : 'A' ≤ c ∧ c ≤ 'Z' ↔ 65 ≤ c.toNat ∧ c.toNat ≤ 90 := Iff.rfl
  have hlowers : Lowers c d ↔ 65 ≤ c.toNat ∧ c.toNat ≤ 90 ∧ d.toNat = c.toNat + 32 := Iff.rfl
  rw [LowersTo, hlowers, hbounds, ← Char.toNat_inj, ← Char.toNat_inj, toNat_lowerChar]
  split <;> omega

theorem smallForm_iff {s t : String} : SmallForm s t ↔ t = lower s := by
  have hrel : LowersTo = fun c d => lowerChar c = d := by
    funext c d
    exact propext lowersTo_iff
  rw [SmallForm, hrel, ← List.forall₂_map_left_iff, List.forall₂_eq_eq_eq, lower, ← String.toList_inj,
    String.toList_ofList, eq_comm]

theorem lowerChar_lowerChar (c : Char) : lowerChar (lowerChar c) = lowerChar c := by
  have hsmall : ¬(65 ≤ (lowerChar c).toNat ∧ (lowerChar c).toNat ≤ 90) := by
    rw [toNat_lowerChar]
    split <;> omega
  rw [← Char.toNat_inj, toNat_lowerChar, if_neg hsmall]

theorem lower_lower (s : String) : lower (lower s) = lower s := by
  rw [lower, lower, String.toList_ofList, List.map_map]
  congr 2
  funext c
  exact lowerChar_lowerChar c

end TreeExplorer.Text
