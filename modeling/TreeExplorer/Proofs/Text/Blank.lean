/-
What trimming leaves. Blanks are dropped from the front and then from the back, so
that what is left has none at either end (`trims_trim`), and nothing else than that can
be left (`trims_iff`). A text that is all blanks is used up by the first of the two.
-/
import Mathlib.Data.List.TakeWhile
import TreeExplorer.Text.Blank

namespace TreeExplorer.Text

/-- `t` is `s` without the blanks at its two ends: only blanks were dropped, and no
more of them can be. -/
structure Trims (s t : String) : Prop where
  parts : ∃ front back, s.toList = front ++ t.toList ++ back ∧ ∀ c ∈ front ++ back, isBlank c = true
  head : ∀ c ∈ t.toList.head?, isBlank c = false
  last : ∀ c ∈ t.toList.getLast?, isBlank c = false

theorem isBlank_of_mem_head?_dropWhile {cs : List Char} {c : Char}
    (h : c ∈ (cs.dropWhile isBlank).head?) : isBlank c = false := by
  have hnot := List.head?_dropWhile_not isBlank cs
  rw [Option.mem_def.1 h] at hnot
  exact hnot

theorem trimEndList_append (cs : List Char) :
    ∃ back, cs = trimEndList cs ++ back ∧ ∀ c ∈ back, isBlank c = true := by
  refine ⟨(cs.reverse.takeWhile isBlank).reverse, ?_, ?_⟩
  · rw [trimEndList, ← List.reverse_append, List.takeWhile_append_dropWhile, List.reverse_reverse]
  · intro c hc
    exact List.mem_takeWhile_imp (List.mem_reverse.1 hc)

theorem trims_trim (s : String) : Trims s (trim s) := by
  have hfront := List.takeWhile_append_dropWhile (p := isBlank) (l := s.toList)
  obtain ⟨back, hback, hblank⟩ := trimEndList_append (trimStartList s.toList)
  have htrim : (trim s).toList = trimEndList (trimStartList s.toList) := String.toList_ofList
  refine ⟨⟨s.toList.takeWhile isBlank, back, ?_, ?_⟩, ?_, ?_⟩
  · rw [htrim, List.append_assoc, ← hback]
    exact hfront.symm
  · intro c hc
    rcases List.mem_append.1 hc with hc | hc
    · exact List.mem_takeWhile_imp hc
    · exact hblank c hc
  · intro c hc
    -- The first character that is left is the first that was left by the front.
    have hstart : c ∈ (trimStartList s.toList).head? := by
      rw [htrim] at hc
      rw [hback, Option.mem_def, List.head?_append, Option.mem_def.1 hc]
      rfl
    exact isBlank_of_mem_head?_dropWhile hstart
  · intro c hc
    rw [htrim, trimEndList, List.getLast?_reverse] at hc
    exact isBlank_of_mem_head?_dropWhile hc

theorem dropWhile_isBlank_of_head? {cs : List Char} (h : ∀ c ∈ cs.head?, isBlank c = false) :
    cs.dropWhile isBlank = cs := by
  cases cs with
  | nil => rfl
  | cons c cs => rw [List.dropWhile_cons, h c rfl, if_neg (by decide)]

theorem trimList_of_parts {front kept back : List Char} (hfront : ∀ c ∈ front, isBlank c = true)
    (hback : ∀ c ∈ back, isBlank c = true) (hhead : ∀ c ∈ kept.head?, isBlank c = false)
    (hlast : ∀ c ∈ kept.getLast?, isBlank c = false) : trimList (front ++ kept ++ back) = kept := by
  rw [trimList, trimStartList, List.append_assoc, List.dropWhile_append_of_pos hfront]
  cases kept with
  | nil =>
    rw [List.nil_append, List.dropWhile_eq_nil_iff.2 hback]
    rfl
  | cons c kept =>
    have hreverse : ∀ c ∈ back.reverse, isBlank c = true := fun c hc => hback c (List.mem_reverse.1 hc)
    have hstart : ∀ d ∈ (c :: kept ++ back).head?, isBlank d = false := hhead
    rw [← List.head?_reverse] at hlast
    rw [dropWhile_isBlank_of_head? hstart, trimEndList, List.reverse_append,
      List.dropWhile_append_of_pos hreverse, dropWhile_isBlank_of_head? hlast, List.reverse_reverse]

theorem trims_iff {s t : String} : Trims s t ↔ t = trim s := by
  constructor
  · rintro ⟨⟨front, back, hs, hblank⟩, hhead, hlast⟩
    have hfront : ∀ c ∈ front, isBlank c = true := fun c hc => hblank c (List.mem_append_left _ hc)
    have hback : ∀ c ∈ back, isBlank c = true := fun c hc => hblank c (List.mem_append_right _ hc)
    rw [trim, hs, trimList_of_parts hfront hback hhead hlast, String.ofList_toList]
  · rintro rfl
    exact trims_trim s

theorem Trims.pad {s t : String} (h : Trims s t) {front back : String}
    (hblank : ∀ c ∈ front.toList ++ back.toList, isBlank c = true) : Trims (front ++ s ++ back) t := by
  obtain ⟨⟨f, b, hs, hfb⟩, hhead, hlast⟩ := h
  refine ⟨⟨front.toList ++ f, b ++ back.toList, by simp [hs], ?_⟩, hhead, hlast⟩
  intro c hc
  simp only [List.mem_append] at hblank hfb hc
  rcases hc with (hc | hc) | hc | hc
  · exact hblank c (.inl hc)
  · exact hfb c (.inl hc)
  · exact hfb c (.inr hc)
  · exact hblank c (.inr hc)

theorem trim_pad (s : String) {front back : String}
    (hblank : ∀ c ∈ front.toList ++ back.toList, isBlank c = true) :
    trim (front ++ s ++ back) = trim s :=
  (trims_iff.1 ((trims_trim s).pad hblank)).symm

theorem trim_trim (s : String) : trim (trim s) = trim s := by
  have h := trims_trim s
  exact (trims_iff.1 ⟨⟨[], [], by simp, by simp⟩, h.head, h.last⟩).symm

end TreeExplorer.Text
