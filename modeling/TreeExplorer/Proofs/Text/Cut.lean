/-
Cutting texts at separators. Cutting at one separator and then on both sides of it is
cutting at all (`cut_append_cons`), and what was joined by separators comes apart again
if no piece holds one. Lines are the case of newlines, but for the last piece if it is
empty (`lines_append`).
-/
import TreeExplorer.Text.Lines

namespace TreeExplorer.Text

theorem cutLoop_append {p : Char → Bool} {line : List Char} (h : ∀ c ∈ line, p c = false)
    (cur rest : List Char) : cutLoop p cur (line ++ rest) = cutLoop p (line.reverse ++ cur) rest := by
  induction line generalizing cur with
  | nil => rfl
  | cons c line ih =>
    have hc := h c List.mem_cons_self
    rw [List.cons_append, cutLoop, if_neg (by simp [hc]), ih fun x hx => h x (List.mem_cons_of_mem _ hx)]
    simp

theorem cut_of_all_not {p : Char → Bool} {piece : List Char} (h : ∀ c ∈ piece, p c = false) :
    cut p piece = [piece] := by
  have hloop := cutLoop_append h [] []
  rw [List.append_nil, List.append_nil] at hloop
  rw [cut, hloop, cutLoop, List.reverse_reverse]

theorem cutLoop_append_cons {p : Char → Bool} {d : Char} (hd : p d = true)
    (cur left right : List Char) :
    cutLoop p cur (left ++ d :: right) = cutLoop p cur left ++ cut p right := by
  induction left generalizing cur with
  | nil => simp [cutLoop, cut, hd]
  | cons c left ih =>
    rw [List.cons_append, cutLoop, cutLoop]
    split
    · rw [ih, List.cons_append]
    · exact ih (c :: cur)

theorem cut_ne_nil (p : Char → Bool) (cs : List Char) : cut p cs ≠ [] := by
  have hloop : ∀ cur, cutLoop p cur cs ≠ [] := by
    induction cs with
    | nil => simp [cutLoop]
    | cons c cs ih =>
      intro cur
      rw [cutLoop]
      split
      · simp
      · exact ih _
  exact hloop []

/-- What stands on the two sides of a separator is cut on its own. -/
theorem cut_append_cons {p : Char → Bool} {d : Char} (hd : p d = true) (left right : List Char) :
    cut p (left ++ d :: right) = cut p left ++ cut p right :=
  cutLoop_append_cons hd [] left right

/-- Lines that are each followed by a separator are found again by cutting. -/
theorem cut_flatMap {p : Char → Bool} {d : Char} (hd : p d = true) {lines : List (List Char)}
    (h : ∀ line ∈ lines, ∀ c ∈ line, p c = false) :
    cut p (lines.flatMap (· ++ [d])) = lines ++ [[]] := by
  induction lines with
  | nil => rfl
  | cons line lines ih =>
    have hline := h line List.mem_cons_self
    have hrest := ih fun l hl => h l (List.mem_cons_of_mem _ hl)
    rw [List.flatMap_cons, List.append_assoc, List.singleton_append, cut_append_cons hd,
      cut_of_all_not hline, hrest]
    rfl

theorem count_flatMap {d : Char} {lines : List (List Char)} (h : ∀ line ∈ lines, d ∉ line) :
    (lines.flatMap (· ++ [d])).count d = lines.length := by
  induction lines with
  | nil => rfl
  | cons line lines ih =>
    have hline := List.count_eq_zero.2 (h line List.mem_cons_self)
    have hrest := ih fun l hl => h l (List.mem_cons_of_mem _ hl)
    simp [hline, hrest]

/-! ## Lines -/

theorem cut_of_notMem {cs : List Char} (h : '\n' ∉ cs) : cut (· == '\n') cs = [cs] :=
  cut_of_all_not fun _ hc => beq_eq_false_iff_ne.2 fun heq => h (heq ▸ hc)

theorem lines_of_notMem {cs : List Char} (h : '\n' ∉ cs) :
    lines cs = if cs = [] then [] else [cs] := by
  rw [lines, cut_of_notMem h]
  cases cs <;> simp

theorem lines_append {line : List Char} (h : '\n' ∉ line) (rest : List Char) :
    lines (line ++ '\n' :: rest) = dropFinalReturn line :: lines rest := by
  have hcut : cut (· == '\n') (line ++ '\n' :: rest) = line :: cut (· == '\n') rest := by
    rw [cut_append_cons (p := (· == '\n')) rfl, cut_of_notMem h, List.singleton_append]
  rw [lines, hcut, List.dropLast_cons_of_ne_nil (cut_ne_nil _ _),
    List.getLast?_cons_of_ne_nil (cut_ne_nil _ _), List.map_cons, List.cons_append, lines]

theorem lines_eq_nil_iff {cs : List Char} : lines cs = [] ↔ cs = [] := by
  by_cases h : '\n' ∈ cs
  · obtain ⟨line, rest, rfl, hline⟩ := List.eq_append_cons_of_mem h
    simp [lines_append hline]
  · simp [lines_of_notMem h]

end TreeExplorer.Text
