/-
Texts that stay on one line. Numerals do, and whatever a text holds, it stays on one
line in quotes, where a newline is escaped, and as its own first line.
-/
import TreeExplorer.Proofs.Text.Cut
import TreeExplorer.Proofs.Text.Numeral
import TreeExplorer.Text.Quoted

namespace TreeExplorer.Text

/-- The text has no newline. -/
def OneLine (s : String) : Prop :=
  '\n' ∉ s.toList

instance (s : String) : Decidable (OneLine s) :=
  inferInstanceAs (Decidable (_ ∉ _))

theorem OneLine.append {s t : String} (hs : OneLine s) (ht : OneLine t) : OneLine (s ++ t) := by
  intro h
  rw [String.toList_append] at h
  exact (List.mem_append.1 h).elim hs ht

theorem oneLine_decimal (n : Nat) : OneLine (decimal n) := by
  intro h
  rw [decimal, String.toList_ofList] at h
  exact absurd (isDigit_of_mem_decimalList '\n' h) (by decide)

/-! ## Texts in quotes -/

theorem hexChar_ne_newline : ∀ d < 16, hexChar d ≠ '\n' := by
  decide

theorem newline_notMem_hexLoop (fuel n : Nat) {acc : List Char} (h : '\n' ∉ acc) :
    '\n' ∉ hexLoop fuel n acc := by
  have hcons : ∀ {acc : List Char} (d : Nat), d < 16 → '\n' ∉ acc → '\n' ∉ hexChar d :: acc :=
    fun d hd hacc => List.not_mem_cons_of_ne_of_not_mem (hexChar_ne_newline d hd).symm hacc
  induction fuel generalizing n acc with
  | zero => exact h
  | succ fuel ih =>
    rw [hexLoop]
    split
    next hn => exact hcons n hn h
    next => exact ih (n / 16) (hcons (n % 16) (Nat.mod_lt n (by decide)) h)

theorem newline_notMem_quoteChar (c : Char) : '\n' ∉ quoteChar c := by
  have hhex : '\n' ∉ hexList c.toNat := newline_notMem_hexLoop _ _ (by simp)
  unfold quoteChar
  split
  · decide
  split
  · decide
  split
  · decide
  next hne =>
  split
  · decide
  split
  · decide
  split
  · decide
  split
  · simp [hhex]
  · simpa using Ne.symm hne

theorem oneLine_quoted (s : String) : OneLine (quoted s) := by
  intro h
  rw [quoted, String.toList_ofList] at h
  simp only [List.cons_append, List.mem_cons, List.mem_append, List.mem_flatMap, List.not_mem_nil,
    or_false] at h
  rcases h with h | ⟨c, -, h⟩ | h
  · exact absurd h (by decide)
  · exact newline_notMem_quoteChar c h
  · exact absurd h (by decide)

/-! ## First lines -/

theorem dropFinalReturn_sublist (cs : List Char) : (dropFinalReturn cs).Sublist cs := by
  unfold dropFinalReturn
  split
  next rest hcs =>
    have hrest : rest.Sublist cs.reverse := hcs ▸ List.sublist_cons_self '\r' rest
    simpa using hrest.reverse
  next => exact .refl cs

theorem firstLineList_of_notMem {cs : List Char} (h : '\n' ∉ cs) : firstLineList cs = cs := by
  rw [firstLineList, lines_of_notMem h]
  cases cs <;> rfl

/-- The mark stands behind a line just if something stands behind its newline. -/
theorem firstLineList_append {line : List Char} (h : '\n' ∉ line) (rest : List Char) :
    firstLineList (line ++ '\n' :: rest) =
      dropFinalReturn line ++ if rest = [] then [] else [ellipsis] := by
  rw [firstLineList, lines_append h]
  by_cases hrest : rest = []
  · simp [hrest, lines_eq_nil_iff.2]
  · obtain ⟨second, others, hlines⟩ := List.exists_cons_of_ne_nil (mt lines_eq_nil_iff.1 hrest)
    rw [hlines, if_neg hrest]

theorem oneLine_firstLine (s : String) : OneLine (firstLine s) := by
  rw [OneLine, firstLine, String.toList_ofList]
  by_cases h : '\n' ∈ s.toList
  · obtain ⟨line, rest, hs, hline⟩ := List.eq_append_cons_of_mem h
    rw [hs, firstLineList_append hline]
    intro hmem
    rcases List.mem_append.1 hmem with hmem | hmem
    · exact hline ((dropFinalReturn_sublist line).subset hmem)
    · revert hmem
      split <;> decide
  · rwa [firstLineList_of_notMem h]

end TreeExplorer.Text
