/-
The first line of a text and the mark behind it. A text has no newline, and is then its
own first line, or it is a line, a newline and a rest (`firstLineList_append`): the line
loses one carriage return at its end, and the mark tells that the rest is not empty.
-/
import TreeExplorer.Proofs.Text.OneLine

namespace TreeExplorer.Text

/-- `kept` is the line without a carriage return at its end, if there is one. -/
def LessReturn (line kept : String) : Prop :=
  line = kept ++ "\r" ∨ line = kept ∧ line.toList.getLast? ≠ some '\r'

/-! ## Carriage returns -/

theorem dropFinalReturn_concat (cs : List Char) : dropFinalReturn (cs ++ ['\r']) = cs := by
  simp [dropFinalReturn]

theorem dropFinalReturn_of_getLast?_ne {cs : List Char} (h : cs.getLast? ≠ some '\r') :
    dropFinalReturn cs = cs := by
  unfold dropFinalReturn
  split
  next rest hcs =>
    refine absurd ?_ h
    rw [← List.head?_reverse, hcs, List.head?_cons]
  next => rfl

theorem exists_lessReturn (line : String) : ∃ kept, LessReturn line kept := by
  by_cases h : line.toList.getLast? = some '\r'
  · obtain ⟨init, hinit⟩ := List.getLast?_eq_some_iff.1 h
    refine ⟨String.ofList init, .inl ?_⟩
    rw [← String.toList_inj, hinit, String.toList_append, String.toList_ofList]
    rfl
  · exact ⟨line, .inr ⟨rfl, h⟩⟩

theorem LessReturn.dropFinalReturn_eq {line kept : String} (h : LessReturn line kept) :
    dropFinalReturn line.toList = kept.toList := by
  rcases h with rfl | ⟨rfl, hlast⟩
  · rw [String.toList_append]
    exact dropFinalReturn_concat kept.toList
  · exact dropFinalReturn_of_getLast?_ne hlast

/-- Only the end of a line is looked at. -/
theorem LessReturn.append_left {line kept : String} (h : LessReturn line kept) (hline : line ≠ "")
    (front : String) : LessReturn (front ++ line) (front ++ kept) := by
  rcases h with rfl | ⟨rfl, hlast⟩
  · exact .inl String.append_assoc.symm
  · refine .inr ⟨rfl, ?_⟩
    have hne : line.toList ≠ [] := by simpa using hline
    rwa [String.toList_append, List.getLast?_append, List.getLast?_eq_some_getLast hne, Option.some_or,
      ← List.getLast?_eq_some_getLast hne]

/-! ## The first line -/

theorem firstLineList_eq_lines (cs : List Char) :
    firstLineList cs =
      (lines cs).headD [] ++ if (lines cs).length ≤ 1 then [] else [ellipsis] := by
  unfold firstLineList
  split
  next h => simp [h]
  next first h => simp [h]
  next first second rest h => simp [h]

theorem firstLine_of_oneLine {s : String} (h : OneLine s) : firstLine s = s := by
  rw [firstLine, firstLineList_of_notMem h, String.ofList_toList]

theorem firstLine_append {line kept : String} (h : OneLine line) (hkept : LessReturn line kept)
    (rest : String) :
    firstLine (line ++ "\n" ++ rest) = kept ++ if rest = "" then "" else "…" := by
  have hsplit : (line ++ "\n" ++ rest).toList = line.toList ++ '\n' :: rest.toList := by simp
  rw [firstLine, hsplit, firstLineList_append h, hkept.dropFinalReturn_eq, String.ofList_append,
    String.ofList_toList]
  by_cases hrest : rest = ""
  · simp [hrest]
  · rw [if_neg hrest, if_neg (by simpa using hrest)]
    rfl

theorem exists_first_newline {s : String} (h : ¬OneLine s) :
    ∃ line rest, s = line ++ "\n" ++ rest ∧ OneLine line := by
  obtain ⟨line, rest, hs, hline⟩ := List.eq_append_cons_of_mem (not_not.1 h)
  refine ⟨String.ofList line, String.ofList rest, ?_, ?_⟩
  · rw [← String.toList_inj, hs]
    simp
  · rwa [OneLine, String.toList_ofList]

/-- A carriage return in the first line that is not part of the line ending stays in its
place. -/
theorem exists_firstLine_eq_of_return {front back : String} (hfront : OneLine front)
    (hback : back.toList.head? ≠ some '\n') :
    ∃ t, firstLine (front ++ "\r" ++ back) = front ++ "\r" ++ t := by
  have hreturn : OneLine (front ++ "\r") := hfront.append (by decide)
  by_cases h : OneLine back
  · exact ⟨back, firstLine_of_oneLine (hreturn.append h)⟩
  · obtain ⟨line, rest, rfl, hline⟩ := exists_first_newline h
    obtain ⟨kept, hkept⟩ := exists_lessReturn line
    have hne : line ≠ "" := by
      rintro rfl
      simp at hback
    have hassoc : front ++ "\r" ++ (line ++ "\n" ++ rest) = front ++ "\r" ++ line ++ "\n" ++ rest := by
      simp only [String.append_assoc]
    rw [hassoc, firstLine_append (hreturn.append hline) (hkept.append_left hne _), String.append_assoc]
    exact ⟨_, rfl⟩

/-- **The first line, and a mark just if more follows.** Every text has no newline and is
its own first line, or is a line, its first newline and a rest: then the first line is that
line, without one carriage return at its end, and the mark follows just if the rest is not
empty. So it never has a newline, a line ending that ends the text leaves no mark, and a
carriage return is kept unless the newline follows it. It is the first of the lines of the
text, with the mark if there is a second. -/
theorem firstLine_keeps_first_line (s : String) :
    OneLine (firstLine s) ∧
    (OneLine s ∧ firstLine s = s ∨
      ∃ line rest kept, s = line ++ "\n" ++ rest ∧ OneLine line ∧ LessReturn line kept ∧
        firstLine s = kept ++ if rest = "" then "" else "…") ∧
    (∀ line, OneLine line →
      s = line ++ "\r\n" ∨ s = line ++ "\n" ∧ line.toList.getLast? ≠ some '\r' →
      firstLine s = line) ∧
    (∀ front back, s = front ++ "\r" ++ back → OneLine front → back.toList.head? ≠ some '\n' →
      ∃ t, firstLine s = front ++ "\r" ++ t) ∧
    (firstLine s).toList =
      (lines s.toList).headD [] ++ if (lines s.toList).length ≤ 1 then [] else ['…'] := by
  refine ⟨oneLine_firstLine s, ?_, ?_, ?_, ?_⟩
  · by_cases h : OneLine s
    · exact .inl ⟨h, firstLine_of_oneLine h⟩
    · obtain ⟨line, rest, rfl, hline⟩ := exists_first_newline h
      obtain ⟨kept, hkept⟩ := exists_lessReturn line
      exact .inr ⟨line, rest, kept, rfl, hline, hkept, firstLine_append hline hkept rest⟩
  · intro line hline hs
    -- Nothing is left behind the newline.
    have hends : ∀ whole, OneLine whole → LessReturn whole line → firstLine (whole ++ "\n") = line := by
      intro whole hwhole hkept
      simpa using firstLine_append hwhole hkept ""
    rcases hs with rfl | ⟨rfl, hlast⟩
    · have hassoc : line ++ "\r\n" = line ++ "\r" ++ "\n" := by rw [String.append_assoc]; rfl
      rw [hassoc]
      exact hends (line ++ "\r") (hline.append (by decide)) (.inl rfl)
    · exact hends line hline (.inr ⟨rfl, hlast⟩)
  · rintro front back rfl hfront hback
    exact exists_firstLine_eq_of_return hfront hback
  · rw [firstLine, String.toList_ofList, firstLineList_eq_lines]
    rfl

/-- A line that ends the text with a carriage return of its own before the line ending, and
the same line with a text behind it. -/
theorem firstLine_two_returns :
    firstLine "a\r\r\n" = "a\r" ∧ (∃ t, firstLine "a\r\r\nb" = "a" ++ "\r" ++ t) ∧
      firstLine "a\r\r\nb" = "a\r…" := by
  obtain ⟨-, -, hends, -, -⟩ := firstLine_keeps_first_line "a\r\r\n"
  obtain ⟨-, -, -, hkept, hlines⟩ := firstLine_keeps_first_line "a\r\r\nb"
  refine ⟨hends "a\r" (by decide) (.inl rfl), hkept "a" "\r\nb" rfl (by decide) (by decide), ?_⟩
  rw [← String.toList_inj, hlines]
  decide

end TreeExplorer.Text
