/-
The text of a node. It is what the source has between the two bytes of the node, and
nothing where the source has no text there: a node of another tree may lie beyond the
end of the source, or begin or end inside one of its characters. Since texts with the
same bytes are the same, what is true of ranges of bytes is true of the texts.
-/
import TreeExplorer.Proofs.Text.Slice
import TreeExplorer.Tree.Source

namespace TreeExplorer

open Text (IsRange)

theorem toUTF8_sourceText {source : String} {a b : Nat} (h : IsRange source a b) :
    (sourceText source a b).toUTF8 = source.toUTF8.extract a b := by
  obtain ⟨t, ht⟩ := Option.isSome_iff_exists.1 (Text.isSome_slice?_iff.2 h)
  rw [sourceText, ht, Option.getD_some, Text.toUTF8_of_slice? ht]

theorem sourceText_of_not_isRange {source : String} {a b : Nat} (h : ¬IsRange source a b) :
    sourceText source a b = "" := by
  rw [← Text.isSome_slice?_iff, Option.not_isSome_iff_eq_none] at h
  rw [sourceText, h, Option.getD_none]

theorem sourceText_append {source : String} {a b c : Nat} (hab : IsRange source a b)
    (hbc : IsRange source b c) :
    sourceText source a b ++ sourceText source b c = sourceText source a c := by
  have hac : IsRange source a c := ⟨Nat.le_trans hab.le hbc.le, hbc.inside, hab.start, hbc.stop⟩
  refine String.toByteArray_inj.1 ?_
  calc (sourceText source a b ++ sourceText source b c).toUTF8
      = (sourceText source a b).toUTF8 ++ (sourceText source b c).toUTF8 := String.toByteArray_append
    _ = source.toUTF8.extract a b ++ source.toUTF8.extract b c := by
      rw [toUTF8_sourceText hab, toUTF8_sourceText hbc]
    _ = source.toUTF8.extract a c := by
      rw [ByteArray.extract_append_extract, Nat.min_eq_left hab.le, Nat.max_eq_right hbc.le]
    _ = (sourceText source a c).toUTF8 := (toUTF8_sourceText hac).symm

theorem sourceText_whole (source : String) : sourceText source 0 source.utf8ByteSize = source := by
  have hwhole : Text.slice? source 0 source.utf8ByteSize = some source :=
    Text.slice?_eq_some_iff.2 ⟨"", "", by simp, rfl, Nat.zero_add _⟩
  rw [sourceText, hwhole, Option.getD_some]

namespace ParsedSource

/-- **The text of a node is the bytes that it covers.** Whatever tree a node comes from,
if its two bytes are in order, inside the source and between characters, its text has
exactly the bytes of the source from the one to the other; in every other case it has no
text. So two nodes that meet cover together what one node in their place would cover, and
a node from the first byte to the last covers the source. -/
theorem textOf_covers_bytes (p : ParsedSource) :
    (∀ r : Row, IsRange p.source r.startByte r.endByte →
      (p.textOf r).toUTF8 = p.source.toUTF8.extract r.startByte r.endByte) ∧
    (∀ r : Row, ¬IsRange p.source r.startByte r.endByte → p.textOf r = "") ∧
    (∀ left right whole : Row, left.endByte = right.startByte →
      whole.startByte = left.startByte → whole.endByte = right.endByte →
      IsRange p.source left.startByte left.endByte →
      IsRange p.source right.startByte right.endByte →
      p.textOf left ++ p.textOf right = p.textOf whole) ∧
    ∀ r : Row, r.startByte = 0 → r.endByte = p.source.utf8ByteSize → p.textOf r = p.source := by
  refine ⟨fun _ => toUTF8_sourceText, fun _ => sourceText_of_not_isRange, ?_, ?_⟩
  · intro left right whole hmeet hstart hstop hleft hright
    rw [hmeet] at hleft
    rw [textOf, textOf, textOf, hstart, hstop, hmeet]
    exact sourceText_append hleft hright
  · intro r hstart hstop
    rw [textOf, hstart, hstop, sourceText_whole]

/-- Nodes over a source of one character of two bytes and one of three. One of them cuts
the first character, one goes back and one goes beyond the end. -/
theorem textOf_two_and_three_bytes :
    let row (a b : Nat) : Row := ⟨none, "x", true, false, false, a, b, ⟨0, a⟩, ⟨0, b⟩⟩
    let p : ParsedSource := ⟨.rust, "é€", ⟨[row 0 5]⟩, false⟩
    p.textOf (row 2 5) = "€" ∧ p.textOf (row 0 2) ++ p.textOf (row 2 5) = p.textOf (row 0 5) ∧
      p.textOf (row 0 5) = "é€" ∧ p.textOf (row 1 2) = "" ∧ p.textOf (row 2 0) = "" ∧
      p.textOf (row 2 6) = "" := by
  intro row p
  obtain ⟨hbytes, hnone, happend, hwhole⟩ := textOf_covers_bytes p
  have hleft : IsRange p.source 0 2 := Text.isRange_iff.2 ⟨"", "é", "€", by decide, rfl, rfl⟩
  have hright : IsRange p.source 2 5 := Text.isRange_iff.2 ⟨"é", "€", "", by decide, rfl, rfl⟩
  have hcut : ¬IsRange p.source 1 2 := by
    rw [← Text.isSome_slice?_iff]
    decide
  refine ⟨?_, happend (row 0 2) (row 2 5) (row 0 5) rfl rfl rfl hleft hright, hwhole _ rfl rfl,
    hnone (row 1 2) hcut, hnone (row 2 0) fun h => absurd h.le (by decide),
    hnone (row 2 6) fun h => absurd h.inside (by decide)⟩
  exact String.toByteArray_inj.1 ((hbytes (row 2 5) hright).trans (by decide))

end ParsedSource

end TreeExplorer
