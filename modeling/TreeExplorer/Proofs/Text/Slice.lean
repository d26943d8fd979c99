/-
Cutting a text at byte offsets. What is cut out is told by what stands before and
behind it (`slice?_eq_some_iff`): the front has as many bytes as the first offset says,
and the piece as many as there are to the second. There is such a piece just if both
offsets fall between characters (`IsRange`), and its bytes are the bytes in between.
-/
import TreeExplorer.Text.Utf8

namespace TreeExplorer.Text

/-- From byte `a` to byte `b` the text holds whole characters. -/
structure IsRange (s : String) (a b : Nat) : Prop where
  le : a ≤ b
  inside : b ≤ s.utf8ByteSize
  start : String.Pos.Raw.IsValid s ⟨a⟩
  stop : String.Pos.Raw.IsValid s ⟨b⟩

/-! ## Lists of characters -/

@[simp] theorem byteLength_nil : byteLength [] = 0 :=
  rfl

@[simp] theorem byteLength_cons (c : Char) (cs : List Char) :
    byteLength (c :: cs) = c.utf8Size + byteLength cs :=
  rfl

theorem byteLength_toList (s : String) : byteLength s.toList = s.utf8ByteSize := by
  have hlist : ∀ cs : List Char, byteLength cs = (String.ofList cs).utf8ByteSize := by
    intro cs
    induction cs with
    | nil => rfl
    | cons c cs ih =>
      rw [← List.singleton_append, String.ofList_append, String.utf8ByteSize_append, ← ih,
        ← String.singleton_eq_ofList, String.utf8ByteSize_singleton]
      rfl
  rw [hlist, String.ofList_toList]

theorem dropBytes_cons (c : Char) (cs : List Char) (n : Nat) :
    dropBytes (c :: cs) (c.utf8Size + n) = dropBytes cs n := by
  obtain ⟨k, hk⟩ := Nat.exists_eq_add_one.2 c.utf8Size_pos
  have hsum : c.utf8Size + n = k + n + 1 := by omega
  rw [hsum, dropBytes, if_pos (by omega), ← hsum, Nat.add_sub_cancel_left]

theorem takeBytes_cons (c : Char) (cs : List Char) (n : Nat) :
    takeBytes (c :: cs) (c.utf8Size + n) = (takeBytes cs n).map (c :: ·) := by
  obtain ⟨k, hk⟩ := Nat.exists_eq_add_one.2 c.utf8Size_pos
  have hsum : c.utf8Size + n = k + n + 1 := by omega
  rw [hsum, takeBytes, if_pos (by omega), ← hsum, Nat.add_sub_cancel_left]

theorem dropBytes_append (front rest : List Char) :
    dropBytes (front ++ rest) (byteLength front) = some rest := by
  induction front with
  | nil => simp [dropBytes]
  | cons c front ih => rw [byteLength_cons, List.cons_append, dropBytes_cons, ih]

theorem takeBytes_append (part rest : List Char) :
    takeBytes (part ++ rest) (byteLength part) = some part := by
  induction part with
  | nil => simp [takeBytes]
  | cons c part ih => rw [byteLength_cons, List.cons_append, takeBytes_cons, ih, Option.map_some]

/-- What is left was there, behind a front of that many bytes. -/
theorem exists_front_of_dropBytes {cs rest : List Char} {n : Nat} (h : dropBytes cs n = some rest) :
    ∃ front, cs = front ++ rest ∧ byteLength front = n := by
  induction cs, n using dropBytes.induct with
  | case1 cs =>
    rw [dropBytes] at h
    exact ⟨[], Option.some.inj h, rfl⟩
  | case2 n => simp [dropBytes] at h
  | case3 c cs n hfits ih =>
    rw [dropBytes, if_pos hfits] at h
    obtain ⟨front, rfl, hn⟩ := ih h
    exact ⟨c :: front, rfl, by rw [byteLength_cons, hn]; omega⟩
  | case4 c cs n hcut => simp [dropBytes, hcut] at h

/-- What is taken was there, in front of the rest, and has that many bytes. -/
theorem exists_rest_of_takeBytes {cs part : List Char} {n : Nat} (h : takeBytes cs n = some part) :
    ∃ rest, cs = part ++ rest ∧ byteLength part = n := by
  induction cs, n using takeBytes.induct generalizing part with
  | case1 cs =>
    rw [takeBytes] at h
    obtain rfl := Option.some.inj h
    exact ⟨cs, rfl, rfl⟩
  | case2 n => simp [takeBytes] at h
  | case3 c cs n hfits ih =>
    rw [takeBytes, if_pos hfits] at h
    obtain ⟨part, hpart, rfl⟩ := Option.map_eq_some_iff.1 h
    obtain ⟨rest, rfl, hn⟩ := ih hpart
    exact ⟨rest, rfl, by rw [byteLength_cons, hn]; omega⟩
  | case4 c cs n hcut => simp [takeBytes, hcut] at h

theorem sliceList_eq_some_iff {cs part : List Char} {a b : Nat} :
    sliceList cs a b = some part ↔
      ∃ front back, cs = front ++ part ++ back ∧ byteLength front = a ∧ a + byteLength part = b := by
  constructor
  · intro h
    by_cases hle : a ≤ b
    · rw [sliceList, if_pos hle] at h
      obtain ⟨rest, hdrop, htake⟩ := Option.bind_eq_some_iff.1 h
      obtain ⟨front, rfl, ha⟩ := exists_front_of_dropBytes hdrop
      obtain ⟨back, rfl, hb⟩ := exists_rest_of_takeBytes htake
      exact ⟨front, back, (List.append_assoc ..).symm, ha, by omega⟩
    · simp [sliceList, hle] at h
  · rintro ⟨front, back, rfl, rfl, rfl⟩
    rw [sliceList, if_pos (Nat.le_add_right ..), List.append_assoc, dropBytes_append, Option.bind_some,
      Nat.add_sub_cancel_left, takeBytes_append]

/-! ## Texts -/

/-- What is cut out has as many bytes in front of it as the first offset says, and ends
at the second. -/
theorem slice?_eq_some_iff {s t : String} {a b : Nat} :
    slice? s a b = some t ↔
      ∃ front back, s = front ++ t ++ back ∧ front.utf8ByteSize = a ∧ a + t.utf8ByteSize = b := by
  rw [slice?, Option.map_eq_some_iff]
  constructor
  · rintro ⟨part, hpart, rfl⟩
    obtain ⟨front, back, hsplit, ha, hb⟩ := sliceList_eq_some_iff.1 hpart
    refine ⟨String.ofList front, String.ofList back, ?_, ?_, ?_⟩
    · rw [← String.ofList_append, ← String.ofList_append, ← hsplit, String.ofList_toList]
    · rw [← byteLength_toList, String.toList_ofList, ha]
    · rw [← byteLength_toList, String.toList_ofList, hb]
  · rintro ⟨front, back, rfl, rfl, rfl⟩
    refine ⟨t.toList, sliceList_eq_some_iff.2 ⟨front.toList, back.toList, ?_, ?_, ?_⟩,
      String.ofList_toList⟩
    · rw [String.toList_append, String.toList_append]
    · exact byteLength_toList front
    · rw [byteLength_toList]

/-- Between two places that fall between characters there is a text. -/
theorem isRange_iff {s : String} {a b : Nat} :
    IsRange s a b ↔
      ∃ front t back, s = front ++ t ++ back ∧ front.utf8ByteSize = a ∧ a + t.utf8ByteSize = b := by
  constructor
  · rintro ⟨hle, -, hstart, hstop⟩
    obtain ⟨front, rest, rfl, ha⟩ := String.Pos.Raw.isValid_iff_exists_append.1 hstart
    have ha : a = front.utf8ByteSize := String.Pos.Raw.ext_iff.1 ha
    rcases String.Pos.Raw.isValid_append.1 hstop with hstop | ⟨-, hstop⟩
    · -- The second place is in the front, so it is where the front ends.
      have hb : b ≤ front.utf8ByteSize := hstop.le_utf8ByteSize
      exact ⟨front, "", rest, by rw [String.append_empty], ha.symm, by
        rw [String.utf8ByteSize_empty]
        omega⟩
    · obtain ⟨t, back, rfl, hb⟩ := String.Pos.Raw.isValid_iff_exists_append.1 hstop
      have hb : b - front.utf8ByteSize = t.utf8ByteSize := String.Pos.Raw.ext_iff.1 hb
      exact ⟨front, t, back, String.append_assoc.symm, ha.symm, by omega⟩
  · rintro ⟨front, t, back, rfl, rfl, rfl⟩
    refine ⟨Nat.le_add_right .., ?_, ?_, ?_⟩
    · simp only [String.utf8ByteSize_append]
      omega
    · exact String.Pos.Raw.isValid_iff_exists_append.2 ⟨front, t ++ back, String.append_assoc, rfl⟩
    · exact String.Pos.Raw.isValid_iff_exists_append.2
        ⟨front ++ t, back, rfl, String.Pos.Raw.ext_iff.2 String.utf8ByteSize_append.symm⟩

theorem isSome_slice?_iff {s : String} {a b : Nat} : (slice? s a b).isSome ↔ IsRange s a b := by
  rw [Option.isSome_iff_exists, isRange_iff]
  constructor
  · rintro ⟨t, ht⟩
    obtain ⟨front, back, h⟩ := slice?_eq_some_iff.1 ht
    exact ⟨front, t, back, h⟩
  · rintro ⟨front, t, back, h⟩
    exact ⟨t, slice?_eq_some_iff.2 ⟨front, back, h⟩⟩

/-- The bytes of what is cut out are those between the two places. -/
theorem toUTF8_of_slice? {s t : String} {a b : Nat} (h : slice? s a b = some t) :
    t.toUTF8 = s.toUTF8.extract a b := by
  obtain ⟨front, back, rfl, rfl, rfl⟩ := slice?_eq_some_iff.1 h
  have hsize : front.utf8ByteSize + t.utf8ByteSize = (front ++ t).toByteArray.size := by
    rw [String.size_toByteArray, String.utf8ByteSize_append]
  rw [String.toUTF8, String.toUTF8, String.toByteArray_append, hsize, ByteArray.extract_append_size_left,
    String.toByteArray_append]
  exact (ByteArray.extract_append_eq_right String.size_toByteArray.symm ByteArray.size_append).symm

end TreeExplorer.Text
