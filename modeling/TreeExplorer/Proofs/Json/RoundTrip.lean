/-
Reading a JSON value back from its compact text. The reader takes one character
of a string at each step however it is escaped (`stringRest_escapeChar`), and
stops after a value where the text of the value ends (`Whole.value_chars`), if
what follows cannot belong to a number. Both are stated with what follows left
open, since values stand inside other values.

Values with fractions are left out: a fraction is kept rounded and need not read
back as it was.
-/
import Mathlib.Tactic.SplitIfs
import TreeExplorer.Json.Reader
import TreeExplorer.Proofs.Text.Numeral

namespace TreeExplorer.Json

/-- A value without fractions. -/
inductive Whole : Json → Prop
  | null : Whole .null
  | bool (b : Bool) : Whole (.bool b)
  | int (i : Int) : Whole (.int i)
  | str (s : String) : Whole (.str s)
  | arr {items : List Json} (h : ∀ v ∈ items, Whole v) : Whole (.arr items)
  | obj {fields : List (String × Json)} (h : ∀ f ∈ fields, Whole f.2) : Whole (.obj fields)

/-! ## Strings -/

theorem hexDigit?_hexChar : ∀ d < 16, Text.hexDigit? (Text.hexChar d) = some d := by
  decide

theorem eq_ofNat_of_toNat_eq {c : Char} {n : Nat} (h : c.toNat = n) : c = Char.ofNat n := by
  rw [← h, Char.ofNat_toNat]

/-- A control character is read back from its number. -/
theorem escaped_number {c : Char} (h : c.toNat < 0x20) (cs : List Char) :
    escaped ('u' :: '0' :: '0' :: Text.hexChar (c.toNat / 16) :: Text.hexChar (c.toNat % 16) :: cs) =
      some (c, cs) := by
  have hzero : Text.hexDigit? '0' = some 0 := by decide
  have hhigh := hexDigit?_hexChar (c.toNat / 16) (by omega)
  have hlow := hexDigit?_hexChar (c.toNat % 16) (by omega)
  have hvalue : c.toNat / 16 * 16 + c.toNat % 16 = c.toNat := by omega
  have hscalar : Text.scalar? c.toNat = some c := by
    rw [Text.scalar?, if_pos (Or.inl (by omega)), Char.ofNat_toNat]
  simp only [escaped, Text.hexDigits, hzero, hhigh, hlow, Option.bind_some, Nat.zero_mul,
    Nat.zero_add, hvalue, numbered, hscalar]

/-- The reader takes one character at each step, however it is escaped. -/
theorem stringRest_escapeChar (fuel : Nat) (acc cs : List Char) (c : Char) :
    stringRest (fuel + 1) acc (escapeChar c ++ cs) = stringRest fuel (c :: acc) cs := by
  unfold escapeChar
  split
  next h => subst h; rfl
  split
  next h => subst h; rfl
  split
  next h => rw [eq_ofNat_of_toNat_eq h]; rfl
  split
  next h => subst h; rfl
  split
  next h => subst h; rfl
  split
  next h => rw [eq_ofNat_of_toNat_eq h]; rfl
  split
  next h => subst h; rfl
  split
  next h =>
    simp only [List.cons_append, List.nil_append, stringRest, Char.reduceEq, if_false, if_true,
      escaped_number h, Option.bind_some]
  next hquote hslash _ _ _ _ _ h =>
    simp only [List.cons_append, List.nil_append, stringRest, hquote, hslash, h, if_false]

theorem stringRest_flatMap (s : List Char) {fuel : Nat} (h : s.length < fuel) (acc rest : List Char) :
    stringRest fuel acc (s.flatMap escapeChar ++ '"' :: rest) =
      some (String.ofList (acc.reverse ++ s), rest) := by
  induction s generalizing fuel acc with
  | nil =>
    obtain ⟨fuel, rfl⟩ : ∃ k, fuel = k + 1 := ⟨fuel - 1, by omega⟩
    simp [stringRest]
  | cons c s ih =>
    rw [List.length_cons] at h
    obtain ⟨fuel, rfl⟩ : ∃ k, fuel = k + 1 := ⟨fuel - 1, by omega⟩
    rw [List.flatMap_cons, List.append_assoc, stringRest_escapeChar, ih (by omega)]
    simp

theorem length_le_length_flatMap (s : List Char) : s.length ≤ (s.flatMap escapeChar).length := by
  have hpos : ∀ c, 1 ≤ (escapeChar c).length := by
    intro c
    unfold escapeChar
    repeat' split
    all_goals simp
  induction s with
  | nil => exact Nat.le_refl 0
  | cons c s ih =>
    have hc := hpos c
    simp only [List.flatMap_cons, List.length_append, List.length_cons]
    omega

/-- A string is read back from its quotes. -/
theorem stringRest_quote (s : String) (rest : List Char) :
    ∃ cs, quote s ++ rest = '"' :: cs ∧ stringRest (cs.length + 1) [] cs = some (s, rest) := by
  refine ⟨s.toList.flatMap escapeChar ++ '"' :: rest, by simp [quote], ?_⟩
  have hle := length_le_length_flatMap s.toList
  have hfuel : s.toList.length < (s.toList.flatMap escapeChar ++ '"' :: rest).length + 1 := by
    simp only [List.length_append, List.length_cons]
    omega
  simpa using stringRest_flatMap s.toList hfuel [] rest

/-! ## Numbers -/

/-- What follows a value cannot belong to a number. -/
def Ends (rest : List Char) : Prop :=
  ∀ c ∈ rest.head?, inNumber c = false

theorem Ends.nil : Ends [] := by
  simp [Ends]

theorem Ends.cons {c : Char} {rest : List Char} (h : inNumber c = false) : Ends (c :: rest) := by
  simp [Ends, h]

theorem takeWhile_append_of_ends {p : Char → Bool} {cs rest : List Char}
    (h : ∀ c ∈ cs, p c = true) (hrest : ∀ c ∈ rest.head?, p c = false) :
    (cs ++ rest).takeWhile p = cs ∧ (cs ++ rest).dropWhile p = rest := by
  have htail : rest.takeWhile p = [] ∧ rest.dropWhile p = rest := by
    cases rest with
    | nil => exact ⟨rfl, rfl⟩
    | cons c rest =>
      have hc : p c = false := hrest c rfl
      simp [hc]
  rw [List.takeWhile_append_of_pos h, List.dropWhile_append_of_pos h, htail.1, htail.2]
  exact ⟨List.append_nil cs, rfl⟩

theorem toList_decimalInt (i : Int) : (Text.decimalInt i).toList =
    if i < 0 then '-' :: Text.decimalList i.natAbs else Text.decimalList i.natAbs := by
  unfold Text.decimalInt Text.decimal
  split <;> simp

theorem ne_of_isDigit {c d : Char} (h : Text.isDigit c = true) (hd : Text.isDigit d = false) :
    c ≠ d := by
  rintro rfl
  rw [h] at hd
  cases hd

/-- The digits of a number, with a sign or without, are read as the number. -/
theorem number?_decimalInt (i : Int) : number? (Text.decimalInt i).toList = some (.int i) := by
  have hdigits : ∀ c ∈ Text.decimalList i.natAbs, Text.isDigit c = true :=
    Text.isDigit_of_mem_decimalList
  have htake : (Text.decimalList i.natAbs).takeWhile Text.isDigit = Text.decimalList i.natAbs :=
    List.takeWhile_eq_self_iff.2 hdigits
  have hdrop : (Text.decimalList i.natAbs).dropWhile Text.isDigit = [] :=
    List.dropWhile_eq_nil_iff.2 hdigits
  have hplain := Decimal.isPlainWhole_decimalList i.natAbs
  have hvalue := Decimal.digitRun_decimalList i.natAbs
  rw [toList_decimalInt]
  by_cases hi : i < 0
  · rw [if_pos hi]
    simp only [number?, htake, hdrop, hplain, hvalue, Bool.not_true, List.isEmpty_nil, if_true]
    rw [if_neg (by simp), if_neg (by omega)]
    congr 2
    omega
  · rw [if_neg hi]
    have hunsigned : ∀ rest, Text.decimalList i.natAbs = '-' :: rest → False := by
      intro rest hds
      exact ne_of_isDigit (hdigits '-' (by simp [hds])) (by decide) rfl
    rw [number?]
    · simp only [htake, hdrop, hplain, hvalue, Bool.not_true, Bool.false_eq_true, List.isEmpty_nil,
        if_true, if_false, Json.nat]
      congr 2
      omega
    · exact hunsigned

theorem inNumber_of_mem_decimalInt {i : Int} {c : Char} (h : c ∈ (Text.decimalInt i).toList) :
    inNumber c = true := by
  have hdigit : c ∈ Text.decimalList i.natAbs → inNumber c = true := by
    intro hc
    simp [inNumber, Text.isDigit_of_mem_decimalList c hc]
  rw [toList_decimalInt] at h
  split at h
  · rcases List.mem_cons.1 h with rfl | hc
    · decide
    · exact hdigit hc
  · exact hdigit h

/-! ## Values -/

/-- A character that a value may begin with. -/
def isOpening (c : Char) : Bool :=
  !isBlank c && c != ']' && c != '}'

theorem skipBlanks_cons {c : Char} {cs : List Char} (h : isBlank c = false) :
    skipBlanks (c :: cs) = c :: cs := by
  simp [skipBlanks, h]

theorem isBlank_of_isOpening {c : Char} (h : isOpening c = true) : isBlank c = false := by
  simp only [isOpening, Bool.and_eq_true, Bool.not_eq_true'] at h
  exact h.1.1

theorem isOpening_of_inNumber {c : Char} (h : inNumber c = true) : isOpening c = true := by
  have hne : ∀ d, inNumber d = false → c ≠ d := by
    rintro d hd rfl
    rw [h] at hd
    cases hd
  simp [isOpening, isBlank, hne ' ' (by decide), hne '\t' (by decide), hne '\n' (by decide),
    hne '\r' (by decide), hne ']' (by decide), hne '}' (by decide)]

/-- A value is not read as anything else by its first character. -/
theorem Whole.exists_opening {v : Json} (h : v.Whole) :
    ∃ c cs, v.chars = c :: cs ∧ isOpening c = true := by
  cases h with
  | null => exact ⟨_, _, rfl, by decide⟩
  | bool b => cases b <;> exact ⟨_, _, rfl, by decide⟩
  | int i =>
    rw [chars]
    cases hcs : (Text.decimalInt i).toList with
    | nil =>
      have hread := number?_decimalInt i
      rw [hcs] at hread
      cases hread
    | cons c cs =>
      exact ⟨c, cs, rfl, isOpening_of_inNumber (inNumber_of_mem_decimalInt (by rw [hcs]; simp))⟩
  | str s => exact ⟨_, _, rfl, by decide⟩
  | arr h => exact ⟨_, _, rfl, by decide⟩
  | obj h => exact ⟨_, _, rfl, by decide⟩

/-- The value is read back, whatever ends it. -/
def ReadsBack (v : Json) : Prop :=
  ∀ fuel rest, v.chars.length ≤ fuel → Ends rest → value fuel (v.chars ++ rest) = some (v, rest)

theorem readsBack_int (i : Int) : ReadsBack (.int i) := by
  intro fuel rest hfuel hrest
  obtain ⟨c, cs, hcs, -⟩ := (Whole.int i).exists_opening
  have hmem : ∀ d ∈ c :: cs, inNumber d = true := by
    rw [← hcs]
    exact fun d hd => inNumber_of_mem_decimalInt hd
  have hne : ∀ d, inNumber d = false → c ≠ d := by
    rintro d hd rfl
    rw [hmem c List.mem_cons_self] at hd
    cases hd
  obtain ⟨htake, hdrop⟩ := takeWhile_append_of_ends hmem hrest
  have hnumber : number? (c :: cs) = some (.int i) := by
    rw [← hcs]
    exact number?_decimalInt i
  rw [hcs] at hfuel ⊢
  rw [List.length_cons] at hfuel
  obtain ⟨fuel, rfl⟩ : ∃ k, fuel = k + 1 := ⟨fuel - 1, by omega⟩
  rw [List.cons_append] at htake hdrop ⊢
  simp only [value, hne '"' (by decide), hne '[' (by decide), hne '{' (by decide),
    hne 'n' (by decide), hne 't' (by decide), hne 'f' (by decide), if_false, htake, hdrop, hnumber,
    Option.map_some]

theorem readsBack_str (s : String) : ReadsBack (.str s) := by
  intro fuel rest hfuel _
  have hpos : 1 ≤ (chars (.str s)).length := by simp [chars, quote]
  obtain ⟨fuel, rfl⟩ : ∃ k, fuel = k + 1 := ⟨fuel - 1, by omega⟩
  obtain ⟨cs, hcs, hread⟩ := stringRest_quote s rest
  rw [chars, hcs]
  simp only [value, if_true, hread, Option.map_some]

theorem itemChars_append_eq_cons {v : Json} (h : v.Whole) (vs : List Json) (rest : List Char) :
    ∃ c cs, itemChars (v :: vs) ++ rest = c :: cs ∧ isOpening c = true := by
  obtain ⟨c, cs, hcs, hc⟩ := h.exists_opening
  cases vs <;> simp [itemChars, hcs, hc]

theorem fieldChars_append_eq_cons (f : String × Json) (fs : List (String × Json)) (rest : List Char) :
    ∃ cs, fieldChars (f :: fs) ++ rest = '"' :: cs := by
  cases fs <;> simp [fieldChars, quote]

/-- The items of an array are read back one after another. -/
theorem items_itemChars {vs : List Json} (hne : vs ≠ []) (hwhole : ∀ v ∈ vs, v.Whole)
    (hread : ∀ v ∈ vs, v.ReadsBack) (fuel : Nat) (acc : List Json) (rest : List Char)
    (hfuel : (itemChars vs).length < fuel) :
    items fuel acc (itemChars vs ++ ']' :: rest) = some (.arr (acc.reverse ++ vs), rest) := by
  induction vs generalizing fuel acc with
  | nil => exact absurd rfl hne
  | cons v vs ih =>
    obtain ⟨fuel, rfl⟩ : ∃ k, fuel = k + 1 := ⟨fuel - 1, by omega⟩
    have hv := hread v List.mem_cons_self
    cases vs with
    | nil =>
      rw [itemChars] at hfuel ⊢
      rw [items, hv fuel (']' :: rest) (by omega) (.cons (by decide))]
      simp [skipBlanks_cons (c := ']') (by decide)]
    | cons w ws =>
      rw [itemChars, List.length_append, List.length_cons] at hfuel
      · rw [itemChars, List.append_assoc, List.cons_append, items,
          hv fuel (',' :: (itemChars (w :: ws) ++ ']' :: rest)) (by omega) (.cons (by decide))]
        · obtain ⟨c, t, ht, hc⟩ := itemChars_append_eq_cons (hwhole w (by simp)) ws (']' :: rest)
          have hrest := ih (by simp) (fun x hx => hwhole x (List.mem_cons_of_mem _ hx))
            (fun x hx => hread x (List.mem_cons_of_mem _ hx)) fuel (v :: acc) (by omega)
          simp only [skipBlanks_cons (c := ',') (by decide)]
          rw [ht] at hrest ⊢
          rw [skipBlanks_cons (isBlank_of_isOpening hc), hrest]
          simp
        · simp
      · simp

/-- The fields of an object are read back one after another. -/
theorem members_fieldChars {fs : List (String × Json)} (hne : fs ≠ [])
    (hwhole : ∀ f ∈ fs, f.2.Whole) (hread : ∀ f ∈ fs, f.2.ReadsBack) (fuel : Nat)
    (acc : List (String × Json)) (rest : List Char) (hfuel : (fieldChars fs).length < fuel) :
    members fuel acc (fieldChars fs ++ '}' :: rest) = some (.obj (acc.reverse ++ fs), rest) := by
  induction fs generalizing fuel acc with
  | nil => exact absurd rfl hne
  | cons f fs ih =>
    obtain ⟨k, v⟩ := f
    obtain ⟨fuel, rfl⟩ : ∃ n, fuel = n + 1 := ⟨fuel - 1, by omega⟩
    have hv : v.ReadsBack := hread (k, v) List.mem_cons_self
    obtain ⟨c, cs, hcs, hc⟩ := (hwhole (k, v) List.mem_cons_self).exists_opening
    have hskip : ∀ t, skipBlanks (v.chars ++ t) = v.chars ++ t := by
      intro t
      rw [show v.chars = c :: cs from hcs]
      exact skipBlanks_cons (isBlank_of_isOpening hc)
    cases fs with
    | nil =>
      rw [fieldChars, List.length_append, List.length_cons] at hfuel
      obtain ⟨qs, hqs, hquote⟩ := stringRest_quote k (':' :: (v.chars ++ '}' :: rest))
      rw [fieldChars, List.append_assoc, List.cons_append, hqs, members]
      simp only [hquote, skipBlanks_cons (c := ':') (by decide), hskip,
        hv fuel ('}' :: rest) (by omega) (.cons (by decide)), skipBlanks_cons (c := '}') (by decide)]
      simp
    | cons g gs =>
      obtain ⟨t, ht⟩ := fieldChars_append_eq_cons g gs ('}' :: rest)
      have hlength : (fieldChars ((k, v) :: g :: gs)).length =
          (quote k).length + (v.chars.length + (fieldChars (g :: gs)).length + 2) := by
        simp [fieldChars]
        omega
      obtain ⟨qs, hqs, hquote⟩ := stringRest_quote k
        (':' :: (v.chars ++ ',' :: (fieldChars (g :: gs) ++ '}' :: rest)))
      have hsplit : fieldChars ((k, v) :: g :: gs) ++ '}' :: rest = '"' :: qs := by
        rw [← hqs]
        simp [fieldChars]
      have hrest := ih (by simp) (fun x hx => hwhole x (List.mem_cons_of_mem _ hx))
        (fun x hx => hread x (List.mem_cons_of_mem _ hx)) fuel ((k, v) :: acc) (by omega)
      rw [hsplit, members]
      simp only [hquote, skipBlanks_cons (c := ':') (by decide), hskip,
        hv fuel (',' :: (fieldChars (g :: gs) ++ '}' :: rest)) (by omega) (.cons (by decide)),
        skipBlanks_cons (c := ',') (by decide)]
      rw [ht] at hrest ⊢
      rw [skipBlanks_cons (by decide), hrest]
      simp

/-- A value is read back from its text, whatever ends it. -/
theorem Whole.value_chars {v : Json} (h : v.Whole) : v.ReadsBack := by
  induction h with
  | null =>
    intro fuel rest hfuel _
    obtain ⟨fuel, rfl⟩ : ∃ k, fuel = k + 1 := ⟨fuel - 1, by simp [chars] at hfuel; omega⟩
    simp [chars, value, eat]
  | bool b =>
    intro fuel rest hfuel _
    obtain ⟨fuel, rfl⟩ : ∃ k, fuel = k + 1 :=
      ⟨fuel - 1, by cases b <;> simp [chars] at hfuel <;> omega⟩
    cases b <;> simp [chars, value, eat]
  | int i => exact readsBack_int i
  | str s => exact readsBack_str s
  | @arr vs hwhole ih =>
    intro fuel rest hfuel _
    rw [chars, List.length_append, List.length_cons, List.length_singleton] at hfuel
    obtain ⟨fuel, rfl⟩ : ∃ k, fuel = k + 1 := ⟨fuel - 1, by omega⟩
    rw [chars, List.cons_append, List.cons_append, List.append_assoc, List.singleton_append]
    cases vs with
    | nil => simp [itemChars, value, skipBlanks_cons (c := ']') (by decide)]
    | cons v vs =>
      obtain ⟨c, t, ht, hc⟩ :=
        itemChars_append_eq_cons (hwhole v List.mem_cons_self) vs (']' :: rest)
      have hread := items_itemChars (by simp) hwhole ih fuel [] rest (by omega)
      rw [ht] at hread ⊢
      simp only [value, Char.reduceEq, if_false, if_true, skipBlanks_cons (isBlank_of_isOpening hc)]
      split
      next heq =>
        have hclose : c = ']' := (List.cons.inj heq).1
        rw [hclose] at hc
        exact absurd hc (by decide)
      next => rw [hread]; rfl
  | @obj fs hwhole ih =>
    intro fuel rest hfuel _
    rw [chars, List.length_append, List.length_cons, List.length_singleton] at hfuel
    obtain ⟨fuel, rfl⟩ : ∃ k, fuel = k + 1 := ⟨fuel - 1, by omega⟩
    rw [chars, List.cons_append, List.cons_append, List.append_assoc, List.singleton_append]
    cases fs with
    | nil => simp [fieldChars, value, skipBlanks_cons (c := '}') (by decide)]
    | cons f fs =>
      obtain ⟨t, ht⟩ := fieldChars_append_eq_cons f fs ('}' :: rest)
      have hread := members_fieldChars (by simp) hwhole ih fuel [] rest (by omega)
      rw [ht] at hread ⊢
      simp only [value, Char.reduceEq, if_false, if_true, skipBlanks_cons (c := '"') (by decide)]
      split
      next heq => simp at heq
      next => rw [hread]; rfl

/-- A value is read back from its text. -/
theorem Whole.parse_text {v : Json} (h : v.Whole) : parse v.text = some v := by
  obtain ⟨c, cs, hcs, hc⟩ := h.exists_opening
  have hskip : skipBlanks v.chars = v.chars := by
    rw [hcs]
    exact skipBlanks_cons (isBlank_of_isOpening hc)
  have hread := h.value_chars (v.chars.length + 1) [] (by omega) .nil
  rw [List.append_nil] at hread
  simp only [parse, text, String.toList_ofList, hskip, hread]
  rfl

/-! ## Controls -/

theorem le_toNat_hexChar : ∀ d < 16, 0x20 ≤ (Text.hexChar d).toNat := by
  decide

theorem le_toNat_of_all {l : List Char} (h : (l.all fun x => decide (0x20 ≤ x.toNat)) = true) :
    ∀ x ∈ l, 0x20 ≤ x.toNat := by
  simpa using h

theorem le_toNat_of_mem_escapeChar {c x : Char} (h : x ∈ escapeChar c) : 0x20 ≤ x.toNat := by
  unfold escapeChar at h
  split_ifs at h with _ _ _ _ _ _ _ hcontrol
  -- A mark behind a backslash.
  iterate 7 exact le_toNat_of_all rfl x h
  · have hhigh := le_toNat_hexChar (c.toNat / 16) (by omega)
    have hlow := le_toNat_hexChar (c.toNat % 16) (by omega)
    simp only [List.mem_cons, List.not_mem_nil, or_false] at h
    rcases h with rfl | rfl | rfl | rfl | rfl | rfl
    · decide
    · decide
    · decide
    · decide
    · exact hhigh
    · exact hlow
  · rw [List.mem_singleton.1 h]
    omega

theorem le_toNat_of_mem_quote {s : String} {x : Char} (h : x ∈ quote s) : 0x20 ≤ x.toNat := by
  simp only [quote, List.cons_append, List.mem_cons, List.mem_append, List.mem_flatMap,
    List.not_mem_nil, or_false] at h
  rcases h with rfl | ⟨c, -, hx⟩ | rfl
  · decide
  · exact le_toNat_of_mem_escapeChar hx
  · decide

theorem le_toNat_of_inNumber {c : Char} (h : inNumber c = true) : 0x20 ≤ c.toNat := by
  simp only [inNumber, Text.isDigit, Text.digit?, Bool.or_eq_true, decide_eq_true_eq] at h
  rcases h with ((((h | rfl) | rfl) | rfl) | rfl) | rfl
  · split at h
    next hc =>
      have hle : '0'.toNat ≤ c.toNat := hc.1
      exact Nat.le_trans (by decide) hle
    next => cases h
  all_goals decide

theorem le_toNat_of_mem_itemChars {vs : List Json} (h : ∀ v ∈ vs, ∀ c ∈ v.chars, 0x20 ≤ c.toNat) :
    ∀ c ∈ itemChars vs, 0x20 ≤ c.toNat := by
  induction vs with
  | nil => simp [itemChars]
  | cons v vs ih =>
    have hv := h v List.mem_cons_self
    cases vs with
    | nil => exact hv
    | cons w ws =>
      intro c hc
      rw [itemChars] at hc
      · rcases List.mem_append.1 hc with hc | hc
        · exact hv c hc
        rcases List.mem_cons.1 hc with rfl | hc
        · decide
        · exact ih (fun x hx => h x (List.mem_cons_of_mem _ hx)) c hc
      · simp

theorem le_toNat_of_mem_fieldChars {fs : List (String × Json)}
    (h : ∀ f ∈ fs, ∀ c ∈ f.2.chars, 0x20 ≤ c.toNat) : ∀ c ∈ fieldChars fs, 0x20 ≤ c.toNat := by
  induction fs with
  | nil => simp [fieldChars]
  | cons f fs ih =>
    have hfield : ∀ c ∈ quote f.1 ++ ':' :: f.2.chars, 0x20 ≤ c.toNat := by
      intro c hc
      rcases List.mem_append.1 hc with hc | hc
      · exact le_toNat_of_mem_quote hc
      rcases List.mem_cons.1 hc with rfl | hc
      · decide
      · exact h f List.mem_cons_self c hc
    cases fs with
    | nil => exact hfield
    | cons g gs =>
      intro c hc
      rw [fieldChars] at hc
      · rcases List.mem_append.1 hc with hc | hc
        · exact hfield c hc
        rcases List.mem_cons.1 hc with rfl | hc
        · decide
        · exact ih (fun x hx => h x (List.mem_cons_of_mem _ hx)) c hc
      · simp

/-- The text of a value has no control characters, so it is one line. -/
theorem Whole.le_toNat_of_mem_chars {v : Json} (h : v.Whole) : ∀ c ∈ v.chars, 0x20 ≤ c.toNat := by
  induction h with
  | null => exact le_toNat_of_all rfl
  | bool b => cases b <;> exact le_toNat_of_all rfl
  | int i => exact fun c hc => le_toNat_of_inNumber (inNumber_of_mem_decimalInt hc)
  | str s => exact fun c hc => le_toNat_of_mem_quote hc
  | arr hwhole ih =>
    intro c hc
    simp only [chars, List.cons_append, List.mem_cons, List.mem_append, List.not_mem_nil,
      or_false] at hc
    rcases hc with rfl | hc | rfl
    · decide
    · exact le_toNat_of_mem_itemChars ih c hc
    · decide
  | obj hwhole ih =>
    intro c hc
    simp only [chars, List.cons_append, List.mem_cons, List.mem_append, List.not_mem_nil,
      or_false] at hc
    rcases hc with rfl | hc | rfl
    · decide
    · exact le_toNat_of_mem_fieldChars ih c hc
    · decide

end TreeExplorer.Json
