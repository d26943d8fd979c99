/-
What a name is bound to. Binding a name changes what that name looks up and nothing
else (`lookup_rebind`), so a name looks up the last capture under it
(`RawMatch.lookup_bindInto`). Which names a match has follows from that, and since it
has each once, their number is that of the distinct names. Captures with different
indices may share a name, as do those of all slots without one.
-/
import Mathlib.Data.Finset.Card
import TreeExplorer.Proofs.Facts
import TreeExplorer.Proofs.Query.Binding

namespace TreeExplorer.Query

universe u

variable {ν : Type u}

theorem CaptureTable.getElem?_snapshot (t : CaptureTable) {i : Nat} (h : i < t.count) :
    t.snapshot[i]? = some ((t.name i).getD "") := by
  rw [snapshot, List.getElem?_map, List.getElem?_range h, Option.map_some]

/-- The node of the last capture under a name. -/
def lastUnder (names : List String) (captures : List (Nat × ν)) (x : String) : Option ν :=
  ((captures.filter fun c => names[c.1]? == some x).getLast?).map (·.2)

theorem lastUnder_cons (names : List String) (c : Nat × ν) (rest : List (Nat × ν)) (x : String) :
    lastUnder names (c :: rest) x =
      (lastUnder names rest x).or (if names[c.1]? = some x then some c.2 else none) := by
  unfold lastUnder
  by_cases hc : names[c.1]? = some x
  · have htrue : (names[c.1]? == some x) = true := beq_iff_eq.2 hc
    rw [List.filter_cons, if_pos htrue, List.getLast?_cons, if_pos hc]
    cases (rest.filter fun c => names[c.1]? == some x).getLast? <;> rfl
  · have hfalse : ¬(names[c.1]? == some x) = true := fun h => hc (beq_iff_eq.1 h)
    rw [List.filter_cons, if_neg hfalse, if_neg hc, Option.or_none]

theorem isSome_lastUnder {names : List String} {captures : List (Nat × ν)} {x : String} :
    (lastUnder names captures x).isSome ↔ x ∈ captures.filterMap fun c => names[c.1]? := by
  induction captures with
  | nil => simp [lastUnder]
  | cons c rest ih =>
    rw [lastUnder_cons, Option.isSome_or, Bool.or_eq_true, ih, List.mem_filterMap,
      List.mem_filterMap, List.exists_mem_cons_iff, or_comm]
    by_cases hc : names[c.1]? = some x
    · simp [hc]
    · simp [hc]

theorem lookup_rebind (name x : String) (node : ν) (bound : List (String × ν)) :
    (rebind name node bound).lookup x = if x = name then some node else bound.lookup x := by
  induction bound with
  | nil =>
    rw [rebind, List.lookup_cons]
    by_cases hx : x = name
    · simp [hx]
    · rw [beq_eq_false_iff_ne.2 hx, if_neg hx]
  | cons e rest ih =>
    obtain ⟨k, n⟩ := e
    by_cases hk : k = name
    · rw [rebind, if_pos hk, List.lookup_cons, List.lookup_cons, hk]
      by_cases hx : x = name
      · simp [hx]
      · rw [beq_eq_false_iff_ne.2 hx, if_neg hx]
    · rw [rebind, if_neg hk, List.lookup_cons, List.lookup_cons, ih]
      by_cases hx : x = k
      · simp [hx, hk]
      · rw [beq_eq_false_iff_ne.2 hx]

namespace RawMatch

variable {names : List String}

/-- What captures bind goes before what was bound already. -/
theorem lookup_bindInto {bound b : List (String × ν)} {captures : List (Nat × ν)}
    (h : bindInto names bound captures = .ok b) (x : String) :
    b.lookup x = (lastUnder names captures x).or (bound.lookup x) := by
  induction captures generalizing bound with
  | nil => cases h; rfl
  | cons c rest ih =>
    obtain ⟨i, n⟩ := c
    rw [bindInto] at h
    split at h
    next name hname =>
      rw [ih h, lookup_rebind, lastUnder_cons, Option.or_assoc, hname]
      by_cases hx : x = name
      · simp [hx]
      · have hne : ¬some name = some x := fun heq => hx (Option.some.inj heq).symm
        rw [if_neg hx, if_neg hne, Option.none_or]
    next => cases h

/-- A name is bound to the node of the last capture under it. -/
theorem capture_of_bind {raw : RawMatch ν} {m : Match ν} (h : raw.bind names = .ok m) (x : String) :
    m.capture x = lastUnder names raw.captures x := by
  have hlookup := lookup_bindInto (bindInto_of_bind h).2 x
  rwa [List.lookup_nil, Option.or_none] at hlookup

theorem mem_names_of_bind {raw : RawMatch ν} {m : Match ν} (h : raw.bind names = .ok m)
    {x : String} :
    x ∈ m.captures.map (·.1) ↔ x ∈ raw.captures.filterMap fun c => names[c.1]? := by
  rw [mem_names_iff_isSome_lookup, ← isSome_lastUnder, ← capture_of_bind h]
  rfl

theorem size_of_bind {raw : RawMatch ν} {m : Match ν} (h : raw.bind names = .ok m) :
    m.size = (raw.captures.filterMap fun c => names[c.1]?).toFinset.card := by
  have hset : (raw.captures.filterMap fun c => names[c.1]?).toFinset =
      (m.captures.map (·.1)).toFinset := by
    ext x
    rw [List.mem_toFinset, List.mem_toFinset, mem_names_of_bind h]
  rw [hset, List.toFinset_card_of_nodup (nodup_names_of_bind h), List.length_map]
  rfl

theorem isEmpty_of_bind {raw : RawMatch ν} {m : Match ν} (hfits : raw.Fits names.length)
    (h : raw.bind names = .ok m) : m.isEmpty = true ↔ raw.captures = [] := by
  rw [Match.isEmpty, List.isEmpty_iff, ← List.map_eq_nil_iff (f := fun e => e.1),
    List.eq_nil_iff_forall_not_mem]
  constructor
  · intro hempty
    -- Any capture would have left its name.
    refine List.eq_nil_iff_forall_not_mem.2 fun c hc => ?_
    have hname := List.getElem?_eq_getElem (hfits c hc)
    exact hempty _ ((mem_names_of_bind h).2 (List.mem_filterMap.2 ⟨c, hc, hname⟩))
  · intro hnone x hx
    rw [mem_names_of_bind h, hnone] at hx
    cases hx

theorem bind_fails_iff {raw : RawMatch ν} :
    (∃ e, raw.bind names = .error e) ↔ ∃ c ∈ raw.captures, names.length ≤ c.1 := by
  constructor
  · rintro ⟨e, he⟩
    by_contra hnone
    push Not at hnone
    obtain ⟨m, hm, -⟩ := exists_bind_of_fits hnone
    rw [hm] at he
    cases he
  · rintro ⟨c, hc, hle⟩
    obtain ⟨i, hi⟩ := exists_stray_of_not_fits fun hfits => Nat.not_lt.2 hle (hfits c hc)
    exact ⟨_, bind_of_stray hi⟩

/-- An index is the first stray one if those before it are not. -/
theorem stray?_of_split {count : Nat} {raw : RawMatch ν} {before after : List (Nat × ν)} {i : Nat}
    {node : ν} (hsplit : raw.captures = before ++ (i, node) :: after)
    (hbefore : ∀ c ∈ before, c.1 < count) (hi : count ≤ i) : raw.stray? count = some i := by
  have hskip : (before.map (·.1)).find? (count ≤ ·) = none := by
    simpa using hbefore
  rw [stray?, hsplit, List.map_append, List.find?_append, hskip, Option.none_or, List.map_cons,
    List.find?_cons_of_pos (by simpa using hi)]

/-- **The last capture under a name counts.** With the names of any table, a match is
refused exactly if a capture has an index from the count on, and then for the first
such index; otherwise its pattern is kept, each name is bound to the node of the last
capture under it, as many names are bound as the captures have, and none only if there
are no captures. -/
theorem bind_last_wins (table : CaptureTable) (raw : RawMatch ν) :
    let names := table.snapshot
    (names.length = table.count ∧
      ∀ i < table.count, names[i]? = some ((table.name i).getD "")) ∧
    ((∃ e, raw.bind names = .error e) ↔ ∃ c ∈ raw.captures, table.count ≤ c.1) ∧
    (∀ before i node after, raw.captures = before ++ (i, node) :: after →
      (∀ c ∈ before, c.1 < table.count) → table.count ≤ i →
      raw.bind names = .error (.unknownCapture i table.count)) ∧
    ((∀ c ∈ raw.captures, c.1 < table.count) →
      ∃ m, raw.bind names = .ok m ∧ m.pattern = raw.pattern ∧
        (∀ x, m.capture x = lastUnder names raw.captures x) ∧
        m.size = (raw.captures.filterMap fun c => names[c.1]?).toFinset.card ∧
        (m.isEmpty = true ↔ raw.captures = [])) := by
  intro names
  have hlength : names.length = table.count := table.length_snapshot
  rw [← hlength]
  refine ⟨⟨rfl, fun i hi => table.getElem?_snapshot (hlength ▸ hi)⟩, bind_fails_iff, ?_, ?_⟩
  · intro before i node after hsplit hbefore hi
    exact bind_of_stray (stray?_of_split hsplit hbefore hi)
  · intro hfits
    obtain ⟨m, hm, hpattern⟩ := exists_bind_of_fits hfits
    exact ⟨m, hm, hpattern, capture_of_bind hm, size_of_bind hm, isEmpty_of_bind hfits hm⟩

/-- Two of four slots share a name and two have none. In the second match indices 9 and
4 have no slot, and the first of them is told. -/
theorem bind_last_wins_shared_names :
    let table : CaptureTable := ⟨4, fun i => if i % 2 = 0 then some "a" else none⟩
    let raw : RawMatch Nat := ⟨7, [(0, 10), (1, 11), (2, 12), (3, 13), (1, 14)]⟩
    let torn : RawMatch Nat := ⟨7, [(0, 10), (9, 11), (4, 12), (2, 13)]⟩
    (∃ m, raw.bind table.snapshot = .ok m ∧ m.pattern = 7 ∧ m.capture "a" = some 12 ∧
      m.capture "" = some 14 ∧ m.capture "b" = none ∧ m.size = 2 ∧ m.isEmpty = false) ∧
    torn.bind table.snapshot = .error (.unknownCapture 9 4) := by
  intro table raw torn
  obtain ⟨-, -, -, hbinds⟩ := bind_last_wins table raw
  obtain ⟨m, hm, hpattern, hcapture, hsize, hempty⟩ := hbinds (by decide)
  obtain ⟨-, -, hfails, -⟩ := bind_last_wins table torn
  have hfull : ¬m.isEmpty = true := fun h => List.cons_ne_nil _ _ (hempty.1 h)
  refine ⟨⟨m, hm, hpattern, ?_, ?_, ?_, ?_, Bool.eq_false_iff.2 hfull⟩, ?_⟩
  · rw [hcapture]
    decide
  · rw [hcapture]
    decide
  · rw [hcapture]
    decide
  · rw [hsize]
    decide
  · exact hfails [(0, 10)] 9 11 [(4, 12), (2, 13)] rfl (by decide) (by decide)

end RawMatch

end TreeExplorer.Query
