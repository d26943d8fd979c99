/-
Which matches can be bound. The names of a table are as many as its captures, so
a match is bound if all its captures have an index below the count
(`RawMatch.exists_bind_of_fits`), and otherwise refused for the first that has
not (`RawMatch.bind_of_stray`). A name that is bound again is bound in place, so
a match has each name once (`RawMatch.nodup_names_of_bind`).
-/
import TreeExplorer.Query.Match

namespace TreeExplorer.Query

universe u

variable {ν : Type u}

@[simp] theorem CaptureTable.length_snapshot (t : CaptureTable) : t.snapshot.length = t.count := by
  simp [snapshot]

namespace RawMatch

/-- Every capture has an index below the count. -/
def Fits (count : Nat) (raw : RawMatch ν) : Prop :=
  ∀ c ∈ raw.captures, c.1 < count

instance (count : Nat) (raw : RawMatch ν) : Decidable (raw.Fits count) :=
  inferInstanceAs (Decidable (∀ c ∈ raw.captures, c.1 < count))

/-- The first index that is not below the count, in the order of the captures. -/
def stray? (count : Nat) (raw : RawMatch ν) : Option Nat :=
  (raw.captures.map (·.1)).find? (count ≤ ·)

theorem exists_stray_of_not_fits {count : Nat} {raw : RawMatch ν} (h : ¬raw.Fits count) :
    ∃ i, raw.stray? count = some i := by
  rw [← Option.isSome_iff_exists, stray?, List.find?_isSome]
  simp only [Fits, Classical.not_forall, Nat.not_lt] at h
  obtain ⟨c, hc, hle⟩ := h
  exact ⟨c.1, List.mem_map_of_mem hc, by simpa using hle⟩

theorem bindInto_of_fits {names : List String} (bound : List (String × ν)) {captures : List (Nat × ν)}
    (h : ∀ c ∈ captures, c.1 < names.length) : ∃ b, bindInto names bound captures = .ok b := by
  induction captures generalizing bound with
  | nil => exact ⟨bound, rfl⟩
  | cons c rest ih =>
    obtain ⟨i, n⟩ := c
    have hi : i < names.length := h (i, n) List.mem_cons_self
    simp only [bindInto, List.getElem?_eq_getElem hi]
    exact ih _ fun c hc => h c (List.mem_cons_of_mem _ hc)

theorem bindInto_of_stray {names : List String} (bound : List (String × ν)) {captures : List (Nat × ν)}
    {i : Nat} (h : (captures.map (·.1)).find? (names.length ≤ ·) = some i) :
    bindInto names bound captures = .error i := by
  induction captures generalizing bound with
  | nil => cases h
  | cons c rest ih =>
    obtain ⟨j, n⟩ := c
    rw [List.map_cons, List.find?_cons] at h
    by_cases hj : names.length ≤ j
    · simp only [hj, decide_true, Option.some.injEq] at h
      subst h
      simp only [bindInto, List.getElem?_eq_none hj]
    · simp only [hj, decide_false] at h
      simp only [bindInto, List.getElem?_eq_getElem (Nat.lt_of_not_le hj)]
      exact ih _ h

theorem exists_bind_of_fits {names : List String} {raw : RawMatch ν} (h : raw.Fits names.length) :
    ∃ m, raw.bind names = .ok m ∧ m.pattern = raw.pattern := by
  obtain ⟨captures, hcaptures⟩ := bindInto_of_fits [] h
  exact ⟨⟨raw.pattern, captures⟩, by rw [bind, hcaptures], rfl⟩

theorem bind_of_stray {names : List String} {raw : RawMatch ν} {i : Nat}
    (h : raw.stray? names.length = some i) :
    raw.bind names = .error (.unknownCapture i names.length) := by
  rw [bind, bindInto_of_stray [] h]

theorem bindInto_of_bind {names : List String} {raw : RawMatch ν} {m : Match ν}
    (h : raw.bind names = .ok m) :
    m.pattern = raw.pattern ∧ bindInto names [] raw.captures = .ok m.captures := by
  unfold bind at h
  split at h
  next captures hcaptures => cases h; exact ⟨rfl, hcaptures⟩
  next => cases h

end RawMatch

/-! ## Names -/

theorem mem_names_rebind {name k : String} {node : ν} {bound : List (String × ν)} :
    k ∈ (rebind name node bound).map (·.1) ↔ k = name ∨ k ∈ bound.map (·.1) := by
  induction bound with
  | nil => simp [rebind]
  | cons e rest ih =>
    obtain ⟨j, n⟩ := e
    by_cases hj : j = name
    · simp [rebind, hj]
    · simp only [rebind, if_neg hj, List.map_cons, List.mem_cons, ih]
      exact or_left_comm

theorem nodup_names_rebind (name : String) (node : ν) {bound : List (String × ν)}
    (h : (bound.map (·.1)).Nodup) : ((rebind name node bound).map (·.1)).Nodup := by
  induction bound with
  | nil => simp [rebind]
  | cons e rest ih =>
    obtain ⟨j, n⟩ := e
    obtain ⟨hj, hrest⟩ := List.nodup_cons.1 h
    by_cases hname : j = name
    · simp only [rebind, if_pos hname, List.map_cons]
      exact List.nodup_cons.2 ⟨hj, hrest⟩
    · simp only [rebind, if_neg hname, List.map_cons]
      refine List.nodup_cons.2 ⟨fun hmem => ?_, ih hrest⟩
      rcases mem_names_rebind.1 hmem with heq | hmem
      · exact hname heq
      · exact hj hmem

theorem nodup_names_bindInto {names : List String} {bound b : List (String × ν)}
    {captures : List (Nat × ν)} (hbound : (bound.map (·.1)).Nodup)
    (h : RawMatch.bindInto names bound captures = .ok b) : (b.map (·.1)).Nodup := by
  induction captures generalizing bound with
  | nil => cases h; exact hbound
  | cons c rest ih =>
    obtain ⟨i, n⟩ := c
    rw [RawMatch.bindInto] at h
    split at h
    next name _ => exact ih (nodup_names_rebind name n hbound) h
    next => cases h

/-- A match binds each name once. -/
theorem RawMatch.nodup_names_of_bind {names : List String} {raw : RawMatch ν} {m : Match ν}
    (h : raw.bind names = .ok m) : (m.captures.map (·.1)).Nodup := by
  have hnil : (([] : List (String × ν)).map (·.1)).Nodup := List.nodup_nil
  exact nodup_names_bindInto hnil (bindInto_of_bind h).2

end TreeExplorer.Query
