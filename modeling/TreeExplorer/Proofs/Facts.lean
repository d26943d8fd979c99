/-
Facts about lists and about results that may be errors, which no part of the library
has to itself.
-/
import Mathlib.Algebra.Ring.Nat
import Mathlib.Data.List.Nodup

namespace TreeExplorer

universe u

/-! ## Lists -/

/-- Where one thing at most is looked for, it does not matter in which order things are
tried. -/
theorem find?_eq_some_iff_of_unique {α : Type} {p : α → Bool} {order : List α}
    (hall : ∀ a, a ∈ order) (hunique : ∀ a b, p a = true → p b = true → a = b) {a : α} :
    order.find? p = some a ↔ p a = true := by
  constructor
  · intro h
    exact List.find?_some h
  · intro h
    cases hfind : order.find? p with
    | none => exact absurd h (List.find?_eq_none.1 hfind a (hall a))
    | some b => rw [hunique b a (List.find?_some hfind) h]

theorem flatMap_filter {α β : Type u} (l : List α) (p : α → Bool) (f : α → List β) :
    (l.filter p).flatMap f = l.flatMap fun a => if p a then f a else [] := by
  induction l with
  | nil => rfl
  | cons a l ih => cases hp : p a <;> simp [hp, ih]

theorem filterMap_getElem?_range {α : Type} (l : List α) (count : Nat) :
    (List.range count).filterMap (fun i => l[i]?) = l.take count := by
  induction count with
  | zero => rfl
  | succ count ih =>
    rw [List.range_succ, List.filterMap_append, ih, List.take_add_one]
    cases hget : l[count]? <;> simp [hget]

/-- Replacing an element changes a sum by what the two elements count for. -/
theorem sum_map_set {α : Type u} {l : List α} {k : Nat} {a : α} (h : l[k]? = some a) (f : α → Nat)
    (b : α) : ((l.set k b).map f).sum + f a = (l.map f).sum + f b := by
  induction l generalizing k with
  | nil => cases h
  | cons c l ih =>
    cases k with
    | zero =>
      cases h
      simp only [List.set_cons_zero, List.map_cons, List.sum_cons]
      omega
    | succ k =>
      have hrest := ih h
      simp only [List.set_cons_succ, List.map_cons, List.sum_cons]
      omega

/-! ## Values under names -/

section Names

variable {ν : Type u}

theorem mem_names_iff_isSome_lookup {bound : List (String × ν)} {x : String} :
    x ∈ bound.map (·.1) ↔ (bound.lookup x).isSome := by
  rw [List.lookup_isSome_iff, List.mem_map]
  exact exists_congr fun e => and_congr_right fun _ => by rw [beq_iff_eq, eq_comm]

theorem mem_iff_lookup {bound : List (String × ν)} (h : (bound.map (·.1)).Nodup) {x : String}
    {n : ν} : (x, n) ∈ bound ↔ bound.lookup x = some n := by
  induction bound with
  | nil => simp
  | cons e rest ih =>
    obtain ⟨k, v⟩ := e
    obtain ⟨hk, hrest⟩ := List.nodup_cons.1 h
    rw [List.mem_cons, List.lookup_cons, ih hrest]
    by_cases hx : x = k
    · subst hx
      have hnone : rest.lookup x ≠ some n := by
        intro hsome
        exact hk (List.mem_map.2 ⟨(x, n), (ih hrest).2 hsome, rfl⟩)
      simp [hnone, eq_comm]
    · simp [hx, beq_eq_false_iff_ne.2 hx]

/-- Names that look up the same values are the same but for their order. -/
theorem perm_of_lookup {bound bound' : List (String × ν)} (h : (bound.map (·.1)).Nodup)
    (h' : (bound'.map (·.1)).Nodup) (heq : ∀ x, bound.lookup x = bound'.lookup x) :
    bound.Perm bound' := by
  refine (List.perm_ext_iff_of_nodup h.of_map h'.of_map).2 fun e => ?_
  rw [mem_iff_lookup h, mem_iff_lookup h', heq]

end Names

/-! ## Results -/

theorem bind_eq_ok_iff {ε α β : Type} {x : Except ε α} {f : α → Except ε β} {b : β} :
    (x >>= f) = .ok b ↔ ∃ a, x = .ok a ∧ f a = .ok b := by
  cases x with
  | error e => simp [bind, Except.bind]
  | ok a => simp [bind, Except.bind]

theorem eq_ok_of_toOption {ε α : Type} {r : Except ε α} {a : α} (h : r.toOption = some a) :
    r = .ok a := by
  cases r with
  | error e => cases h
  | ok b => exact congrArg Except.ok (Option.some.inj h)

end TreeExplorer
