/-
The file that a path leads to. Components are cut at separators, and those that say
nothing are left out, so a path is read from its two sides on their own (`said_append`).
`EndsIn` tells the last component by the characters of the path: what stands behind it
says nothing, and what stands before it ends in a separator.
-/
import Mathlib.Data.List.TakeWhile
import TreeExplorer.Path
import TreeExplorer.Proofs.Text.Cut

namespace TreeExplorer.Path

/-! ## Components -/

/-- The components that say something, of a path as a list of characters. -/
def said (cs : List Char) : List (List Char) :=
  (Text.cut (· == '/') cs).filter fun c => c != [] && c != ['.']

theorem components_eq (path : String) : components path = said path.toList := rfl

theorem said_append (left right : List Char) : said (left ++ '/' :: right) = said left ++ said right := by
  rw [said, Text.cut_append_cons (by decide), List.filter_append]
  rfl

theorem said_of_notMem {cs : List Char} (h : '/' ∉ cs) :
    said cs = if cs = [] ∨ cs = ['.'] then [] else [cs] := by
  have hcut : Text.cut (· == '/') cs = [cs] := by
    refine Text.cut_of_all_not fun c hc => ?_
    rw [beq_eq_false_iff_ne]
    rintro rfl
    exact h hc
  rw [said, hcut]
  by_cases hcs : cs = [] ∨ cs = ['.']
  · rw [if_pos hcs]
    rcases hcs with rfl | rfl <;> rfl
  · rw [if_neg hcs]
    have hkeep : (cs != [] && cs != ['.']) = true := by simpa using hcs
    exact List.filter_cons_of_pos hkeep

theorem said_ne_nil_iff {cs : List Char} :
    said cs ≠ [] ↔ ∃ c ∈ Text.cut (· == '/') cs, c ≠ [] ∧ c ≠ ['.'] := by
  simp [said, List.filter_eq_nil_iff]

/-- Separators and single dots behind a separator. -/
inductive Idle : List Char → Prop
  | nil : Idle []
  | slash {rest : List Char} (h : Idle rest) : Idle ('/' :: rest)
  | dot {rest : List Char} (h : Idle rest) : Idle ('/' :: '.' :: rest)

theorem Idle.append {a b : List Char} (ha : Idle a) (hb : Idle b) : Idle (a ++ b) := by
  induction ha with
  | nil => exact hb
  | slash _ ih => exact .slash ih
  | dot _ ih => exact .dot ih

/-- What is idle says nothing behind a path. -/
theorem Idle.said_append {rest : List Char} (h : Idle rest) (cs : List Char) :
    said (cs ++ rest) = said cs := by
  induction h generalizing cs with
  | nil => rw [List.append_nil]
  | slash _ ih =>
    have hrest := ih []
    rw [List.nil_append] at hrest
    rw [Path.said_append, hrest]
    exact List.append_nil _
  | dot _ ih =>
    have hrest := ih ['.']
    rw [List.singleton_append] at hrest
    rw [Path.said_append, hrest]
    exact List.append_nil _

/-- Some separators are doubled. -/
inductive Doubles : List Char → List Char → Prop
  | nil : Doubles [] []
  | keep (c : Char) {cs ds : List Char} (h : Doubles cs ds) : Doubles (c :: cs) (c :: ds)
  | slash {cs ds : List Char} (h : Doubles cs ds) : Doubles ('/' :: cs) ('/' :: '/' :: ds)

theorem Doubles.said_eq {cs ds : List Char} (h : Doubles cs ds) (before : List Char) :
    said (before ++ ds) = said (before ++ cs) := by
  induction h generalizing before with
  | nil => rfl
  | @keep c cs ds _ ih => simpa using ih (before ++ [c])
  | @slash cs ds _ ih =>
    have hrest := ih []
    rw [List.nil_append, List.nil_append] at hrest
    have hslash : said ('/' :: ds) = said ds := said_append [] ds
    rw [said_append, said_append, hslash, hrest]

/-! ## The last component -/

/-- This is the last component that says something. -/
def EndsIn (cs name : List Char) : Prop :=
  ∃ before after, cs = before ++ name ++ after ∧
    (before = [] ∨ ∃ front, before = front ++ ['/']) ∧ Idle after ∧
    '/' ∉ name ∧ name ≠ [] ∧ name ≠ ['.']

theorem exists_last_slash {cs : List Char} (h : '/' ∈ cs) :
    ∃ left right, cs = left ++ '/' :: right ∧ '/' ∉ right := by
  obtain ⟨right, left, hsplit, hright⟩ := List.eq_append_cons_of_mem (List.mem_reverse.2 h)
  refine ⟨left.reverse, right.reverse, ?_, fun hmem => hright (List.mem_reverse.1 hmem)⟩
  have hreverse := congrArg List.reverse hsplit
  simpa using hreverse

theorem endsIn_of_getLast?_said {cs name : List Char} (h : (said cs).getLast? = some name) :
    EndsIn cs name := by
  -- By the length: the last piece is it, or says nothing and is left off.
  induction hlength : cs.length using Nat.strong_induction_on generalizing cs with
  | _ n ih =>
    by_cases hslash : '/' ∈ cs
    · obtain ⟨left, right, rfl, hright⟩ := exists_last_slash hslash
      rw [said_append, said_of_notMem hright] at h
      by_cases hsays : right = [] ∨ right = ['.']
      · rw [if_pos hsays, List.append_nil] at h
        obtain ⟨before, after, rfl, hbefore, hafter, hname⟩ :=
          ih left.length (by rw [← hlength]; simp) h rfl
        have hidle : Idle ('/' :: right) := by
          rcases hsays with rfl | rfl
          · exact .slash .nil
          · exact .dot .nil
        exact ⟨before, after ++ '/' :: right, by simp, hbefore, hafter.append hidle, hname⟩
      · rw [if_neg hsays, List.getLast?_concat] at h
        obtain rfl := Option.some.inj h
        exact ⟨left ++ ['/'], [], by simp, .inr ⟨left, rfl⟩, .nil, hright, not_or.1 hsays⟩
    · rw [said_of_notMem hslash] at h
      by_cases hsays : cs = [] ∨ cs = ['.']
      · rw [if_pos hsays] at h
        cases h
      · rw [if_neg hsays] at h
        obtain rfl := Option.some.inj h
        exact ⟨[], [], by simp, .inl rfl, .nil, hslash, not_or.1 hsays⟩

theorem getLast?_said_eq_some_iff {cs name : List Char} :
    (said cs).getLast? = some name ↔ EndsIn cs name := by
  constructor
  · exact endsIn_of_getLast?_said
  · rintro ⟨before, after, rfl, hbefore, hafter, hslash, hempty, hdot⟩
    have hname : said name = [name] := by
      rw [said_of_notMem hslash, if_neg (not_or.2 ⟨hempty, hdot⟩)]
    rw [hafter.said_append]
    rcases hbefore with rfl | ⟨front, rfl⟩
    · rw [List.nil_append, hname]
      rfl
    · rw [List.append_assoc, List.singleton_append, said_append, hname, List.getLast?_concat]

theorem fileNameList_eq_some_iff {path : String} {name : List Char} :
    fileNameList path = some name ↔ EndsIn path.toList name ∧ name ≠ ['.', '.'] := by
  rw [← getLast?_said_eq_some_iff, ← components_eq, fileNameList]
  cases (components path).getLast? with
  | none => simp
  | some last =>
    by_cases hup : last = ['.', '.']
    · subst hup
      simp [eq_comm]
    · simp only [if_neg hup, Option.some.injEq]
      exact ⟨fun h => ⟨h, h ▸ hup⟩, fun h => h.1⟩

/-! ## Extensions -/

/-- The extension is what follows the last dot, if that dot is not the first character. -/
theorem extensionList_eq_some_iff {name ext : List Char} :
    extensionList name = some ext ↔ ∃ stem, name = stem ++ '.' :: ext ∧ stem ≠ [] ∧ '.' ∉ ext := by
  constructor
  · intro h
    have hjoin := List.takeWhile_append_dropWhile (p := (· != '.')) (l := name.reverse)
    have hhead := List.head?_dropWhile_not (· != '.') name.reverse
    unfold extensionList at h
    split at h
    next d c rest hdrop =>
      obtain rfl := Option.some.inj h
      rw [hdrop] at hjoin hhead
      have hd : d = '.' := by simpa using hhead
      subst hd
      refine ⟨(c :: rest).reverse, ?_, by simp, ?_⟩
      · have hreverse := congrArg List.reverse hjoin
        simpa using hreverse.symm
      · intro hmem
        exact absurd (List.mem_takeWhile_imp (List.mem_reverse.1 hmem)) (by decide)
    next => cases h
  · rintro ⟨stem, rfl, hstem, hext⟩
    have hreverse : (stem ++ '.' :: ext).reverse = ext.reverse ++ '.' :: stem.reverse := by simp
    have hall : ∀ c ∈ ext.reverse, (c != '.') = true := by
      intro c hc
      rw [bne_iff_ne]
      rintro rfl
      exact hext (List.mem_reverse.1 hc)
    unfold extensionList
    rw [hreverse, List.dropWhile_append_of_pos hall, List.takeWhile_append_of_pos hall]
    cases hback : stem.reverse with
    | nil => exact absurd (List.reverse_eq_nil_iff.1 hback) hstem
    | cons c rest => simp

theorem extension_eq_some_iff {path ext : String} :
    extension path = some ext ↔ ∃ stem, EndsIn path.toList (stem ++ '.' :: ext.toList) ∧
      stem ++ '.' :: ext.toList ≠ ['.', '.'] ∧ stem ≠ [] ∧ '.' ∉ ext.toList := by
  rw [extension, Option.map_eq_some_iff]
  constructor
  · rintro ⟨cs, hcs, rfl⟩
    obtain ⟨name, hname, hext⟩ := Option.bind_eq_some_iff.1 hcs
    obtain ⟨hends, hup⟩ := fileNameList_eq_some_iff.1 hname
    obtain ⟨stem, rfl, hstem, hdot⟩ := extensionList_eq_some_iff.1 hext
    rw [String.toList_ofList]
    exact ⟨stem, hends, hup, hstem, hdot⟩
  · rintro ⟨stem, hends, hup, hstem, hdot⟩
    have hname := fileNameList_eq_some_iff.2 ⟨hends, hup⟩
    have hext := extensionList_eq_some_iff.2 ⟨stem, rfl, hstem, hdot⟩
    exact ⟨ext.toList, Option.bind_eq_some_iff.2 ⟨_, hname, hext⟩, String.ofList_toList⟩

/-- Only the last component counts. -/
theorem extension_congr {path path' : String}
    (h : (said path.toList).getLast? = (said path'.toList).getLast?) :
    extension path = extension path' := by
  rw [extension, extension, fileNameList, fileNameList, components_eq, components_eq, h]

end TreeExplorer.Path
