/-
What is split off the front of a command line. A flag for configuration stands with
its value attached, or alone and takes the next argument whatever that looks like; at
the very end of the line it may go without. What is split off is the longest front of
this form (`Takes`).

The splitter keeps arguments, a place and a count of values to come. All is derived
from one fact: it goes through flags with their values and is then where it was, only
as many arguments further on (`takeFlags_of_items`).
-/
import Mathlib.Data.List.TakeWhile
import TreeExplorer.Config.Flags

namespace TreeExplorer

/-! ## Names and values of arguments -/

namespace Argument

@[simp] theorem shown_ofText (text : String) : (ofText text).shown = text := by
  have hmap : (ofText text).map Text.Piece.shown = text.toList := by
    rw [ofText, List.map_map]
    exact List.map_id' text.toList
  rw [shown, hmap, String.ofList_toList]

/-- An argument that is shown without a replacement is the text that is shown. -/
theorem eq_ofText_of_shown {a : Argument} (h : Text.replacement ∉ a.shown.toList) :
    a = ofText a.shown := by
  have hlist : a.shown.toList = a.map Text.Piece.shown := String.toList_ofList
  rw [hlist] at h
  have hpiece : ∀ p ∈ a, (Text.Piece.char ∘ Text.Piece.shown) p = id p := by
    intro p hp
    cases p with
    | char c => rfl
    | stray bytes => exact absurd (List.mem_map_of_mem hp) h
  rw [ofText, hlist, List.map_map, List.map_congr_left hpiece, List.map_id]

theorem eq_of_isChar {c : Char} {p : Text.Piece} (h : isChar c p = true) : p = .char c := by
  cases p with
  | char d =>
    have hd : d = c := by simpa [isChar, Text.Piece.char?] using h
    rw [hd]
  | stray bytes => simp [isChar, Text.Piece.char?] at h

/-- A name and a value, joined again. -/
def joinValue (name : Argument) : Option Argument → Argument
  | none => name
  | some value => name ++ .char '=' :: value

theorem joinValue_splitValue (a : Argument) :
    joinValue (splitValue a).1 (splitValue a).2 = a := by
  have hjoin := List.takeWhile_append_dropWhile (p := (!isChar '=' ·)) (l := a)
  have hhead := List.head?_dropWhile_not (!isChar '=' ·) a
  unfold splitValue
  cases hdrop : a.dropWhile (!isChar '=' ·) with
  | nil => rw [hdrop, List.append_nil] at hjoin; exact hjoin
  | cons p value =>
    rw [hdrop] at hjoin hhead
    have hp : p = .char '=' := eq_of_isChar (by simpa using hhead)
    rw [hp] at hjoin
    exact hjoin

theorem splitValue_joinValue {name : String} (h : '=' ∉ name.toList) (value : Option Argument) :
    splitValue (joinValue (ofText name) value) = (ofText name, value) := by
  have hname : ∀ p ∈ ofText name, (!isChar '=' p) = true := by
    intro p hp
    obtain ⟨c, hc, rfl⟩ := List.mem_map.1 hp
    have hne : c ≠ '=' := fun heq => h (heq ▸ hc)
    simp [isChar, Text.Piece.char?, hne]
  cases value with
  | none =>
    rw [joinValue, splitValue, List.takeWhile_eq_self_iff.2 hname, List.dropWhile_eq_nil_iff.2 hname]
  | some value =>
    rw [joinValue, splitValue, List.takeWhile_append_of_pos hname, List.dropWhile_append_of_pos hname]
    simp [isChar, Text.Piece.char?]

end Argument

namespace Config

/-! ## Flags and their values -/

/-- A flag by itself. -/
def IsFlag (a : Argument) : Prop :=
  ∃ name ∈ flagNames, a = Argument.ofText name

/-- A flag with its value behind an equals sign. -/
def IsAttached (a : Argument) : Prop :=
  ∃ name ∈ flagNames, ∃ value, a = Argument.ofText name ++ .char '=' :: value

theorem plain_of_mem_flagNames :
    ∀ name ∈ flagNames, '=' ∉ name.toList ∧ Text.replacement ∉ name.toList := by
  decide

theorem wantsValue?_joinValue {name : String} (h : name ∈ flagNames) (value : Option Argument) :
    wantsValue? (Argument.joinValue (Argument.ofText name) value) = some value.isNone := by
  simp only [wantsValue?, Argument.splitValue_joinValue (plain_of_mem_flagNames name h).1,
    Argument.shown_ofText]
  rw [if_pos (List.contains_iff_mem.2 h)]

theorem wantsValue?_of_isFlag {a : Argument} (h : IsFlag a) : wantsValue? a = some true := by
  obtain ⟨name, hname, rfl⟩ := h
  exact wantsValue?_joinValue hname none

theorem wantsValue?_of_isAttached {a : Argument} (h : IsAttached a) : wantsValue? a = some false := by
  obtain ⟨name, hname, value, rfl⟩ := h
  exact wantsValue?_joinValue hname (some value)

/-- An argument that is treated as a flag is one, with its value or without. -/
theorem cases_of_wantsValue? {a : Argument} {wants : Bool} (h : wantsValue? a = some wants) :
    if wants then IsFlag a else IsAttached a := by
  have hjoin := Argument.joinValue_splitValue a
  simp only [wantsValue?] at h
  split at h
  next hname =>
    have hmem : (Argument.splitValue a).1.shown ∈ flagNames := List.contains_iff_mem.1 hname
    have htext := Argument.eq_ofText_of_shown (plain_of_mem_flagNames _ hmem).2
    cases hvalue : (Argument.splitValue a).2 with
    | none =>
      rw [hvalue] at h hjoin
      obtain rfl := Option.some.inj h
      exact ⟨_, hmem, hjoin.symm.trans htext⟩
    | some value =>
      rw [hvalue] at h hjoin
      obtain rfl := Option.some.inj h
      refine ⟨_, hmem, value, ?_⟩
      rw [← htext]
      exact hjoin.symm
  next => cases h

/-- Flags that all have their values. -/
inductive Items : List Argument → Prop
  | nil : Items []
  | attached {a : Argument} {rest : List Argument} (h : IsAttached a) (hrest : Items rest) :
      Items (a :: rest)
  | separate {a : Argument} (value : Argument) {rest : List Argument} (h : IsFlag a)
      (hrest : Items rest) : Items (a :: value :: rest)

/-- Flags of which the last is left without its value. -/
def Unfinished (front : List Argument) : Prop :=
  ∃ items flag, Items items ∧ IsFlag flag ∧ front = items ++ [flag]

/-- A front of `arguments` that flags with their values make up. The last flag may lack
its value if it is the last of all arguments. -/
structure Takeable (arguments front : List Argument) : Prop where
  isFront : front <+: arguments
  form : Items front ∨ Unfinished front ∧ front = arguments

/-- The longest front that flags with their values make up. -/
structure Takes (arguments front : List Argument) : Prop where
  takeable : Takeable arguments front
  longest : ∀ other, Takeable arguments other → other.length ≤ front.length

/-! ## Runs of the splitter -/

/-- Splits off some arguments more. -/
def Split.pushAll (s : Split) (arguments : List Argument) : Split :=
  ⟨s.configuration ++ arguments, s.commandStart + arguments.length⟩

@[simp] theorem Split.pushAll_nil (s : Split) : s.pushAll [] = s := by
  simp [pushAll]

@[simp] theorem Split.pushAll_push (s : Split) (a : Argument) (arguments : List Argument) :
    (s.push a).pushAll arguments = s.pushAll (a :: arguments) := by
  simp [pushAll, push, Nat.add_assoc, Nat.add_comm 1]

theorem Split.push_pushAll (s : Split) (arguments : List Argument) (a : Argument) :
    (s.pushAll arguments).push a = s.pushAll (arguments ++ [a]) := by
  simp [pushAll, push, Nat.add_assoc]

/-- Flags with their values are split off, and nothing is left of having done so. -/
theorem takeFlags_of_items {items : List Argument} (h : Items items) (s : Split)
    (rest : List Argument) : takeFlags 0 s (items ++ rest) = takeFlags 0 (s.pushAll items) rest := by
  induction h generalizing s with
  | nil => rw [Split.pushAll_nil, List.nil_append]
  | @attached a items h _ ih =>
    rw [List.cons_append, takeFlags, wantsValue?_of_isAttached h]
    exact (ih (s.push a)).trans (by rw [Split.pushAll_push])
  | @separate a value items h _ ih =>
    rw [List.cons_append, takeFlags, wantsValue?_of_isFlag h]
    exact (ih ((s.push a).push value)).trans (by rw [Split.pushAll_push, Split.pushAll_push])

theorem takeFlags_of_isFlag {flag : Argument} (h : IsFlag flag) (s : Split) :
    takeFlags 0 s [flag] = s.push flag := by
  rw [takeFlags, wantsValue?_of_isFlag h]
  rfl

theorem takeFlags_of_unfinished {front : List Argument} (h : Unfinished front) (s : Split) :
    takeFlags 0 s front = s.pushAll front := by
  obtain ⟨items, flag, hitems, hflag, rfl⟩ := h
  rw [takeFlags_of_items hitems, takeFlags_of_isFlag hflag, Split.push_pushAll]

theorem takeFlags_of_foreign {rest : List Argument} (h : ∀ a ∈ rest.head?, wantsValue? a = none)
    (s : Split) : takeFlags 0 s rest = s := by
  cases rest with
  | nil => rfl
  | cons a rest => rw [takeFlags, h a rfl]

theorem commandStart_le_takeFlags (pending : Nat) (s : Split) (arguments : List Argument) :
    s.commandStart ≤ (takeFlags pending s arguments).commandStart := by
  have hpush : ∀ (s : Split) (a : Argument), s.commandStart ≤ (s.push a).commandStart :=
    fun s _ => Nat.le_succ s.commandStart
  fun_induction takeFlags pending s arguments with
  | case1 => exact Nat.le_refl _
  | case2 pending s a rest ih => exact Nat.le_trans (hpush s a) ih
  | case3 s a rest wants _ ih => exact Nat.le_trans (hpush s a) ih
  | case4 => exact Nat.le_refl _

/-- Where the splitter ends: before an argument that is no flag, or at the end of the
line, where a value may be missing. -/
def Halts (front rest : List Argument) : Prop :=
  Items front ∧ (∀ a ∈ rest.head?, wantsValue? a = none) ∨ Unfinished front ∧ rest = []

theorem Halts.attached {a : Argument} {front rest : List Argument} (ha : IsAttached a)
    (h : Halts front rest) : Halts (a :: front) rest := by
  rcases h with ⟨hitems, hrest⟩ | ⟨⟨items, flag, hitems, hflag, rfl⟩, hrest⟩
  · exact .inl ⟨.attached ha hitems, hrest⟩
  · exact .inr ⟨⟨a :: items, flag, .attached ha hitems, hflag, rfl⟩, hrest⟩

theorem Halts.separate {a : Argument} (value : Argument) {front rest : List Argument}
    (ha : IsFlag a) (h : Halts front rest) : Halts (a :: value :: front) rest := by
  rcases h with ⟨hitems, hrest⟩ | ⟨⟨items, flag, hitems, hflag, rfl⟩, hrest⟩
  · exact .inl ⟨.separate value ha hitems, hrest⟩
  · exact .inr ⟨⟨a :: value :: items, flag, .separate value ha hitems, hflag, rfl⟩, hrest⟩

/-- Every line has a place where the splitter ends. -/
theorem exists_halts : ∀ arguments : List Argument,
    ∃ front rest, arguments = front ++ rest ∧ Halts front rest
  | [] => ⟨[], [], rfl, .inl ⟨.nil, by simp⟩⟩
  | a :: arguments => by
    cases hwants : wantsValue? a with
    | none => exact ⟨[], a :: arguments, rfl, .inl ⟨.nil, by simpa using hwants⟩⟩
    | some wants =>
      have ha := cases_of_wantsValue? hwants
      cases wants with
      | false =>
        obtain ⟨front, rest, rfl, h⟩ := exists_halts arguments
        exact ⟨a :: front, rest, rfl, h.attached ha⟩
      | true =>
        match arguments with
        | [] => exact ⟨[a], [], rfl, .inr ⟨⟨[], a, .nil, ha, rfl⟩, rfl⟩⟩
        | value :: arguments =>
          obtain ⟨front, rest, rfl, h⟩ := exists_halts arguments
          exact ⟨a :: value :: front, rest, rfl, h.separate value ha⟩

theorem Halts.takeFlags_eq {front rest : List Argument} (h : Halts front rest) (s : Split) :
    takeFlags 0 s (front ++ rest) = s.pushAll front := by
  rcases h with ⟨hitems, hrest⟩ | ⟨hunfinished, rfl⟩
  · rw [takeFlags_of_items hitems, takeFlags_of_foreign hrest]
  · rw [List.append_nil, takeFlags_of_unfinished hunfinished]

/-- The splitter gets past every front that flags with their values make up. -/
theorem Takeable.length_le {arguments front : List Argument} (h : Takeable arguments front)
    (s : Split) : s.commandStart + front.length ≤ (takeFlags 0 s arguments).commandStart := by
  obtain ⟨⟨rest, rfl⟩, hitems | ⟨hunfinished, hall⟩⟩ := h
  · rw [takeFlags_of_items hitems]
    exact commandStart_le_takeFlags 0 (s.pushAll front) rest
  · rw [← hall, takeFlags_of_unfinished hunfinished]
    exact Nat.le_refl _

theorem Halts.takes {front rest : List Argument} (h : Halts front rest) :
    Takes (front ++ rest) front where
  takeable := by
    refine ⟨List.prefix_append front rest, ?_⟩
    rcases h with ⟨hitems, -⟩ | ⟨hunfinished, rfl⟩
    · exact .inl hitems
    · exact .inr ⟨hunfinished, (List.append_nil front).symm⟩
  longest := by
    intro other hother
    have hle := hother.length_le ⟨[], 0⟩
    rw [h.takeFlags_eq] at hle
    exact Nat.le_of_add_le_add_left hle

/-- **Flags are split off greedily, and nothing is lost.** Of no arguments there are no
parts. Otherwise the place where the command starts lies behind the program's path and
within the line; the arguments before it are split off and those from it on are left
behind the path, so that the two parts make up the line again. What is split off behind
the path is the longest front of flags and their values. The parts are stable: nothing
more can be split off what is left, and all is split off again from what was. -/
theorem split_takes_longest (program : Argument) (rest : List Argument) :
    ((split []).configuration = [] ∧ (split []).commandStart = 0 ∧ (split []).command [] = []) ∧
    let arguments := program :: rest
    let s := split arguments
    (1 ≤ s.commandStart ∧ s.commandStart ≤ arguments.length) ∧
    s.configuration = arguments.take s.commandStart ∧
    s.command arguments = program :: arguments.drop s.commandStart ∧
    s.configuration ++ (s.command arguments).tail = arguments ∧
    Takes rest (rest.take (s.commandStart - 1)) ∧
    split (s.command arguments) = ⟨[program], 1⟩ ∧
    split s.configuration = ⟨s.configuration, s.configuration.length⟩ := by
  refine ⟨⟨rfl, rfl, rfl⟩, ?_⟩
  obtain ⟨front, left, rfl, h⟩ := exists_halts rest
  intro arguments s
  have hs : s = ⟨program :: front, 1 + front.length⟩ := h.takeFlags_eq ⟨[program], 1⟩
  have hdrop : arguments.drop s.commandStart = left := by
    rw [hs, Nat.add_comm, List.drop_succ_cons, List.drop_left]
  have hcommand : s.command arguments = program :: left := by
    rw [Split.command, hdrop]
    rfl
  refine ⟨⟨?_, ?_⟩, ?_, ?_, ?_, ?_, ?_, ?_⟩
  · rw [hs]
    exact Nat.le_add_right 1 front.length
  · simp only [hs, arguments, List.length_cons, List.length_append]
    omega
  · rw [hs, Nat.add_comm, List.take_succ_cons, List.take_left]
  · rw [hcommand, hdrop]
  · rw [hcommand, hs]
    rfl
  · rw [hs, Nat.add_sub_cancel_left, List.take_left]
    exact h.takes
  · rw [hcommand]
    -- What the splitter stopped at is no flag, so it stops there at once.
    rcases h with ⟨-, hforeign⟩ | ⟨-, rfl⟩
    · exact takeFlags_of_foreign hforeign ⟨[program], 1⟩
    · rfl
  · have hagain : Halts front [] := by
      rcases h with ⟨hitems, -⟩ | ⟨hunfinished, -⟩
      · exact .inl ⟨hitems, by simp⟩
      · exact .inr ⟨hunfinished, rfl⟩
    have hsplit := hagain.takeFlags_eq ⟨[program], 1⟩
    rw [List.append_nil] at hsplit
    rw [hs]
    refine hsplit.trans ?_
    rw [Split.pushAll, List.length_cons, Nat.add_comm]
    rfl

-- A flag as the value of another, a value with an equals sign, and a flag too late.
example :
    (split (["sylvan", "--log-filter", "--match-limit", "--match-limit=8=9", "walk",
      "--log-format"].map Argument.ofText)).commandStart = 4 := by
  decide

end Config

end TreeExplorer
