/-
Names as they are read: those of languages and those of the orders of a walk. What is
compared is the text without the blanks around it, in small letters, and neither step
undoes the other (`lower_trim`): letters are never blank. So a text that is refused is
refused again in the form in which it was reported (`readsNames_of_form`).
-/
import TreeExplorer.Proofs.Language.Detection
import TreeExplorer.Proofs.Text.Blank
import TreeExplorer.Walk.Mode

namespace TreeExplorer

open Text (isBlank lower lowerChar trim SameLetter SmallForm Trims)

/-- What is to be expected of a reader of names: whatever blanks stand around a text and
whatever the case of its ASCII letters, it is read as the value that has the name. What is
reported of a text that is refused is refused in the same words. -/
structure ReadsNames {α ε : Type} (names : α → List String) (reports : String → String → Prop)
    (refusal : String → ε) (read : String → Except ε α) : Prop where
  ok_iff : ∀ s v, read s = .ok v ↔ ∃ t name, Trims s t ∧ SmallForm t name ∧ name ∈ names v
  padded : ∀ s front back : String, (∀ c ∈ front.toList ++ back.toList, isBlank c = true) →
    ∀ v, read (front ++ s ++ back) = .ok v ↔ read s = .ok v
  recased : ∀ s t : String, List.Forall₂ SameLetter s.toList t.toList →
    ∀ v, read t = .ok v ↔ read s = .ok v
  refused : ∀ s e, read s = .error e →
    ∃ text, e = refusal text ∧ reports s text ∧ read text = .error (refusal text)

/-! ## The form that is compared -/

namespace Text

theorem isBlank_of_letter {c : Char} (hlow : 65 ≤ c.toNat) (hhigh : c.toNat ≤ 122) :
    isBlank c = false := by
  simp only [isBlank, inRanges, blankRanges, List.any_cons, List.any_nil, Bool.or_false,
    Bool.or_eq_false_iff, Bool.and_eq_false_iff, decide_eq_false_iff_not]
  omega

theorem isBlank_lowerChar (c : Char) : isBlank (lowerChar c) = isBlank c := by
  have hnat := toNat_lowerChar c
  by_cases hcapital : 65 ≤ c.toNat ∧ c.toNat ≤ 90
  · rw [if_pos hcapital] at hnat
    rw [isBlank_of_letter (by omega) (by omega), isBlank_of_letter (by omega) (by omega)]
  · rw [if_neg hcapital] at hnat
    rw [Char.toNat_inj.1 hnat]

theorem trimList_map_lowerChar (cs : List Char) :
    trimList (cs.map lowerChar) = (trimList cs).map lowerChar := by
  have hblank : isBlank ∘ lowerChar = isBlank := funext isBlank_lowerChar
  simp only [trimList, trimEndList, trimStartList, List.dropWhile_map, ← List.map_reverse, hblank]

theorem lower_trim (s : String) : lower (trim s) = trim (lower s) := by
  rw [lower, trim, trim, lower, String.toList_ofList, String.toList_ofList, trimList_map_lowerChar]

end Text

/-! ## Looking names up -/

/-- The reader tries values in an order, looks for the small letters of the trimmed text
among the names of each, and reports a form of a text that it finds with none. -/
def LooksUp {α ε : Type} (names : α → List String) (order : List α) (form : String → String)
    (refusal : String → ε) (read : String → Except ε α) : Prop :=
  ∀ s, read s = match order.find? fun v => (names v).contains (lower (trim s)) with
    | some v => .ok v
    | none => .error (refusal (form s))

section

variable {α ε : Type} {names : α → List String} {order : List α} {form : String → String}
  {refusal : String → ε} {read : String → Except ε α}

theorem LooksUp.eq_ok_iff (h : LooksUp names order form refusal read) (hall : ∀ v, v ∈ order)
    (hapart : ∀ v w, ∀ name ∈ names v, name ∈ names w → v = w) (s : String) (v : α) :
    read s = .ok v ↔ lower (trim s) ∈ names v := by
  have hfind : order.find? (fun v => (names v).contains (lower (trim s))) = some v ↔
      (names v).contains (lower (trim s)) = true :=
    find?_eq_some_iff_of_unique hall fun v w hv hw =>
      hapart v w _ (List.contains_iff_mem.1 hv) (List.contains_iff_mem.1 hw)
  rw [h, ← List.contains_iff_mem, ← hfind]
  cases order.find? fun v => (names v).contains (lower (trim s)) <;> simp

theorem LooksUp.eq_of_eq_error (h : LooksUp names order form refusal read) {s : String} {e : ε}
    (he : read s = .error e) : e = refusal (form s) := by
  rw [h] at he
  split at he
  · cases he
  · exact (Except.error.inj he).symm

/-- It is enough that no two values share a name, and that what is reported has the same
small letters as the text and is its own form. -/
theorem readsNames_of_form {reports : String → String → Prop}
    (h : LooksUp names order form refusal read) (hall : ∀ v, v ∈ order)
    (hapart : ∀ v w, ∀ name ∈ names v, name ∈ names w → v = w)
    (hsame : ∀ s, lower (trim (form s)) = lower (trim s)) (hform : ∀ s, form (form s) = form s)
    (hreports : ∀ s, reports s (form s)) : ReadsNames names reports refusal read := by
  have hok := h.eq_ok_iff hall hapart
  constructor
  case ok_iff =>
    intro s v
    rw [hok]
    constructor
    · intro hmem
      exact ⟨trim s, lower (trim s), Text.trims_iff.2 rfl, Text.smallForm_iff.2 rfl, hmem⟩
    · rintro ⟨t, name, ht, hname, hmem⟩
      rwa [← Text.trims_iff.1 ht, ← Text.smallForm_iff.1 hname]
  case padded =>
    intro s front back hblank v
    rw [hok, hok, Text.trim_pad s hblank]
  case recased =>
    intro s t hletters v
    have hlower : lower s = lower t := beq_iff_eq.1 (Text.sameIgnoringCase_iff.2 hletters)
    rw [hok, hok, Text.lower_trim, Text.lower_trim, hlower]
  case refused =>
    intro s e he
    refine ⟨form s, h.eq_of_eq_error he, hreports s, ?_⟩
    cases hagain : read (form s) with
    | ok v =>
      -- It would have been read in the first place.
      have hv : read s = .ok v := (hok s v).2 (hsame s ▸ (hok (form s) v).1 hagain)
      cases hv.symm.trans he
    | error e' => rw [h.eq_of_eq_error hagain, hform]

end

/-! ## Orders and languages -/

theorem Mode.looksUp_parse : LooksUp aliases all trim .unsupportedMode parse := by
  intro s
  unfold parse
  cases all.find? fun m => m.aliases.contains (lower (trim s)) <;> rfl

theorem Mode.readsNames_parse : ReadsNames aliases Trims .unsupportedMode parse := by
  refine readsNames_of_form looksUp_parse ?_ ?_ ?_ Text.trim_trim Text.trims_trim
  · intro m
    cases m <;> decide
  · intro m m'
    cases m <;> cases m' <;> decide
  · intro s
    rw [Text.trim_trim]

namespace Language

theorem looksUp_parse : LooksUp aliases all normalise UnknownName.mk parse := by
  intro s
  unfold parse normalise
  cases all.find? fun l => l.aliases.contains (lower (trim s)) <;> rfl

theorem readsNames_parse :
    ReadsNames aliases (fun s text => ∃ t, Trims s t ∧ SmallForm t text) UnknownName.mk parse := by
  have hform : ∀ s, lower (trim (normalise s)) = normalise s := by
    intro s
    rw [normalise, ← Text.lower_trim, Text.trim_trim, Text.lower_lower]
  refine readsNames_of_form looksUp_parse mem_all ?_ hform hform ?_
  · intro l l'
    cases l <;> cases l' <;> decide
  · intro s
    exact ⟨trim s, Text.trims_trim s, Text.smallForm_iff.2 rfl⟩

/-- What an extension is read as, if it is read as a name, is its own language. -/
theorem eq_of_parse_extension (l l' : Language) :
    ∀ e ∈ l.extensions, parse e = .ok l' → l = l' := by
  cases l <;> cases l' <;> decide

theorem eq_of_ofExtension_of_parse {text : String} {l l' : Language} (hext : ofExtension text = some l)
    (hname : parse text = .ok l') : l = l' := by
  obtain ⟨e, he, hletters⟩ := ofExtension_eq_some_iff.1 hext
  exact eq_of_parse_extension l l' e he ((readsNames_parse.recased e text hletters l').1 hname)

end Language

/-- **Names are read whatever their padding and case.** An order or a language is read
just if the text, without the blanks around it and in small ASCII letters, is one of its
names; so blanks around the text and the case of its ASCII letters do not matter. A text
that is refused is reported without the blanks around it, and for languages in small
letters, and what is reported is refused with the same report. An extension that is also
read as a name is one of the same language. -/
theorem names_read_in_any_form :
    ReadsNames Mode.aliases Trims Error.unsupportedMode Mode.parse ∧
    ReadsNames Language.aliases (fun s text => ∃ t, Trims s t ∧ SmallForm t text)
      Language.UnknownName.mk Language.parse ∧
    ∀ text l l', Language.ofExtension text = some l → Language.parse text = .ok l' → l = l' :=
  ⟨Mode.readsNames_parse, Language.readsNames_parse,
    fun _ _ _ => Language.eq_of_ofExtension_of_parse⟩

/-- A name in capitals between blanks, refused texts with a blank and a letter outside
ASCII within, and an extension in mixed case. -/
theorem names_between_blanks :
    Mode.parse ("\u3000" ++ "Depth-FIRST" ++ "\t") = .ok .depthFirst ∧
    Mode.parse " In Order\n" = .error (.unsupportedMode "In Order") ∧
    Mode.parse "In Order" = .error (.unsupportedMode "In Order") ∧
    Language.parse "\u00A0ÜX " = .error ⟨"Üx"⟩ ∧ Language.parse "Üx" = .error ⟨"Üx"⟩ ∧
    ∀ l, Language.parse "tSx" = .ok l → .typescript = l := by
  obtain ⟨hmode, hlanguage, hextension⟩ := names_read_in_any_form
  have hletters : List.Forall₂ SameLetter "depth-first".toList "Depth-FIRST".toList :=
    Text.sameIgnoringCase_iff.1 (by decide)
  have hcapitals : Mode.parse "Depth-FIRST" = .ok .depthFirst :=
    (hmode.recased "depth-first" "Depth-FIRST" hletters _).2 rfl
  have hext : Language.ofExtension "tSx" = some .typescript :=
    Language.ofExtension_eq_some_iff.2
      ⟨"tsx", by decide, Text.sameIgnoringCase_iff.1 (by decide)⟩
  have hblank : ∀ c ∈ "\u3000".toList ++ "\t".toList, isBlank c = true := List.all_eq_true.1 rfl
  have horder : Mode.parse " In Order\n" = .error (.unsupportedMode "In Order") := rfl
  have hforeign : Language.parse "\u00A0ÜX " = .error ⟨"Üx"⟩ := rfl
  obtain ⟨text, htext, -, horderAgain⟩ := hmode.refused _ _ horder
  obtain ⟨text', htext', -, hforeignAgain⟩ := hlanguage.refused _ _ hforeign
  obtain rfl := Error.unsupportedMode.inj htext
  obtain rfl := Language.UnknownName.mk.inj htext'
  exact ⟨(hmode.padded "Depth-FIRST" "\u3000" "\t" hblank _).2 hcapitals, horder, horderAgain,
    hforeign, hforeignAgain, fun l => hextension "tSx" .typescript l hext⟩

end TreeExplorer
