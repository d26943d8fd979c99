/-
The language of a file, told from its path. No text is an extension of two languages
(`HasExtension.unique`), so it does not matter in which order languages are tried, and
only the last component of a path counts.
-/
import TreeExplorer.Language
import TreeExplorer.Proofs.Facts
import TreeExplorer.Proofs.Path.FileName
import TreeExplorer.Proofs.Text.Ascii

namespace TreeExplorer.Language

open TreeExplorer.Path (said EndsIn Doubles)

/-- The text is one of the language's extensions but for the case of ASCII letters. -/
def HasExtension (l : Language) (ext : String) : Prop :=
  ∃ e ∈ l.extensions, List.Forall₂ Text.SameLetter e.toList ext.toList

/-! ## Extensions -/

theorem any_extensions_iff {l : Language} {ext : String} :
    (l.extensions.any fun e => Text.sameIgnoringCase e ext) = true ↔ l.HasExtension ext := by
  simp only [List.any_eq_true, Text.sameIgnoringCase_iff, HasExtension]

theorem eq_of_lower_eq (l l' : Language) :
    ∀ e ∈ l.extensions, ∀ e' ∈ l'.extensions, Text.lower e = Text.lower e' → l = l' := by
  cases l <;> cases l' <;> decide

theorem HasExtension.unique {l l' : Language} {ext : String} (h : l.HasExtension ext)
    (h' : l'.HasExtension ext) : l = l' := by
  obtain ⟨e, he, hsame⟩ := h
  obtain ⟨e', he', hsame'⟩ := h'
  have hlower : Text.lower e = Text.lower ext := beq_iff_eq.1 (Text.sameIgnoringCase_iff.2 hsame)
  have hlower' : Text.lower e' = Text.lower ext := beq_iff_eq.1 (Text.sameIgnoringCase_iff.2 hsame')
  exact eq_of_lower_eq l l' e he e' he' (hlower.trans hlower'.symm)

/-- Whatever the order in which languages are tried, the one that has the extension is
found. -/
theorem find?_eq_some_iff {order : List Language} (hall : ∀ l, l ∈ order) {ext : String}
    {l : Language} :
    order.find? (fun l => l.extensions.any fun e => Text.sameIgnoringCase e ext) = some l ↔
      l.HasExtension ext := by
  have hunique : ∀ l l' : Language, (l.extensions.any fun e => Text.sameIgnoringCase e ext) = true →
      (l'.extensions.any fun e => Text.sameIgnoringCase e ext) = true → l = l' :=
    fun _ _ h h' => (any_extensions_iff.1 h).unique (any_extensions_iff.1 h')
  rw [find?_eq_some_iff_of_unique hall hunique, any_extensions_iff]

theorem mem_all (l : Language) : l ∈ all := by
  cases l <;> decide

theorem ofExtension_eq_some_iff {ext : String} {l : Language} :
    ofExtension ext = some l ↔ l.HasExtension ext :=
  find?_eq_some_iff mem_all

/-! ## Paths -/

theorem ofPath_eq_some_iff {path : String} {l : Language} :
    ofPath path = some l ↔ ∃ stem ext, EndsIn path.toList (stem ++ '.' :: ext.toList) ∧
      stem ++ '.' :: ext.toList ≠ ['.', '.'] ∧ stem ≠ [] ∧ '.' ∉ ext.toList ∧ l.HasExtension ext := by
  rw [ofPath, Option.bind_eq_some_iff]
  constructor
  · rintro ⟨ext, hext, hl⟩
    obtain ⟨stem, hends, hup, hstem, hdot⟩ := Path.extension_eq_some_iff.1 hext
    exact ⟨stem, ext, hends, hup, hstem, hdot, ofExtension_eq_some_iff.1 hl⟩
  · rintro ⟨stem, ext, hends, hup, hstem, hdot, hl⟩
    exact ⟨ext, Path.extension_eq_some_iff.2 ⟨stem, hends, hup, hstem, hdot⟩,
      ofExtension_eq_some_iff.2 hl⟩

theorem ofPath_congr {path path' : String}
    (h : (said path.toList).getLast? = (said path'.toList).getLast?) :
    ofPath path = ofPath path' := by
  rw [ofPath, ofPath, Path.extension_congr h]

theorem ofPath_append_of_idle (path : String) {after : String} (h : Path.Idle after.toList) :
    ofPath (path ++ after) = ofPath path := by
  refine ofPath_congr ?_
  rw [String.toList_append, h.said_append]

/-- A directory in front does not count where there is something behind it. -/
theorem ofPath_below (directory : String) {path : String} (h : said path.toList ≠ []) :
    ofPath (directory ++ "/" ++ path) = ofPath path := by
  refine ofPath_congr ?_
  have hsplit : (directory ++ "/" ++ path).toList = directory.toList ++ '/' :: path.toList := by simp
  rw [hsplit, Path.said_append, List.getLast?_append, List.getLast?_eq_some_getLast h]
  rfl

/-- A name with its only dot in front has no extension. -/
theorem ofPath_of_dotfile {path : String} {ext : List Char} (h : EndsIn path.toList ('.' :: ext))
    (hext : '.' ∉ ext) : ofPath path = none := by
  have hnone : Path.extensionList ('.' :: ext) = none := by
    refine Option.eq_none_iff_forall_ne_some.2 fun e he => ?_
    obtain ⟨stem, hsplit, hstem, -⟩ := Path.extensionList_eq_some_iff.1 he
    -- The dot in front would belong to the stem, and the one behind it to the rest.
    obtain ⟨c, stem, rfl⟩ := List.exists_cons_of_ne_nil hstem
    refine hext ?_
    rw [(List.cons.inj hsplit).2]
    simp
  have hname : ('.' :: ext) ≠ ['.', '.'] := by
    rintro heq
    exact hext (by simp [(List.cons.inj heq).2])
  rw [ofPath, Path.extension, Path.fileNameList_eq_some_iff.2 ⟨h, hname⟩, Option.bind_some, hnone]
  rfl

/-- **The last component tells the language.** A path leads to a language just if its
last component that says something is not `..` and has a stem and behind its last dot
one of the language's extensions, in any case. Hence doubled separators, a separator or
a dot at the end and directories in front of a path that says something do not matter; a
name with its only dot in front tells nothing; and no text is an extension of two
languages, so that they may be tried in any order. -/
theorem ofPath_tells_language (p : String) :
    (∀ l, ofPath p = some l ↔ ∃ stem ext, EndsIn p.toList (stem ++ '.' :: ext.toList) ∧
      stem ++ '.' :: ext.toList ≠ ['.', '.'] ∧ stem ≠ [] ∧ '.' ∉ ext.toList ∧
      l.HasExtension ext) ∧
    (∀ q : String, Doubles p.toList q.toList → ofPath q = ofPath p) ∧
    ofPath (p ++ "/") = ofPath p ∧ ofPath (p ++ "/.") = ofPath p ∧
    ((∃ c ∈ Text.cut (· == '/') p.toList, c ≠ [] ∧ c ≠ ['.']) →
      ∀ directory : String, ofPath (directory ++ "/" ++ p) = ofPath p) ∧
    (∀ ext, EndsIn p.toList ('.' :: ext) → '.' ∉ ext → ofPath p = none) ∧
    (∀ ext l l', HasExtension l ext → HasExtension l' ext → l = l') ∧
    ∀ order : List Language, (∀ l, l ∈ order) → ∀ ext,
      order.find? (fun l => l.extensions.any fun e => Text.sameIgnoringCase e ext) =
        ofExtension ext := by
  refine ⟨fun _ => ofPath_eq_some_iff, fun q h => ofPath_congr ?_, ?_, ?_, ?_,
    fun _ => ofPath_of_dotfile, fun _ _ _ => HasExtension.unique, ?_⟩
  · exact congrArg List.getLast? (h.said_eq [])
  · exact ofPath_append_of_idle p (.slash .nil)
  · exact ofPath_append_of_idle p (.dot .nil)
  · intro h directory
    exact ofPath_below directory (Path.said_ne_nil_iff.2 h)
  · intro order hall ext
    ext l
    rw [find?_eq_some_iff hall, ofExtension_eq_some_iff]

/-- A name with two dots and capitals before idle separators, with a directory in front;
and a name that is a dot and an extension. -/
theorem ofPath_declaration_file :
    ofPath "a.py///main.d.tSX/./" = some .typescript ∧
    ofPath "a.py///main.d.tSX" = some .typescript ∧ ofPath "a.py//.rs" = none := by
  have hmain : ofPath "main.d.tSX" = some .typescript := by
    refine ((ofPath_tells_language "main.d.tSX").1 _).2
      ⟨"main.d".toList, "tSX", ⟨[], [], rfl, .inl rfl, .nil, by decide, by decide, by decide⟩,
        by decide, by decide, by decide, "tsx", by decide, ?_⟩
    exact Text.sameIgnoringCase_iff.1 (by decide)
  have hbelow : ofPath "a.py///main.d.tSX" = some .typescript := by
    have hfront := (ofPath_tells_language "main.d.tSX").2.2.2.2.1 ⟨"main.d.tSX".toList, by decide⟩
    exact (hfront "a.py//").trans hmain
  refine ⟨?_, hbelow, ?_⟩
  · have hslash := (ofPath_tells_language "a.py///main.d.tSX/.").2.2.1
    have hdot := (ofPath_tells_language "a.py///main.d.tSX").2.2.2.1
    exact hslash.trans (hdot.trans hbelow)
  · refine (ofPath_tells_language "a.py//.rs").2.2.2.2.2.1 ['r', 's'] ?_ (by decide)
    exact ⟨"a.py//".toList, [], rfl, .inr ⟨"a.py/".toList, rfl⟩, .nil, by decide, by decide,
      by decide⟩

end TreeExplorer.Language
