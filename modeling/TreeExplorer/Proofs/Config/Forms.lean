/-
The forms of a configuration as JSON. Reading goes through the values of the four
fields, wherever they come from: `ofValues_eq_ok_iff` says which values make up which
configuration. That only these values count, that an array is an object without names
and that what is written reads back are then facts about looking values up.
-/
import TreeExplorer.Config.Basic
import TreeExplorer.Proofs.Facts
import TreeExplorer.Proofs.Json.RoundTrip

namespace TreeExplorer

/-! ## Looking up fields -/

namespace Json

theorem field?_cons (f : String × Json) (fields : List (String × Json)) (name : String) :
    field? (f :: fields) name = if name = f.1 then some f.2 else field? fields name := by
  rw [field?, List.lookup_cons]
  by_cases h : name = f.1
  · rw [if_pos h, beq_iff_eq.2 h]
  · rw [if_neg h, beq_eq_false_iff_ne.2 h]
    rfl

theorem field?_put (name : String) (v : Json) (fields : List (String × Json)) (x : String) :
    field? (put name v fields) x = if x = name then some v else field? fields x := by
  induction fields with
  | nil => exact field?_cons (name, v) [] x
  | cons f rest ih =>
    rw [put]
    by_cases hf : f.1 = name
    · rw [if_pos hf, field?_cons, field?_cons, hf]
      split <;> rfl
    · rw [if_neg hf, field?_cons, field?_cons, ih]
      by_cases hx : x = f.1
      · rw [if_pos hx, if_pos hx, if_neg (hx ▸ hf)]
      · rw [if_neg hx, if_neg hx]

/-- Where each name stands once, the order of fields does not matter. -/
theorem field?_eq_of_perm {fields fields' : List (String × Json)} (h : fields.Perm fields')
    (hnames : (fields.map (·.1)).Nodup) (name : String) :
    field? fields name = field? fields' name := by
  induction h with
  | nil => rfl
  | cons f _ ih => rw [field?_cons, field?_cons, ih (List.nodup_cons.1 hnames).2]
  | swap f g rest =>
    have hne : g.1 ≠ f.1 := fun heq => (List.nodup_cons.1 hnames).1 (List.mem_cons.2 (.inl heq))
    rw [field?_cons, field?_cons, field?_cons, field?_cons]
    by_cases hg : name = g.1
    · rw [if_pos hg, if_neg (hg ▸ hne), if_pos hg]
    · rw [if_neg hg, if_neg hg]
  | trans h₁ _ ih₁ ih₂ =>
    exact (ih₁ hnames).trans (ih₂ ((h₁.map _).nodup_iff.1 hnames))

end Json

namespace Config

/-! ## Values of fields -/

/-- A log filter is a string. -/
def SaysFilter (v : Json) (filter : String) : Prop :=
  v = .str filter

/-- A log format is its name, or an object with nothing under that name alone. -/
def SaysFormat (v : Json) (format : Log.Format) : Prop :=
  v = .str format.name ∨ v = .obj [(format.name, .null)]

/-- A limit is a whole number of 32 bits, and none is null. -/
def SaysLimit (v : Json) (limit : Option Nat) : Prop :=
  v = .null ∧ limit = none ∨ ∃ n : Nat, n ≤ maxWord ∧ v = .int n ∧ limit = some n

/-- What a field has: what its value says, or the default if there is no value. -/
def Given {α : Type} (fallback : α) (Says : Json → α → Prop) : Option Json → α → Prop
  | none, x => x = fallback
  | some v, x => Says v x

theorem readFilter_eq_ok_iff {v : Json} {filter : String} :
    readFilter v = .ok filter ↔ SaysFilter v filter := by
  cases v <;> simp [readFilter, SaysFilter]

theorem readFormatName_eq_ok_iff {text : String} {format : Log.Format} :
    readFormatName text = .ok format ↔ text = format.name := by
  unfold readFormatName
  constructor
  · intro h
    split at h
    next f hf =>
      obtain rfl := Except.ok.inj h
      unfold Log.Format.ofName? at hf
      exact (beq_iff_eq.1 (List.find?_some hf :)).symm
    next => cases h
  · rintro rfl
    cases format <;> rfl

theorem readFormat_eq_ok_iff {v : Json} {format : Log.Format} :
    readFormat v = .ok format ↔ SaysFormat v format := by
  unfold readFormat SaysFormat
  split
  next s => simp [readFormatName_eq_ok_iff]
  next name content =>
    cases hname : readFormatName name with
    | error e =>
      have hne : name ≠ format.name := fun heq => by
        rw [readFormatName_eq_ok_iff.2 heq] at hname
        cases hname
      simp [bind, Except.bind, hne]
    | ok f =>
      obtain rfl := readFormatName_eq_ok_iff.1 hname
      have hinj : f = format ↔ f.name = format.name := by
        cases f <;> cases format <;> decide
      cases content <;> simp [bind, Except.bind, hinj]
  next fields hfields =>
    simp only [reduceCtorEq, false_or, false_iff, Json.obj.injEq]
    exact hfields _ _
  next hstr _ hobj =>
    simp only [reduceCtorEq, false_iff, not_or]
    exact ⟨hstr _, hobj _⟩

theorem readLimit_eq_ok_iff {v : Json} {limit : Option Nat} :
    readLimit v = .ok limit ↔ SaysLimit v limit := by
  unfold readLimit SaysLimit
  cases v with
  | null => simp [eq_comm]
  | int i =>
    simp only [reduceCtorEq, false_and, false_or, Json.int.injEq]
    by_cases h : 0 ≤ i ∧ i ≤ (maxWord : Int)
    · rw [if_pos h]
      constructor
      · intro heq
        obtain rfl := Except.ok.inj heq
        exact ⟨i.toNat, by omega, by omega, rfl⟩
      · rintro ⟨n, -, rfl, rfl⟩
        rfl
    · rw [if_neg h]
      simp only [reduceCtorEq, false_iff]
      rintro ⟨n, hn, rfl, -⟩
      exact h ⟨by omega, by omega⟩
  | bool b => simp
  | fraction d => simp
  | str s => simp
  | arr items => simp
  | obj fields => simp

theorem exists_saysLimit_iff {v : Json} :
    (∃ limit, SaysLimit v limit) ↔ v = .null ∨ ∃ i : Int, 0 ≤ i ∧ i ≤ 4294967295 ∧ v = .int i := by
  have hword : maxWord = 4294967295 := rfl
  constructor
  · rintro ⟨limit, ⟨rfl, -⟩ | ⟨n, hn, rfl, -⟩⟩
    · exact .inl rfl
    · exact .inr ⟨n, by omega, by omega, rfl⟩
  · rintro (rfl | ⟨i, hpos, hle, rfl⟩)
    · exact ⟨none, .inl ⟨rfl, rfl⟩⟩
    · obtain ⟨n, rfl⟩ := Int.eq_ofNat_of_zero_le hpos
      exact ⟨some n, .inr ⟨n, by omega, rfl, rfl⟩⟩

/-! ## Values of a configuration -/

/-- The configuration has what the values of its fields say. -/
structure Holds (filter format limit depth : Option Json) (c : Config) : Prop where
  logFilter : Given ({} : Config).logFilter SaysFilter filter c.logFilter
  logFormat : Given ({} : Config).logFormat SaysFormat format c.logFormat
  matchLimit : Given ({} : Config).matchLimit SaysLimit limit c.matchLimit
  maxStartDepth : Given ({} : Config).maxStartDepth SaysLimit depth c.maxStartDepth

theorem orElse_eq_ok_iff {α : Type} {fallback : α} {read : Json → Except Fault α}
    {Says : Json → α → Prop} (h : ∀ {v x}, read v = .ok x ↔ Says v x) {value : Option Json} {x : α} :
    orElse fallback read value = .ok x ↔ Given fallback Says value x := by
  cases value with
  | none => simp [orElse, Given, eq_comm]
  | some v => exact h

/-- Values make up just the configuration that has what they say. -/
theorem ofValues_eq_ok_iff {filter format limit depth : Option Json} {c : Config} :
    ofValues filter format limit depth = .ok c ↔ Holds filter format limit depth c := by
  simp only [ofValues, bind_eq_ok_iff, orElse_eq_ok_iff readFilter_eq_ok_iff,
    orElse_eq_ok_iff readFormat_eq_ok_iff, orElse_eq_ok_iff readLimit_eq_ok_iff]
  constructor
  · rintro ⟨filter, hfilter, format, hformat, limit, hlimit, depth, hdepth, h⟩
    obtain rfl := Except.ok.inj h
    exact ⟨hfilter, hformat, hlimit, hdepth⟩
  · intro h
    exact ⟨_, h.logFilter, _, h.logFormat, _, h.matchLimit, _, h.maxStartDepth, rfl⟩

/-! ## Objects -/

/-- The configuration has what the fields of an object say. -/
def HoldsFields (fields : List (String × Json)) (c : Config) : Prop :=
  c.Holds (Json.field? fields "log_filter") (Json.field? fields "log_format")
    (Json.field? fields "match_limit") (Json.field? fields "max_start_depth")

theorem ofJson_obj_eq_ok_iff {fields : List (String × Json)} {c : Config} :
    ofJson (.obj fields) = .ok c ↔ c.HoldsFields fields :=
  ofValues_eq_ok_iff

theorem ofJson_obj_congr {fields fields' : List (String × Json)}
    (h : ∀ name ∈ fieldNames, Json.field? fields name = Json.field? fields' name) :
    ofJson (.obj fields) = ofJson (.obj fields') := by
  simp only [ofJson, ofFields, h "log_filter" (by decide), h "log_format" (by decide),
    h "match_limit" (by decide), h "max_start_depth" (by decide)]

/-- In an object that can be read, a limit may be replaced by just the values that are
limits. -/
theorem exists_ofJson_put_iff {fields : List (String × Json)} {c : Config}
    (h : ofJson (.obj fields) = .ok c) {name : String}
    (hname : name = "match_limit" ∨ name = "max_start_depth") (v : Json) :
    (∃ c', ofJson (.obj (Json.put name v fields)) = .ok c') ↔ ∃ limit, SaysLimit v limit := by
  obtain ⟨hfilter, hformat, hlimit, hdepth⟩ := ofJson_obj_eq_ok_iff.1 h
  simp only [ofJson_obj_eq_ok_iff, HoldsFields, Json.field?_put]
  rcases hname with rfl | rfl
  · constructor
    · rintro ⟨c', h'⟩
      exact ⟨c'.matchLimit, h'.matchLimit⟩
    · rintro ⟨limit, hv⟩
      exact ⟨{ c with matchLimit := limit }, hfilter, hformat, hv, hdepth⟩
  · constructor
    · rintro ⟨c', h'⟩
      exact ⟨c'.maxStartDepth, h'.maxStartDepth⟩
    · rintro ⟨limit, hv⟩
      exact ⟨{ c with maxStartDepth := limit }, hfilter, hformat, hlimit, hv⟩

/-! ## Arrays -/

theorem ofJson_arr_of_length_le {items : List Json} (h : items.length ≤ 4) :
    ofJson (.arr items) = ofJson (.obj (fieldNames.zip items)) := by
  have harr : ofJson (.arr items) = ofValues items[0]? items[1]? items[2]? items[3]? := by
    simp [ofJson, h]
  rw [harr]
  match items, h with
  | [], _ => rfl
  | [_], _ => rfl
  | [_, _], _ => rfl
  | [_, _, _], _ => rfl
  | [_, _, _, _], _ => rfl

theorem exists_error_of_length_lt {items : List Json} (h : 4 < items.length) :
    ∃ e, ofJson (.arr items) = .error e := by
  rw [ofJson]
  cases ofValues items[0]? items[1]? items[2]? items[3]? with
  | error e => exact ⟨e, rfl⟩
  | ok c =>
    refine ⟨.length items.length, ?_⟩
    simp [bind, Except.bind, Nat.not_le.2 h]

/-! ## What is written -/

/-- The limits are numbers of 32 bits. -/
structure InRange (c : Config) : Prop where
  matchLimit : ∀ n ∈ c.matchLimit, n ≤ maxWord
  maxStartDepth : ∀ n ∈ c.maxStartDepth, n ≤ maxWord

theorem whole_limitJson (limit : Option Nat) : (limitJson limit).Whole := by
  cases limit with
  | none => exact .null
  | some n => exact .int n

theorem whole_toJson (c : Config) : c.toJson.Whole := by
  refine .obj fun f hf => ?_
  simp only [List.mem_cons, List.not_mem_nil, or_false] at hf
  rcases hf with rfl | rfl | rfl | rfl
  · exact .str _
  · exact .str _
  · exact whole_limitJson _
  · exact whole_limitJson _

theorem saysLimit_limitJson {limit : Option Nat} (h : ∀ n ∈ limit, n ≤ maxWord) :
    SaysLimit (limitJson limit) limit := by
  cases limit with
  | none => exact .inl ⟨rfl, rfl⟩
  | some n => exact .inr ⟨n, h n rfl, rfl, rfl⟩

theorem ofJson_toJson {c : Config} (h : c.InRange) : ofJson c.toJson = .ok c :=
  ofJson_obj_eq_ok_iff.2
    ⟨rfl, .inl rfl, saysLimit_limitJson h.matchLimit, saysLimit_limitJson h.maxStartDepth⟩

theorem settled_limitJson {limit : Option Nat} (h : ∀ n ∈ limit, n ≤ maxWord) :
    (limitJson limit).settled = limitJson limit := by
  cases limit with
  | none => simp [limitJson, Json.settled]
  | some n =>
    have hn : n ≤ 4294967295 := h n rfl
    rw [limitJson, Json.nat, Json.settled, if_pos ⟨by omega, by omega⟩]

/-- Nothing of it is lost where whole numbers have 64 bits. -/
theorem settled_toJson {c : Config} (h : c.InRange) : c.toJson.settled = c.toJson := by
  simp [toJson, Json.settled, Json.settledFields, Json.put, settled_limitJson h.matchLimit,
    settled_limitJson h.maxStartDepth]

/-- **A configuration reads back, and its two forms agree.** Every configuration is
read back from its own text. Of an object only the values of the four fields count,
neither other fields nor the order; it is read as the configuration that has what those
values say and the default where there is none, and a limit is accepted if it is null or
a whole number of 32 bits and not otherwise. An array of up to four values is read as
the object that gives them to the fields in their order, and a longer one is refused. -/
theorem ofJson_forms_agree :
    (∀ c : Config, c.InRange →
      ∃ v, Json.parse c.toJson.text = some v ∧ v.settled = v ∧ ofJson v = .ok c) ∧
    (∀ fields fields', (∀ name ∈ fieldNames, Json.field? fields name = Json.field? fields' name) →
      ofJson (.obj fields) = ofJson (.obj fields')) ∧
    (∀ fields name v, name ∉ fieldNames →
      ofJson (.obj (Json.put name v fields)) = ofJson (.obj fields)) ∧
    (∀ fields fields', fields.Perm fields' → (fields.map (·.1)).Nodup →
      ofJson (.obj fields) = ofJson (.obj fields')) ∧
    (∀ fields c, ofJson (.obj fields) = .ok c ↔ c.HoldsFields fields) ∧
    (∀ fields c, ofJson (.obj fields) = .ok c →
      ∀ name, name = "match_limit" ∨ name = "max_start_depth" → ∀ v,
        (∃ c', ofJson (.obj (Json.put name v fields)) = .ok c') ↔
          v = .null ∨ ∃ i : Int, 0 ≤ i ∧ i ≤ 4294967295 ∧ v = .int i) ∧
    (∀ items : List Json, items.length ≤ 4 →
      ofJson (.arr items) = ofJson (.obj (fieldNames.zip items))) ∧
    (∀ items : List Json, 4 < items.length → ∃ e, ofJson (.arr items) = .error e) := by
  refine ⟨?_, fun _ _ => ofJson_obj_congr, ?_, ?_, fun _ _ => ofJson_obj_eq_ok_iff, ?_,
    fun _ => ofJson_arr_of_length_le, fun _ => exists_error_of_length_lt⟩
  · intro c h
    exact ⟨c.toJson, c.whole_toJson.parse_text, settled_toJson h, ofJson_toJson h⟩
  · intro fields name v hname
    refine ofJson_obj_congr fun x hx => ?_
    have hne : x ≠ name := fun heq => hname (heq ▸ hx)
    rw [Json.field?_put, if_neg hne]
  · intro fields fields' hperm hnames
    exact ofJson_obj_congr fun x _ => Json.field?_eq_of_perm hperm hnames x
  · intro fields c h name hname v
    rw [exists_ofJson_put_iff h hname, exists_saysLimit_iff]

/-- A filter of characters that are escaped, and the largest limit. Three values are
read alike as an array and as an object with the fields turned round and another one
besides; one limit more would be too large. -/
theorem ofJson_forms_escaped :
    let c : Config := ⟨"\"\\\n\u0001é", .json, some 4294967295, none⟩
    let values : List Json := [.str "debug", .obj [("json", .null)], .nat 0]
    let fields : List (String × Json) := [("match_limit", .nat 0), ("colour", .arr values),
      ("log_format", .obj [("json", .null)]), ("log_filter", .str "debug")]
    c.InRange ∧
    (∃ v, Json.parse c.toJson.text = some v ∧ v.settled = v ∧ ofJson v = .ok c) ∧
    ofJson (.arr values) = ofJson (.obj fields) ∧
    ofJson (.obj fields) = .ok ⟨"debug", .json, some 0, none⟩ ∧
    (¬∃ c', ofJson (.obj (Json.put "match_limit" (.int 4294967296) fields)) = .ok c') ∧
    ∃ e, ofJson (.arr [.str "", .str "json", .null, .null, .null]) = .error e := by
  intro c values fields
  obtain ⟨hback, hvalues, -, -, hholds, hlimit, harray, hlonger⟩ := ofJson_forms_agree
  have hrange : c.InRange := ⟨by decide, by decide⟩
  have hread : ofJson (.obj fields) = .ok ⟨"debug", .json, some 0, none⟩ :=
    (hholds fields _).2 ⟨rfl, .inr rfl, .inr ⟨0, by decide, rfl, rfl⟩, rfl⟩
  refine ⟨hrange, hback c hrange, ?_, hread, ?_, hlonger _ (by decide)⟩
  · rw [harray values (by decide)]
    refine hvalues _ fields fun name hname => ?_
    simp only [fieldNames, List.mem_cons, List.not_mem_nil, or_false] at hname
    rcases hname with rfl | rfl | rfl | rfl <;> rfl
  · rw [hlimit fields _ hread "match_limit" (.inl rfl)]
    rintro (h | ⟨i, -, hle, h⟩)
    · cases h
    · cases h
      exact absurd hle (by decide)

end Config

end TreeExplorer
