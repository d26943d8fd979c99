/-
Records as lines of JSON. The text of a record is a value without fractions, so
it has no control characters and reads back (`Json.Whole`); a newline that is
written therefore ends a record and nothing else does, whatever the kinds, the
names and the texts hold.
-/
import Mathlib.Data.List.Forall2
import TreeExplorer.Proofs.Json.RoundTrip
import TreeExplorer.Proofs.Query.Binding
import TreeExplorer.Proofs.Record.Writer
import TreeExplorer.Proofs.Text.Cut
import TreeExplorer.Record.Reader

namespace TreeExplorer

/-- The captures stand in the order of their names, each name once. -/
def MatchRecord.Ordered (m : MatchRecord) : Prop :=
  m.captures.Pairwise fun a b => a.1 < b.1

/-- The object has a text just where the record has one. -/
def NodeRecord.ShowsText (r : NodeRecord) (v : Json) : Prop :=
  (v.get? "text").isSome = r.text.isSome

/-- The shape of a record's object: a text just where there is one to show, and
the captures under their names, which increase. -/
def Record.Shapes (v : Json) : Record → Prop
  | .node r => r.ShowsText v
  | .found m => ∃ fields, v.get? "captures" = some (.obj fields) ∧
      (fields.map (·.1)).Pairwise (· < ·) ∧
      List.Forall₂ (fun f c => f.1 = c.1 ∧ NodeRecord.ShowsText c.2 f.2) fields m.captures

/-- The line is read as JSON, and the value as the record. -/
def Record.ReadsFrom (line : List Char) (r : Record) : Prop :=
  ∃ v, Json.parse (String.ofList line) = some v ∧ Record.ofJson? v = some r ∧ r.Shapes v

/-! ## Values of records -/

theorem Position.whole_json (p : Position) : p.json.Whole := by
  refine .obj fun f hf => ?_
  simp only [List.mem_cons, List.not_mem_nil, or_false] at hf
  rcases hf with rfl | rfl <;> exact .int _

theorem NodeRecord.whole_json (r : NodeRecord) : r.json.Whole := by
  refine .obj fun f hf => ?_
  rcases List.mem_append.1 hf with hf | hf
  · simp only [List.mem_cons, List.not_mem_nil, or_false] at hf
    rcases hf with rfl | rfl | rfl | rfl | rfl | rfl
    · exact .str _
    · exact .bool _
    · exact r.start.whole_json
    · exact r.stop.whole_json
    · exact .int _
    · exact .int _
  · cases htext : r.text with
    | none => simp [htext] at hf
    | some t =>
      simp only [htext, List.mem_singleton] at hf
      subst hf
      exact .str t

theorem MatchRecord.whole_json (m : MatchRecord) : m.json.Whole := by
  refine .obj fun f hf => ?_
  simp only [List.mem_cons, List.not_mem_nil, or_false] at hf
  rcases hf with rfl | rfl
  · exact .int _
  · refine .obj fun g hg => ?_
    obtain ⟨c, -, rfl⟩ := List.mem_map.1 hg
    exact c.2.whole_json

theorem Record.whole_json (r : Record) : r.json.Whole := by
  cases r with
  | node r => exact r.whole_json
  | found m => exact m.whole_json

theorem NodeRecord.ofJson?_json (r : NodeRecord) : NodeRecord.ofJson? r.json = some r := by
  obtain ⟨kind, named, start, stop, startByte, endByte, text⟩ := r
  cases text with
  | none => rfl
  | some t => rfl

theorem NodeRecord.showsText_json (r : NodeRecord) : r.ShowsText r.json := by
  obtain ⟨kind, named, start, stop, startByte, endByte, text⟩ := r
  cases text with
  | none => rfl
  | some t => rfl

theorem mapM_ofJson?_json (captures : List (String × NodeRecord)) :
    (captures.map fun c => (c.1, c.2.json)).mapM
      (fun c => do return (c.1, ← NodeRecord.ofJson? c.2)) = some captures := by
  induction captures with
  | nil => rfl
  | cons c rest ih =>
    rw [List.map_cons, List.mapM_cons, ih, NodeRecord.ofJson?_json]
    rfl

theorem MatchRecord.ofJson?_json (m : MatchRecord) : MatchRecord.ofJson? m.json = some m := by
  have hread : MatchRecord.ofJson? m.json = do
      return ⟨m.pattern, ← (m.captures.map fun c => (c.1, c.2.json)).mapM
        fun c => do return (c.1, ← NodeRecord.ofJson? c.2)⟩ := rfl
  rw [hread, mapM_ofJson?_json]
  rfl

/-- A record is read back from its object, as a record of its kind. -/
theorem Record.ofJson?_json (r : Record) : Record.ofJson? r.json = some r := by
  cases r with
  | node r => simp [Record.ofJson?, Record.json, NodeRecord.ofJson?_json]
  | found m =>
    have hnode : NodeRecord.ofJson? m.json = none := rfl
    simp [Record.ofJson?, Record.json, hnode, MatchRecord.ofJson?_json]

theorem Record.shapes_json {r : Record} (h : ∀ m, r = .found m → m.Ordered) : r.Shapes r.json := by
  cases r with
  | node r => exact r.showsText_json
  | found m =>
    refine ⟨m.captures.map fun c => (c.1, c.2.json), ?_, ?_, ?_⟩
    · rfl
    · rw [List.map_map, List.pairwise_map]
      exact h m rfl
    · rw [List.forall₂_map_left_iff, List.forall₂_same]
      exact fun c _ => ⟨rfl, c.2.showsText_json⟩

/-! ## The order of captures -/

namespace MatchRecord

theorem place_perm {α : Type} (entry : String × α) (l : List (String × α)) :
    (place entry l).Perm (entry :: l) := by
  induction l with
  | nil => exact .refl _
  | cons e rest ih =>
    unfold place
    split
    · exact .refl _
    · exact (ih.cons e).trans (.swap entry e rest)

theorem pairwise_place {α : Type} {entry : String × α} {l : List (String × α)}
    (h : l.Pairwise fun a b => a.1 < b.1) (hnew : ∀ e ∈ l, e.1 ≠ entry.1) :
    (place entry l).Pairwise fun a b => a.1 < b.1 := by
  induction l with
  | nil => exact List.pairwise_singleton _ entry
  | cons e rest ih =>
    obtain ⟨hlt, hrest⟩ := List.pairwise_cons.1 h
    unfold place
    split
    next hbefore =>
      refine List.pairwise_cons.2 ⟨fun b hb => ?_, h⟩
      rcases List.mem_cons.1 hb with rfl | hb
      · exact hbefore
      · exact String.lt_trans hbefore (hlt b hb)
    next hnot =>
      -- The names differ, so what is not before is behind.
      have hafter : e.1 < entry.1 := by
        refine Classical.byContradiction fun hge => hnew e List.mem_cons_self ?_
        exact String.le_antisymm (String.not_lt.1 hnot) (String.not_lt.1 hge)
      refine List.pairwise_cons.2 ⟨fun b hb => ?_, ih hrest fun x hx => hnew x (List.mem_cons_of_mem _ hx)⟩
      rcases List.mem_cons.1 ((place_perm entry rest).mem_iff.1 hb) with rfl | hb
      · exact hafter
      · exact hlt b hb

theorem sortByName_perm {α : Type} (l : List (String × α)) : (sortByName l).Perm l := by
  induction l with
  | nil => exact .refl _
  | cons e rest ih => exact (place_perm e _).trans (ih.cons e)

theorem pairwise_sortByName {α : Type} {l : List (String × α)} (h : (l.map (·.1)).Nodup) :
    (sortByName l).Pairwise fun a b => a.1 < b.1 := by
  induction l with
  | nil => exact .nil
  | cons e rest ih =>
    obtain ⟨hnew, hrest⟩ := List.nodup_cons.1 h
    refine pairwise_place (ih hrest) fun x hx heq => hnew ?_
    have hmem : x.1 ∈ rest.map (·.1) := List.mem_map_of_mem ((sortByName_perm rest).mem_iff.1 hx)
    rwa [heq] at hmem

/-- What is written of a capture, if its node has a row. -/
def shown (p : ParsedSource) (c : String × Nat) : Option (String × NodeRecord) :=
  (p.tree.row? c.2).map fun r => (c.1, (NodeRecord.ofRow r).withText (p.textOf r))

/-- Captures without a row are left out; those that stay keep their names. -/
theorem nodup_names_shown (p : ParsedSource) {captures : List (String × Nat)}
    (h : (captures.map (·.1)).Nodup) : ((captures.filterMap (shown p)).map (·.1)).Nodup := by
  rw [List.Nodup, List.pairwise_map] at h ⊢
  refine List.Pairwise.filterMap _ ?_ h
  intro a b hab c hc d hd
  obtain ⟨r, -, rfl⟩ := Option.map_eq_some_iff.1 hc
  obtain ⟨r', -, rfl⟩ := Option.map_eq_some_iff.1 hd
  exact hab

/-- What is written of a match that has been bound is in order. -/
theorem ordered_ofMatch (p : ParsedSource) {m : Query.Match Nat}
    (h : (m.captures.map (·.1)).Nodup) : (ofMatch p m).Ordered :=
  pairwise_sortByName (nodup_names_shown p h)

end MatchRecord

/-! ## Streams of records -/

theorem Record.toList_join_blocks_json (number : Nat) (records : List Record) :
    (String.join (Record.blocks .json number records)).toList =
      (records.map fun r => r.json.chars).flatMap (· ++ ['\n']) := by
  induction records generalizing number with
  | nil => rfl
  | cons r rest ih =>
    simp [Record.blocks, Record.block, Record.lines, Json.text, ih]

/-- **Lines of JSON decode to their records.** Records of any kinds and texts that
are written as JSON make one line each: the text has one newline for each record,
cutting it there gives back the lines, and each line is read as JSON and then as
its record, with the text where the record has one and the captures under
increasing names. -/
theorem readsFrom_writeAll_json (w : RecordWriter) (records : List Record)
    (hformat : w.format = .json) (hroom : w.sink.room = none)
    (hordered : ∀ m, .found m ∈ records → m.Ordered) :
    ∃ text : String,
      w.writeAll records =
        ({ w with sink := w.sink.append text, written := w.written + records.length }, none) ∧
      text.toList.count '\n' = records.length ∧
      ∃ lines, Text.cut (· == '\n') text.toList = lines ++ [[]] ∧
        List.Forall₂ Record.ReadsFrom lines records := by
  have hclean : ∀ line ∈ records.map fun r => r.json.chars, ∀ c ∈ line, 0x20 ≤ c.toNat := by
    intro line hline
    obtain ⟨r, -, rfl⟩ := List.mem_map.1 hline
    exact r.whole_json.le_toNat_of_mem_chars
  have hnewline : ∀ line ∈ records.map fun r => r.json.chars, '\n' ∉ line :=
    fun line hline hmem => absurd (hclean line hline '\n' hmem) (by decide)
  have htext := Record.toList_join_blocks_json (w.written + 1) records
  refine ⟨String.join (Record.blocks .json (w.written + 1) records), ?_, ?_,
    records.map fun r => r.json.chars, ?_, ?_⟩
  · rw [RecordWriter.writeAll_of_room_none hroom, RecordWriter.append, hformat]
  · rw [htext, Text.count_flatMap hnewline, List.length_map]
  · rw [htext]
    refine Text.cut_flatMap (by simp) fun line hline c hc => ?_
    rw [beq_eq_false_iff_ne]
    rintro rfl
    exact hnewline line hline hc
  · rw [List.forall₂_map_left_iff, List.forall₂_same]
    intro r hr
    exact ⟨r.json, r.whole_json.parse_text, r.ofJson?_json,
      Record.shapes_json fun m hm => hordered m (hm ▸ hr)⟩

/-- A node whose kind has a quote, a backslash and a line end, and a match that
captures it under two names, out of order and with a text of two lines. -/
theorem readsFrom_awkward :
    let row : Row := ⟨none, "\"\\\n", false, false, false, 0, 4, ⟨0, 0⟩, ⟨1, 1⟩⟩
    let p : ParsedSource := ⟨.python, "é\n\u0000", ⟨[row]⟩, false⟩
    let raw : Query.RawMatch Nat := ⟨3, [(1, 0), (0, 0)]⟩
    let found : Query.Match Nat := ⟨3, [("b\n", 0), ("a", 0)]⟩
    let records : List Record := [.node (.ofRow row), .found (.ofMatch p found)]
    raw.bind ["a", "b\n"] = .ok found ∧
    ∃ text : String, (RecordWriter.writeAll ⟨{}, .json, 0⟩ records).1.sink = Sink.append {} text ∧
      text.toList.count '\n' = 2 ∧
      ∃ lines, Text.cut (· == '\n') text.toList = lines ++ [[]] ∧
        List.Forall₂ Record.ReadsFrom lines records := by
  intro row p raw found records
  have hbind : raw.bind ["a", "b\n"] = .ok found := by rfl
  have hordered : ∀ m, .found m ∈ records → m.Ordered := by
    intro m hm
    have heq : m = .ofMatch p found := by simpa [records] using hm
    rw [heq]
    exact MatchRecord.ordered_ofMatch p (Query.RawMatch.nodup_names_of_bind hbind)
  obtain ⟨text, hwrite, hcount, hlines⟩ :=
    readsFrom_writeAll_json ⟨{}, .json, 0⟩ records rfl rfl hordered
  exact ⟨hbind, text, by rw [hwrite], hcount, hlines⟩

end TreeExplorer
