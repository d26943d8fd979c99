/-
Records as lines for people. Kinds of named nodes and names of captures are written as
they are; everything else that could break a line is escaped or cut. If those are on
one line each, a node makes one line and a match one for itself and one for each of its
captures, whatever the kinds of anonymous nodes and the texts hold.
-/
import Mathlib.Data.List.Forall2
import TreeExplorer.Proofs.Record.Lines
import TreeExplorer.Proofs.Text.OneLine

namespace TreeExplorer

open Text (OneLine)

/-- If the node is named, its kind is on one line. -/
def NodeRecord.PlainKind (r : NodeRecord) : Prop :=
  r.named = true → OneLine r.kind

namespace Record

/-- Names of captures, and kinds of named nodes, are on one line. -/
def PlainNames : Record → Prop
  | node r => r.PlainKind
  | found m => ∀ c ∈ m.captures, OneLine c.1 ∧ c.2.PlainKind

/-- How many lines a record makes. -/
def lineCount : Record → Nat
  | node _ => 1
  | found m => 1 + m.captures.length

end Record

/-! ## Lines of a record -/

theorem NodeRecord.oneLine_span (r : NodeRecord) : OneLine r.span := by
  have hdecimal := Text.oneLine_decimal
  have hcolon : OneLine ":" := by decide
  have hdash : OneLine "-" := by decide
  have hstart := ((hdecimal r.start.line).append hcolon).append (hdecimal r.start.column)
  exact (((hstart.append hdash).append (hdecimal r.stop.line)).append hcolon).append
    (hdecimal r.stop.column)

theorem NodeRecord.oneLine_human {r : NodeRecord} (h : r.PlainKind) : OneLine r.human := by
  have hkind : OneLine (if r.named then r.kind else Text.quoted r.kind) := by
    split
    next hnamed => exact h hnamed
    next => exact Text.oneLine_quoted r.kind
  have hblank : OneLine " " := by decide
  have hplaced := (hkind.append hblank).append r.oneLine_span
  unfold human
  cases r.text with
  | none => exact hplaced
  | some t => exact (hplaced.append hblank).append (Text.oneLine_firstLine t)

namespace Record

theorem length_human (number : Nat) (r : Record) : (r.human number).length = r.lineCount := by
  cases r with
  | node r => rfl
  | found m =>
    simp only [human, MatchRecord.human, lineCount, List.length_cons, List.length_map]
    omega

theorem oneLine_of_mem_human {r : Record} (h : r.PlainNames) (number : Nat) :
    ∀ line ∈ r.human number, OneLine line := by
  intro line hline
  cases r with
  | node r =>
    rw [List.mem_singleton.1 hline]
    exact NodeRecord.oneLine_human h
  | found m =>
    rcases List.mem_cons.1 hline with rfl | hline
    · have hnumber := OneLine.append (s := "match ") (by decide) (Text.oneLine_decimal number)
      have hpattern := (hnumber.append (t := " (pattern ") (by decide)).append
        (Text.oneLine_decimal m.pattern)
      exact hpattern.append (by decide)
    · obtain ⟨c, hc, rfl⟩ := List.mem_map.1 hline
      obtain ⟨hname, hkind⟩ := h c hc
      have hmark := OneLine.append (s := "  @") (by decide) hname
      exact (hmark.append (by decide)).append (NodeRecord.oneLine_human hkind)

/-- The lines of records that are numbered from `first` on. -/
def groups : Nat → List Record → List (List (List Char))
  | _, [] => []
  | first, r :: rest => (r.human first).map String.toList :: groups (first + 1) rest

theorem getElem?_groups (first : Nat) (records : List Record) (i : Nat) :
    (groups first records)[i]? =
      records[i]?.map fun r => (r.human (first + i)).map String.toList := by
  induction records generalizing first i with
  | nil => rfl
  | cons r rest ih =>
    cases i with
    | zero => rfl
    | succ i =>
      rw [groups, List.getElem?_cons_succ, List.getElem?_cons_succ, ih, Nat.add_assoc,
        Nat.add_comm 1 i]

theorem forall₂_groups (first : Nat) (records : List Record) :
    List.Forall₂ (fun group r => group.length = r.lineCount) (groups first records) records := by
  induction records generalizing first with
  | nil => exact .nil
  | cons r rest ih =>
    refine .cons ?_ (ih (first + 1))
    rw [List.length_map, length_human]

theorem newline_notMem_groups {records : List Record} (h : ∀ r ∈ records, r.PlainNames)
    (first : Nat) : ∀ line ∈ (groups first records).flatten, '\n' ∉ line := by
  induction records generalizing first with
  | nil => simp [groups]
  | cons r rest ih =>
    intro line hline
    rw [groups, List.flatten_cons] at hline
    rcases List.mem_append.1 hline with hline | hline
    · obtain ⟨text, htext, rfl⟩ := List.mem_map.1 hline
      exact oneLine_of_mem_human (h r List.mem_cons_self) first text htext
    · exact ih (fun x hx => h x (List.mem_cons_of_mem r hx)) (first + 1) line hline

theorem toList_join_blocks_human (first : Nat) (records : List Record) :
    (String.join (blocks .human first records)).toList =
      (groups first records).flatten.flatMap (· ++ ['\n']) := by
  induction records generalizing first with
  | nil => rfl
  | cons r rest ih =>
    rw [blocks, String.join_cons, String.toList_append, ih, groups, List.flatten_cons,
      List.flatMap_append]
    congr 1
    simp [block, lines, String.toList_join, List.flatMap_map]

end Record

/-! ## Streams of records -/

/-- The line is indented, and has the name of one of the captures and that capture's
node. -/
def MatchRecord.CaptureLine (captures : List (String × NodeRecord)) (line : List Char)
    (name : String) : Prop :=
  ∃ r, (name, r) ∈ captures ∧ String.ofList line = "  @" ++ name ++ " " ++ r.human

/-- The lines of a match whose captures are put in order. -/
theorem MatchRecord.exists_captureLines (number pattern : Nat)
    {captures : List (String × NodeRecord)} (h : (captures.map (·.1)).Nodup) :
    ∃ heading lines names,
      (MatchRecord.human number ⟨pattern, sortByName captures⟩).map String.toList =
        heading :: lines ∧
      String.ofList heading =
        "match " ++ Text.decimal number ++ " (pattern " ++ Text.decimal pattern ++ ")" ∧
      names.Pairwise (· < ·) ∧ names.Perm (captures.map (·.1)) ∧
      List.Forall₂ (CaptureLine captures) lines names := by
  have hperm := sortByName_perm captures
  refine ⟨_, _, (sortByName captures).map (·.1), List.map_cons, String.ofList_toList, ?_,
    hperm.map _, ?_⟩
  · exact List.pairwise_map.2 (pairwise_sortByName h)
  · rw [List.map_map, List.forall₂_map_left_iff, List.forall₂_map_right_iff, List.forall₂_same]
    intro c hc
    exact ⟨c.2, hperm.mem_iff.1 hc, String.ofList_toList⟩

/-- **Lines for people are framed.** Records that are written for people go into a
sink without a limit, and once they are in any sink what was added is a text of lines:
one for each node, and for each match one and as many more as it has captures, if names
are on one line, whatever the texts and the kinds of anonymous nodes hold. The record in
place `i`, if it is a match, is headed by its number and its own pattern, and under that
stand its captures in the order of their names. -/
theorem lines_writeAll_human (w : RecordWriter) (records : List Record)
    (hformat : w.format = .human) (hplain : ∀ r ∈ records, r.PlainNames) :
    ∃ text : String,
      (w.sink.room = none → ∃ w', w.writeAll records = (w', none)) ∧
      (∀ w', w.writeAll records = (w', none) →
        w'.sink.bytes = w.sink.bytes ++ text.toUTF8 ∧ w'.written = w.written + records.length) ∧
      ∃ groups : List (List (List Char)),
        Text.cut (· == '\n') text.toList = groups.flatten ++ [[]] ∧
        text.toList.count '\n' = groups.flatten.length ∧
        List.Forall₂ (fun group r => group.length = r.lineCount) groups records ∧
        ∀ i pattern captures, (captures.map (·.1)).Nodup →
          records[i]? = some (.found ⟨pattern, MatchRecord.sortByName captures⟩) →
          ∃ heading lines names, groups[i]? = some (heading :: lines) ∧
            String.ofList heading = "match " ++ Text.decimal (w.written + (i + 1)) ++
              " (pattern " ++ Text.decimal pattern ++ ")" ∧
            names.Pairwise (· < ·) ∧ names.Perm (captures.map (·.1)) ∧
            List.Forall₂ (MatchRecord.CaptureLine captures) lines names := by
  have htext := Record.toList_join_blocks_human (w.written + 1) records
  have hnewline := Record.newline_notMem_groups hplain (w.written + 1)
  refine ⟨String.join (Record.blocks .human (w.written + 1) records), ?_, ?_,
    Record.groups (w.written + 1) records, ?_, ?_, Record.forall₂_groups _ records, ?_⟩
  · intro hroom
    exact ⟨_, RecordWriter.writeAll_of_room_none hroom records⟩
  · intro w' hwrite
    have hbytes := RecordWriter.bytes_of_writeAll hwrite
    rwa [hformat] at hbytes
  · rw [htext]
    refine Text.cut_flatMap (by simp) fun line hline c hc => ?_
    rw [beq_eq_false_iff_ne]
    rintro rfl
    exact hnewline line hline hc
  · rw [htext, Text.count_flatMap hnewline]
  · intro i pattern captures hnodup hrecord
    obtain ⟨heading, lines, names, hlines, hheading, hrest⟩ :=
      MatchRecord.exists_captureLines (w.written + (i + 1)) pattern hnodup
    refine ⟨heading, lines, names, ?_, hheading, hrest⟩
    rw [Record.getElem?_groups, hrecord, Nat.add_assoc, Nat.add_comm 1 i]
    exact congrArg some hlines

/-- Two matches and a node. The second match captures the node, a line end, under two
names that are given out of order. -/
theorem lines_human_newline :
    let r : NodeRecord := ⟨"\n", false, ⟨1, 1⟩, ⟨2, 1⟩, 0, 2, some "\r\n\n"⟩
    let captures := [("b", r), ("a", r)]
    let records : List Record :=
      [.found ⟨0, []⟩, .found ⟨3, MatchRecord.sortByName captures⟩, .node r]
    (∀ x ∈ records, x.PlainNames) ∧
    ∃ w' text groups, RecordWriter.writeAll ⟨{}, .human, 0⟩ records = (w', none) ∧
      w'.sink.bytes = .empty ++ String.toUTF8 text ∧
      Text.cut (· == '\n') text.toList = groups.flatten ++ [[]] ∧
      List.Forall₂ (fun group n => group.length = n) groups [1, 3, 1] ∧
      ∃ heading lines names, groups[1]? = some (heading :: lines) ∧
        String.ofList heading = "match 2 (pattern 3)" ∧
        names.Pairwise (· < ·) ∧ names.Perm ["b", "a"] ∧
        List.Forall₂ (MatchRecord.CaptureLine captures) lines names := by
  intro r captures records
  have hplain : ∀ x ∈ records, x.PlainNames := by
    have hkind : r.PlainKind := fun hnamed => absurd hnamed (by decide)
    intro x hx
    simp only [records, List.mem_cons, List.not_mem_nil, or_false] at hx
    rcases hx with rfl | rfl | rfl
    · simp [Record.PlainNames]
    · intro c hc
      have hmem := (MatchRecord.sortByName_perm captures).mem_iff.1 hc
      simp only [captures, List.mem_cons, List.not_mem_nil, or_false] at hmem
      rcases hmem with rfl | rfl
      · exact ⟨by decide, hkind⟩
      · exact ⟨by decide, hkind⟩
    · exact hkind
  obtain ⟨text, hroom, hwritten, groups, hcut, -, hcounts, hmatches⟩ :=
    lines_writeAll_human ⟨{}, .human, 0⟩ records rfl hplain
  obtain ⟨w', hw'⟩ := hroom rfl
  have hlengths : List.Forall₂ (fun group n => group.length = n) groups
      (records.map Record.lineCount) := List.forall₂_map_right_iff.2 hcounts
  have htwo : (MatchRecord.sortByName captures).length = 2 :=
    (MatchRecord.sortByName_perm captures).length_eq
  simp only [records, List.map_cons, List.map_nil, Record.lineCount, htwo] at hlengths
  exact ⟨hplain, w', text, groups, hw', (hwritten w' hw').1, hcut, hlengths,
    hmatches 1 3 captures (by decide) rfl⟩

end TreeExplorer
