/-
Writing into a sink without a limit. Nothing fails there, and what the sink has
in the end is the records' own texts, one behind the other, each record under its
number (`writeAll_of_room_none`). A sink with a limit has the same in the end if
nothing failed (`bytes_of_writeAll`).
-/
import TreeExplorer.Record.Writer

namespace TreeExplorer

/-! ## Sinks -/

namespace Sink

/-- The sink with a text behind what it has. -/
def append (s : Sink) (text : String) : Sink :=
  { s with bytes := s.bytes ++ text.toUTF8 }

@[simp] theorem room_append (s : Sink) (text : String) : (s.append text).room = s.room := rfl

@[simp] theorem flushFails_append (s : Sink) (text : String) :
    (s.append text).flushFails = s.flushFails := rfl

@[simp] theorem append_empty (s : Sink) : s.append "" = s := by
  simp [append, String.toUTF8]

@[simp] theorem append_append (s : Sink) (a b : String) : (s.append a).append b = s.append (a ++ b) := by
  simp [append, String.toUTF8, ByteArray.append_assoc]

theorem write_of_room_none {s : Sink} (h : s.room = none) (text : String) :
    s.write text = (s.append text, true) := by
  simp only [write, h, append]

theorem bytes_of_write {s s' : Sink} {text : String} (h : s.write text = (s', true)) :
    s'.bytes = s.bytes ++ text.toUTF8 := by
  unfold write at h
  split at h
  next => cases h; rfl
  next =>
    dsimp only at h
    split at h
    next => cases h; rfl
    next => cases h

end Sink

/-! ## Records -/

namespace Record

/-- The lines of a record that is written under a number. -/
def lines (format : RecordFormat) (number : Nat) (r : Record) : List String :=
  match format with
  | .json => [r.json.text]
  | .human => r.human number

/-- The text of a record that is written under a number. -/
def block (format : RecordFormat) (number : Nat) (r : Record) : String :=
  String.join ((r.lines format number).map (· ++ "\n"))

/-- The texts of records that are numbered from `first` on. -/
def blocks (format : RecordFormat) : Nat → List Record → List String
  | _, [] => []
  | first, r :: rest => r.block format first :: blocks format (first + 1) rest

end Record

namespace RecordWriter

/-- The writer with records behind what it has written. -/
def append (w : RecordWriter) (records : List Record) : RecordWriter :=
  { w with
    sink := w.sink.append (String.join (Record.blocks w.format (w.written + 1) records))
    written := w.written + records.length }

@[simp] theorem append_nil (w : RecordWriter) : w.append [] = w := by
  simp [append, Record.blocks]

theorem writeLines_of_room_none {s : Sink} (h : s.room = none) (lines : List String) :
    writeLines s lines = (s.append (String.join (lines.map (· ++ "\n"))), true) := by
  induction lines generalizing s with
  | nil => simp [writeLines]
  | cons l lines ih =>
    simp only [writeLines, Sink.write_of_room_none h]
    rw [ih (s := s.append (l ++ "\n")) h]
    simp [String.append_assoc]

theorem write_of_room_none {w : RecordWriter} (h : w.sink.room = none) (r : Record) :
    w.write r = (w.append [r], none) := by
  have hblock : String.join (Record.blocks w.format (w.written + 1) [r]) =
      r.block w.format (w.written + 1) := by
    simp [Record.blocks]
  simp only [write, append, hblock, List.length_singleton, Record.block, Record.lines]
  cases w.format with
  | json =>
    simp only [writeJson, Sink.write_of_room_none h]
    rw [Sink.write_of_room_none (s := w.sink.append r.json.text) h]
    simp
  | human => simp only [writeLines_of_room_none h]

theorem append_append (w : RecordWriter) (r : Record) (rest : List Record) :
    (w.append [r]).append rest = w.append (r :: rest) := by
  simp only [append, Sink.append_append, Record.blocks, String.join_cons, List.length_cons,
    List.length_nil]
  simp [Nat.add_assoc, Nat.add_comm 1]

/-- All records are written, one behind the other. -/
theorem writeAll_of_room_none {w : RecordWriter} (h : w.sink.room = none) (records : List Record) :
    w.writeAll records = (w.append records, none) := by
  induction records generalizing w with
  | nil => rw [append_nil]; rfl
  | cons r rest ih =>
    simp only [writeAll, write_of_room_none h]
    rw [ih (w := w.append [r]) h, append_append]

theorem bytes_of_writeLines {s s' : Sink} {lines : List String}
    (h : writeLines s lines = (s', true)) :
    s'.bytes = s.bytes ++ (String.join (lines.map (· ++ "\n"))).toUTF8 := by
  induction lines generalizing s with
  | nil =>
    cases h
    simp [String.toUTF8]
  | cons l lines ih =>
    rw [writeLines] at h
    split at h
    next s₁ hwrite =>
      rw [ih h, Sink.bytes_of_write hwrite]
      simp [String.toUTF8, ByteArray.append_assoc]
    next => cases h

theorem bytes_of_writeJson {s s' : Sink} {v : Json} (h : writeJson s v = (s', none)) :
    s'.bytes = s.bytes ++ (v.text ++ "\n").toUTF8 := by
  rw [writeJson] at h
  split at h
  next => cases h
  next s₁ htext =>
    split at h
    next s₂ hend =>
      cases h
      rw [Sink.bytes_of_write hend, Sink.bytes_of_write htext]
      simp [String.toUTF8, ByteArray.append_assoc]
    next => cases h

theorem bytes_of_write {w w' : RecordWriter} {r : Record} (h : w.write r = (w', none)) :
    w'.sink.bytes = w.sink.bytes ++ (r.block w.format (w.written + 1)).toUTF8 ∧
      w'.format = w.format ∧ w'.written = w.written + 1 := by
  rw [write] at h
  split at h
  next hformat =>
    split at h
    next s hwrite =>
      cases h
      refine ⟨?_, rfl, rfl⟩
      rw [bytes_of_writeJson hwrite, Record.block, hformat]
      simp [Record.lines]
    next => cases h
  next hformat =>
    split at h
    next s hwrite =>
      cases h
      refine ⟨?_, rfl, rfl⟩
      rw [bytes_of_writeLines hwrite, Record.block, hformat]
      rfl
    next => cases h

/-- If nothing failed, the sink has the records' texts, whatever its limit. -/
theorem bytes_of_writeAll {w w' : RecordWriter} {records : List Record}
    (h : w.writeAll records = (w', none)) :
    w'.sink.bytes =
        w.sink.bytes ++ (String.join (Record.blocks w.format (w.written + 1) records)).toUTF8 ∧
      w'.written = w.written + records.length := by
  induction records generalizing w with
  | nil =>
    cases h
    simp [Record.blocks, String.toUTF8]
  | cons r rest ih =>
    rw [writeAll] at h
    split at h
    next w₁ hwrite =>
      obtain ⟨hbytes, hformat, hwritten⟩ := bytes_of_write hwrite
      obtain ⟨hrest, hcount⟩ := ih h
      rw [hrest, hcount, hbytes, hformat, hwritten, Record.blocks, String.join_cons]
      simp only [String.toUTF8, String.toByteArray_append, ByteArray.append_assoc, List.length_cons,
        true_and]
      omega
    next => cases h

end RecordWriter

end TreeExplorer
