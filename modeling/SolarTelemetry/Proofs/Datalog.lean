import SolarTelemetry.Datalog.Writers
import SolarTelemetry.Proofs.Polling.Entries

/-!
# A log can be read back

Whatever is written, and by whichever of the writers, a log grows by one line for each call. No
text in a line can break it, because all of it is printable, and every line says what its call was
about.
-/

namespace SolarTelemetry.Datalog

open Json (read?)

namespace Writers

variable {s last : Writers} {w : Writer} {calls : List Call}

theorem log_write (s : Writers) (w : Writer) (call : Call) :
    (s.write w call).log w =
      (s.log w).write call.wallClock call.serial call.kind call.data := by
  simp only [write, log, Function.update_self]

/-- Writers that refer to the same file and count go on doing so, and each call adds its line. -/
theorem Run.log_eq (run : Run s calls last) (copies : ∀ v ∈ s.held, v = w) :
    (∀ v ∈ last.held, v = w) ∧
      last.log w = calls.foldl
        (fun log call => log.write call.wallClock call.serial call.kind call.data) (s.log w) := by
  induction run with
  | nil => exact ⟨copies, rfl⟩
  | copy held _ ih =>
    apply ih
    intro v member
    rcases List.mem_cons.mp member with rfl | member
    · exact copies _ held
    · exact copies v member
  | drop _ ih =>
    apply ih
    intro v member
    exact copies v (List.mem_of_mem_erase member)
  | write held _ ih =>
    obtain rfl := copies _ held
    obtain ⟨kept, grown⟩ := ih copies
    refine ⟨kept, ?_⟩
    rw [grown, log_write]
    rfl

end Writers

namespace Call

/-- The text of the line that a call writes. -/
def text (call : Call) : String :=
  (entry call.wallClock call.serial call.kind call.data).toText

/-- What the line of a call says. -/
def said (call : Call) : Json.Value :=
  .object [("data", call.data.value), ("kind", .text call.kind),
    ("serial", .number call.serial.toNat), ("utc_timestamp", .number call.wallClock)]

theorem newline_notMem_text (call : Call) : '\n' ∉ call.text.toList := by
  rw [text, Json.toText, String.toList_ofList]
  exact (Json.printable_render _).newline_notMem

theorem value_entry (call : Call) :
    (entry call.wallClock call.serial call.kind call.data).value = call.said := by
  have sorted : entry call.wallClock call.serial call.kind call.data =
      .object [("data", call.data), ("kind", .text call.kind), ("serial", .nat call.serial.toNat),
        ("utc_timestamp", .integer call.wallClock)] := by
    simp [entry, Json.record, List.mergeSort, List.MergeSort.Internal.splitInTwo]
  rw [sorted]
  rfl

theorem read?_text (call : Call) : read? call.text = some call.said := by
  rw [text, Json.read?_toText, value_entry]

end Call

/-- Calls add their lines, in their order. -/
theorem foldl_write (calls : List Call) (log : Datalog) :
    calls.foldl (fun log call => log.write call.wallClock call.serial call.kind call.data) log =
      ⟨log.contents ++ String.join (calls.map fun call => call.text ++ "\n"),
        log.lines + calls.length⟩ := by
  induction calls generalizing log with
  | nil => simp
  | cons call calls ih =>
    rw [List.foldl_cons, ih]
    simp only [write, line, List.map_cons, String.join_cons, List.length_cons, Call.text,
      String.append_assoc]
    congr 1
    omega

/-- A log is what its file contained when it was opened and one line for each call, as many as have
been counted, for each of the writers. A line has no line end inside. It is an object of the data,
the kind, the serial and the time of the call, and the data of an entry say at its place each
quantity that is there, and a null for one that is not. -/
theorem writers_readable {files : Nat → String} {counts : Nat → Nat} {w : Writer}
    {calls : List Call} {last : Writers} (run : Writers.Run (.opened files counts w) calls last) :
    last.files w.file =
        files w.file ++ String.join (calls.map fun call => call.text ++ "\n") ∧
      last.counts w.count = calls.length ∧
      (∀ v ∈ last.held, last.log v = last.log w) ∧
      ∀ call ∈ calls, '\n' ∉ call.text.toList ∧
        read? call.text = some (.object [("data", call.data.value), ("kind", .text call.kind),
          ("serial", .number call.serial.toNat), ("utc_timestamp", .number call.wallClock)]) ∧
        ∀ entry : Poller.Entry, call.data = entry.data → ∀ field ∈ entry.fields,
          call.data.value.at? field.1 = some (field.2.elim .null Json.value) := by
  have only : ∀ v ∈ (Writers.opened files counts w).held, v = w := by
    intro v member
    exact List.mem_singleton.mp member
  obtain ⟨copies, grown⟩ := run.log_eq only
  rw [foldl_write] at grown
  refine ⟨congrArg contents grown, ?_, ?_, ?_⟩
  · have counted := congrArg lines grown
    simpa [Writers.opened, Writers.log] using counted
  · intro v member
    rw [copies v member]
  · intro call _
    refine ⟨call.newline_notMem_text, call.read?_text, ?_⟩
    intro entry same field member
    rw [same]
    exact entry.says_fields field member

/-- A name with a quote, a backslash, a line end and a control character, written by a copy to a
file that has contents already, and a second line written by the first writer. -/
theorem writers_readable_copied :
    let w : Writer := ⟨0, 0⟩
    let info : DeviceInfo := { name := some "a\"b\\c\nd\u0001e" }
    let first : Call := ⟨1600000000, 2130012345, "info", info.toJson⟩
    let second : Call := ⟨1600000060, 7, "status", Status.toJson {}⟩
    ∃ last, Writers.Run (.opened (fun _ => "before\n") (fun _ => 5) w) [first, second] last ∧
      last.held = [w, w] ∧
      last.files 0 = "before\n" ++ String.join [first.text ++ "\n", second.text ++ "\n"] ∧
      last.counts 0 = 2 ∧
      '\n' ∉ first.text.toList ∧
      read? first.text = some (.object [("data", info.toJson.value), ("kind", .text "info"),
        ("serial", .number 2130012345), ("utc_timestamp", .number 1600000000)]) ∧
      info.toJson.value.at? [.name "name"] = some (.text "a\"b\\c\nd\u0001e") ∧
      info.toJson.value.at? [.name "firmware"] = some .null := by
  intro w info first second
  have run : Writers.Run (.opened (fun _ => "before\n") (fun _ => 5) w) [first, second]
      ((Writers.write ⟨_, _, [w, w]⟩ w first).write w second) :=
    .copy (w := w) (by decide) (.write (w := w) (by decide) (.write (w := w) (by decide) .nil))
  obtain ⟨contents, count, -, each⟩ := writers_readable run
  obtain ⟨unbroken, read, tells⟩ := each first (by simp)
  have found := tells (.info 2130012345 info) rfl
  refine ⟨_, run, rfl, contents, count, unbroken, ?_, ?_, ?_⟩
  · have serial : (2130012345 : UInt32).toNat = 2130012345 := rfl
    rw [read]
    norm_num [first, serial]
  · exact found ([.name "name"], some (.text _)) List.mem_cons_self
  · exact found ([.name "firmware"], none) (by simp [Poller.Entry.fields, info])

end SolarTelemetry.Datalog
