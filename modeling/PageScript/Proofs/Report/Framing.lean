import PageScript.Program
import PageScript.Proofs.Json.Grammar
import PageScript.Proofs.Report.Documents
import PageScript.Proofs.Report.Sending
import PageScript.Proofs.Text.Encoding

/-!
# Lines for the host are lines

A reporter that works writes one line for each report, in their order, and a line is one JSON text
without a character below a space in it: whatever a page or a server put into the document, the
host finds the ends of the lines by their line feeds. What a result line says is determined by the
line (`Reporter.lines_framed`).

**What it does not establish.** Lines that cannot be written are left out: here the reporter works.
-/

namespace PageScript

open Json (IsText Whole)

/-! ## Bytes -/

/-- The bytes of a line, without its end. -/
def Report.bytes (report : Report) : List UInt8 :=
  Text.encode report.line.toList

/-- The bytes that were written. -/
def Reporter.bytes (r : Reporter) : List UInt8 :=
  Text.encode (Program.linesText r.writer.written).toList

/-- The bytes of lines are those of each line and a line feed. -/
theorem Program.encode_linesText (lines : List String) :
    Text.encode (linesText lines).toList =
      lines.flatMap fun line => Text.encode line.toList ++ [10] := by
  have ended : ∀ line : String, Text.encode (line ++ "\n").toList =
      Text.encode line.toList ++ [10] := by
    intro line
    rw [String.toList_append, Text.encode_append]
    rfl
  rw [linesText, String.toList_join]
  induction lines with
  | nil => rfl
  | cons line lines ih =>
    rw [List.map_cons, List.flatMap_cons, Text.encode_append, ended, ih, List.flatMap_cons]

/-! ## Lines in order -/

namespace Reporter

/-- Sends reports one after the other. -/
def sendAll (r : Reporter) (reports : List Report) : Except String Reporter :=
  reports.foldlM send r

/-- A reporter that works takes every line. -/
theorem sendAll_of_works {r : Reporter} (works : r.Works) {reports : List Report}
    (lines : ∀ report ∈ reports, report.isLine = true) :
    ∃ r', r.sendAll reports = .ok r' ∧ r'.Works ∧
      r'.writer.written = r.writer.written ++ reports.map Report.line := by
  induction reports generalizing r with
  | nil => exact ⟨r, rfl, works, (List.append_nil _).symm⟩
  | cons report reports ih =>
    obtain ⟨here, later⟩ := List.forall_mem_cons.mp lines
    obtain ⟨r', sent, works', written⟩ := ih (works.addLine report.line) later
    refine ⟨r', ?_, works', ?_⟩
    · rw [sendAll, List.foldlM_cons, send_of_accepts here works.accepts]
      exact sent
    · rw [written, List.map_cons]
      exact List.append_assoc _ _ _

theorem bytes_of_written {r r' : Reporter} {reports : List Report}
    (written : r'.writer.written = r.writer.written ++ reports.map Report.line) :
    r'.bytes = r.bytes ++ reports.flatMap fun report => report.bytes ++ [10] := by
  rw [bytes, bytes, Program.encode_linesText, Program.encode_linesText, written,
    List.flatMap_append, List.flatMap_map]
  rfl

end Reporter

/-! ## One line -/

namespace Report

theorem toList_line (report : Report) : report.line.toList = Json.compact report.toJson := by
  rw [line, Json.print, String.toList_ofList]

/-- A line is a JSON text, whatever is in it. -/
theorem isText_line (report : Report) : IsText report.line.toList := by
  rw [toList_line]
  exact Json.Layout.tight.isText report.toJson 0

/-- No line has a byte below a space in it. -/
theorem le_of_mem_bytes (report : Report) : ∀ b ∈ report.bytes, 0x20 ≤ b.toNat := by
  refine Text.le_of_mem_encode ?_
  rw [toList_line]
  exact Json.le_of_mem_compact report.toJson

variable {code code' : Nat} {description description' : String} {data data' : Output}

theorem whole_toJson_result (fits : code < 0x10000000000000000) (whole : data.toJson.Whole) :
    (result code description data).toJson.Whole := by
  have files : files.Whole := .array (List.forall_mem_singleton.mpr (.string _))
  refine .object ?_
  simp only [List.forall_mem_cons]
  exact ⟨Json.whole_ofNat (by decide), Json.whole_ofNat fits, .string _, whole, files,
    List.forall_mem_nil _⟩

/-- A result line tells the code, the description and the document. -/
theorem bytes_result_inj (fits : code < 0x10000000000000000)
    (fits' : code' < 0x10000000000000000)
    (whole : data.toJson.Whole) (whole' : data'.toJson.Whole)
    (same : (result code description data).bytes = (result code' description' data').bytes) :
    code = code' ∧ description = description' ∧ data = data' := by
  have texts := Text.encode_inj same
  rw [toList_line, toList_line] at texts
  have values := Json.compact_inj (whole_toJson_result fits whole)
    (whole_toJson_result fits' whole') texts
  simp only [toJson, Json.object.injEq, List.cons.injEq, Prod.mk.injEq, Json.string.injEq,
    true_and, and_true] at values
  obtain ⟨codes, descriptions, documents⟩ := values
  have same := Json.ofInt_inj (Json.whole_ofNat fits) (Json.whole_ofNat fits') codes
  exact ⟨Int.ofNat_inj.mp same, descriptions, Output.toJson_inj whole whole' documents⟩

end Report

/-- A reporter that works writes a line for each report, in their order. Each is one JSON text with
a line feed after it and no byte below a space in it, whatever was captured, extracted or evaluated.
Where the numbers of the documents are whole, equal result lines have the same code, description
and document, in which a list of entries is present if it is not empty and a capture has either a
body or the name of a file. -/
theorem Reporter.lines_framed (r : Reporter) (works : r.Works) (reports : List Report)
    (lines : ∀ report ∈ reports, report.isLine = true) :
    (∃ r', r.sendAll reports = .ok r' ∧ r'.Works ∧
        r'.bytes = r.bytes ++ reports.flatMap fun report => report.bytes ++ [10]) ∧
      (∀ report : Report, IsText report.line.toList ∧ ∀ b ∈ report.bytes, 0x20 ≤ b.toNat) ∧
      (∀ code < 0x10000000000000000, ∀ code' < 0x10000000000000000,
        ∀ (description description' : String) (data data' : Output),
          data.toJson.Whole → data'.toJson.Whole →
          (Report.result code description data).bytes =
            (Report.result code' description' data').bytes →
          code = code' ∧ description = description' ∧ data = data') ∧
      ∀ (code : Nat) (description : String) (data : Output),
        (Report.result code description data).toJson.field? "data" = some data.toJson ∧
          data.toJson.field? "extractions" =
            Output.present (data.extractions.map Extraction.toJson) ∧
          data.toJson.field? "evaluations" =
            Output.present (data.evaluations.map Evaluation.toJson) ∧
          data.toJson.field? "captures" = Output.present (data.captures.map Capture.toJson) ∧
          ∀ c ∈ data.captures,
            (c.toJson.field? "response").isSome = !(c.toJson.field? "filename").isSome := by
  refine ⟨?_, ?_, ?_, ?_⟩
  · obtain ⟨r', sent, works', written⟩ := sendAll_of_works works lines
    exact ⟨r', sent, works', bytes_of_written written⟩
  · intro report
    exact ⟨report.isText_line, report.le_of_mem_bytes⟩
  · intro code fits code' fits' description description' data data' whole whole' same
    exact Report.bytes_result_inj fits fits' whole whole' same
  · intro code description data
    obtain ⟨extractions, evaluations, captures⟩ := data.field?_toJson
    refine ⟨?_, extractions, evaluations, captures, fun c _ => c.field?_payload⟩
    simp [Report.toJson, Json.field?, Json.lookup?]

theorem Reporter.lines_framed_lineFeed :
    let r : Reporter := ⟨true, .reliable⟩
    let data : Output := ⟨[], [⟨"text()", .string "one\ntwo"⟩], []⟩
    let last := Report.failure "no \"page\"\n" data
    (∃ r', r.sendAll [.progress 1 2, last] = .ok r' ∧
        r'.bytes = (Report.progress 1 2).bytes ++ [10] ++ last.bytes ++ [10]) ∧
      last.line = "\x7b\"xy\":1,\"code\":1,\"description\":\"no \\\"page\\\"\\n\",\"data\":\x7b"
        ++ "\"evaluations\":[\x7b\"script\":\"text()\",\"result\":\"one\\ntwo\"\x7d]"
        ++ "\x7d,\"files\":[\"downloads/*\"]\x7d" ∧
      (∀ b ∈ last.bytes, 0x20 ≤ b.toNat) ∧ data.toJson.Whole ∧
      ∀ description (data' : Output), data'.toJson.Whole →
        (Report.failure description data').bytes = last.bytes →
        description = "no \"page\"\n" ∧ data' = data := by
  intro r data last
  have whole : data.toJson.Whole := by
    refine .object (List.forall_mem_singleton.mpr (.array (List.forall_mem_singleton.mpr ?_)))
    exact .object (List.forall_mem_cons.mpr ⟨.string _, List.forall_mem_singleton.mpr (.string _)⟩)
  have lines : ∀ report ∈ [.progress 1 2, last], report.isLine = true :=
    List.forall_mem_cons.mpr ⟨rfl, List.forall_mem_singleton.mpr rfl⟩
  obtain ⟨⟨r', sent, -, bytes⟩, framed, apart, -⟩ :=
    r.lines_framed ⟨rfl, rfl⟩ [.progress 1 2, last] lines
  refine ⟨⟨r', sent, ?_⟩, by decide +kernel, (framed last).2, whole, ?_⟩
  · have before : r.bytes = [] := by rw [Reporter.bytes, Program.encode_linesText]; rfl
    simpa [before] using bytes
  · intro description data' whole' same
    exact (apart 1 (by decide) 1 (by decide) _ _ _ _ whole' whole same).2

end PageScript
