import GuardedText.Proofs.Json.Reading
import GuardedText.Proofs.NameSource
import GuardedText.Proofs.Result
import GuardedText.Proofs.Template.UsedNames
import GuardedText.Tool.Report

/-! What a report is written as can be read back. As JSON it is one document, with the four fields
of the report; the names one a line are told apart by the lines, for no name goes over two of them.
The names that a request defines are a set: their order and their repetitions make no difference. -/

namespace GuardedText.Tool

variable {σ : Type}

theorem Request.run_eq_ok {r : Request} {sink : Log.Sink σ} {s : σ} {report : Report}
    (h : (r.run sink s).1 = .ok report) :
    ∃ p t, Processor.ofPrefixOption r.directivePrefix = .ok p ∧
      Template.compileText p.prefixText r.document = .ok t ∧ report = r.report t := by
  rw [run] at h
  split at h
  · cases h
  · next p hp =>
    split at h
    · cases h
    · next t ht =>
      cases h
      exact ⟨p, t, hp, ht, rfl⟩

/-- Two lists of the same names make one report. -/
theorem Request.report_congr (r : Request) {names : List String}
    (h : ∀ name, name ∈ names ↔ name ∈ r.names) (t : Template) :
    { r with names }.report t = r.report t := by
  rw [report, report, NameSource.active_congr h, Text.sortNames_distinct_congr h]

theorem Request.run_congr (r : Request) {names : List String}
    (h : ∀ name, name ∈ names ↔ name ∈ r.names) (sink : Log.Sink σ) (s : σ) :
    { r with names }.run sink s = r.run sink s := by
  simp only [run, r.report_congr h]

namespace Report

theorem numberless_names (names : List String) :
    (Json.array (names.map .string)).Numberless := by
  refine .array fun j hj => ?_
  obtain ⟨name, -, rfl⟩ := List.mem_map.mp hj
  exact .string name

theorem numberless_toJson (report : Report) : report.toJson.Numberless := by
  refine .object fun m hm => ?_
  simp only [List.mem_cons, List.not_mem_nil, or_false] at hm
  obtain rfl | rfl | rfl | rfl := hm
  · exact .string _
  · exact .string _
  · exact numberless_names _
  · exact numberless_names _

/-- The text of an object ends in its bracket. -/
theorem getLast_toJson (report : Report) :
    (report.toJson.indented 0).toList.getLast? = some '\x7d' := by
  rw [toJson, Json.indented, Json.bracket]
  split <;> rw [String.toList_append, List.getLast?_append] <;> rfl

theorem text_json (report : Report) (listUsed : Bool) :
    report.text true listUsed = report.toJson.indented 0 ++ "\n" := rfl

theorem text_listed (report : Report) :
    report.text false true = Text.endLines report.referenced := rfl

theorem text_listed_eq_empty_iff (report : Report) :
    report.text false true = "" ↔ report.referenced = [] := by
  rw [text_listed]
  constructor
  · intro h
    by_contra hne
    rw [Text.endLines_of_ne_nil hne] at h
    simp [Text.lineBreak] at h
  · rintro h
    rw [h]
    rfl

end Report

/-- A report of an accepted request has the names of the request in strictly increasing order, and
is the same for any list of these names. Written as JSON it ends in one line break and reads as an
object with just its fields, whatever numerals are read as. The list of referenced names is empty if
there are none, and else has one break behind each of its lines, which are the names. -/
theorem report_reads_back (r : Request) (sink : Log.Sink σ) (s : σ) (report : Report)
    (h : (r.run sink s).1 = .ok report) :
    (report.names.Pairwise (fun a b => Text.units a < Text.units b) ∧
      ∀ name, name ∈ report.names ↔ name ∈ r.names) ∧
    (∀ names, (∀ name, name ∈ names ↔ name ∈ r.names) →
      { r with names }.run sink s = r.run sink s) ∧
    (∀ listUsed numeral, ∃ front, report.text true listUsed = front ++ "\n" ∧
      front.toList.getLast? ≠ some '\n' ∧
      Json.read numeral (report.text true listUsed) = some (.object [
        ("sourceName", .string report.documentName),
        ("output", .string report.output),
        ("symbols", .array (report.names.map .string)),
        ("referencedSymbols", .array (report.referenced.map .string))])) ∧
    (report.text false true = "" ↔ report.referenced = []) ∧
    (report.referenced ≠ [] → ∃ front, report.text false true = front ++ "\n" ∧
      Text.splitLines front = report.referenced) := by
  obtain ⟨p, t, -, ht, rfl⟩ := Request.run_eq_ok h
  refine ⟨⟨?_, fun name => ?_⟩, fun names hnames => r.run_congr hnames sink s,
    fun listUsed numeral => ?_, Report.text_listed_eq_empty_iff _, fun hne => ?_⟩
  · exact Text.strict_sortNames (Text.nodup_distinct r.names)
  · exact Text.mem_sortNames.trans Text.mem_distinct
  · refine ⟨_, Report.text_json _ listUsed, ?_, ?_⟩
    · rw [Report.getLast_toJson]
      decide
    · exact Json.read_indented numeral (Report.numberless_toJson _)
  · refine ⟨_, Text.endLines_of_ne_nil hne, Text.splitLines_intercalate hne fun name hname => ?_⟩
    exact Template.lineFeed_not_mem_usedNames ht hname

/-- Names with a tab and with quotes, one of them defined twice, and a document name with a line
break. -/
theorem report_reads_back_awkward :
    let r : Request := ⟨"#if a\tb or \"q\"\nx\n#endif", "in\n1", ["z", "a\tb", "z"], .string "#"⟩
    let report : Report := ⟨"in\n1", "x", ["a\tb", "z"], ["\"q\"", "a\tb"]⟩
    (r.run Log.ignore ()).1 = .ok report ∧
    { r with names := ["a\tb", "z"] }.run Log.ignore () = r.run Log.ignore () ∧
    Json.read (fun _ => none) (report.text true false) = some (.object [
      ("sourceName", .string "in\n1"),
      ("output", .string "x"),
      ("symbols", .array [.string "a\tb", .string "z"]),
      ("referencedSymbols", .array [.string "\"q\"", .string "a\tb"])]) ∧
    ∃ front, report.text false true = front ++ "\n" ∧
      Text.splitLines front = ["\"q\"", "a\tb"] := by
  intro r report
  have h : (r.run Log.ignore ()).1 = .ok report := by
    cbv
  obtain ⟨-, hset, hjson, -, hlist⟩ := report_reads_back r Log.ignore () report h
  obtain ⟨-, -, -, hread⟩ := hjson false fun _ => none
  exact ⟨h, hset _ (by simp [r]), hread, hlist (by simp [report])⟩

end GuardedText.Tool
