import Unreferenced.Proofs.DeclaringWord
import Unreferenced.Proofs.FileOrder
import Unreferenced.Proofs.JsonRoundTrip
import Unreferenced.Report.Json

/-! What can be read in a report. The text of a report gives back all that it was made of, so reports are
told apart by their texts. The names in the summary come sorted, which tells summaries apart up to their
order. -/

namespace Unreferenced.Report

open Json (Document decode)

def declarationDocument (d : Declaration) : Document :=
  .object [("file", .string d.file), ("kind", .string d.kind.keyword), ("line", .integer d.line),
    ("modifiers", .array (d.modifiers.words.map .string)), ("name", .string d.name)]

def sortedSummary (report : Report) : List (String × Int) :=
  report.summary.mergeSort fun a b => !decide (b.1 < a.1)

/-- What a report says. -/
def document (report : Report) : Document :=
  .object [("root", .string report.root),
    ("stale_rules", .array (report.staleRules.map .string)),
    ("summary", .object (report.sortedSummary.map fun (name, number) => (name, .integer number))),
    ("unused", .array (report.unused.map declarationDocument))]

theorem document_declarationValue (d : Declaration) :
    (declarationValue d).document = declarationDocument d := by
  simp [declarationValue, declarationDocument, Json.Value.document, Json.documents_eq_map,
    Json.memberDocuments_eq_map, Function.comp_def]

theorem document_jsonValue (report : Report) : report.jsonValue.document = report.document := by
  simp [jsonValue, document, summaryMembers, sortedSummary, Json.Value.document,
    Json.documents_eq_map, Json.memberDocuments_eq_map, document_declarationValue, Function.comp_def]

theorem renderJson_eq (report : Report) :
    report.renderJson = String.ofList (report.jsonValue.encode 0 ++ ['\n']) := by
  rw [renderJson, Json.Value.render, String.ofList_append]

/-- A report that has been written is read back. -/
theorem decode_renderJson (report : Report) : decode report.renderJson = some report.document := by
  rw [renderJson_eq, Json.decode_encode, document_jsonValue]
  · exact Json.Decoding.endsNumber_cons rfl []
  · rfl

/-! ### Different reports -/

theorem declarationDocument_eq {d e : Declaration}
    (h : declarationDocument d = declarationDocument e) :
    (d.identity, d.modifiers) = (e.identity, e.modifiers) := by
  obtain ⟨file, line, kind, name, ⟨words⟩, rawLine⟩ := d
  obtain ⟨file', line', kind', name', ⟨words'⟩, rawLine'⟩ := e
  simp only [declarationDocument, Document.object.injEq, List.cons.injEq, Prod.mk.injEq,
    Document.string.injEq, Document.integer.injEq, Document.array.injEq, true_and, and_true] at h
  obtain ⟨rfl, hkind, rfl, hwords, rfl⟩ := h
  have hmap : Function.Injective (List.map Document.string) :=
    List.map_injective_iff.mpr fun _ _ => Document.string.inj
  rw [keyword_injective (congrArg String.toList hkind), hmap hwords]
  rfl

theorem eq_of_document_eq {report other : Report} (h : other.document = report.document) :
    other.root = report.root ∧ other.staleRules = report.staleRules ∧
      other.sortedSummary = report.sortedSummary ∧
      other.unused.map (fun d => (d.identity, d.modifiers)) =
        report.unused.map fun d => (d.identity, d.modifiers) := by
  simp only [document, Document.object.injEq, List.cons.injEq, Prod.mk.injEq,
    Document.string.injEq, Document.array.injEq, true_and, and_true] at h
  obtain ⟨hroot, hstale, hsummary, hunused⟩ := h
  refine ⟨hroot, ?_, ?_, ?_⟩
  · exact List.map_injective_iff.mpr (fun _ _ => Document.string.inj) hstale
  · refine List.map_injective_iff.mpr ?_ hsummary
    rintro ⟨name, number⟩ ⟨name', number'⟩ hmember
    simpa using hmember
  · rw [← List.forall₂_eq_eq_eq, List.forall₂_map_left_iff, List.forall₂_map_right_iff] at hunused ⊢
    exact hunused.imp fun _ _ => declarationDocument_eq

/-- A report is written in ASCII characters and ends with a line. To read it as JSON gives the object of
its root, its stale rules, its summary by increasing names, and its unused declarations with all that is
said of them. So reports that say something different are written differently. -/
theorem report_read_back {report : Report} (hnames : (report.summary.map Prod.fst).Nodup) :
    Json.IsAscii report.renderJson.toList ∧
      report.renderJson.toList.getLast? = some '\n' ∧
      (∃ summary : List (String × Int), summary.Perm report.summary ∧
        summary.Pairwise (fun a b => a.1 < b.1) ∧
        decode report.renderJson = some (.object [
          ("root", .string report.root),
          ("stale_rules", .array (report.staleRules.map .string)),
          ("summary", .object (summary.map fun (name, number) => (name, .integer number))),
          ("unused", .array (report.unused.map fun d => .object [
            ("file", .string d.file), ("kind", .string d.kind.keyword), ("line", .integer d.line),
            ("modifiers", .array (d.modifiers.words.map .string)), ("name", .string d.name)]))])) ∧
      ∀ other : Report, other.renderJson = report.renderJson →
        other.root = report.root ∧ other.staleRules = report.staleRules ∧
          other.summary.Perm report.summary ∧
          other.unused.map (fun d => (d.identity, d.modifiers)) =
            report.unused.map fun d => (d.identity, d.modifiers) := by
  refine ⟨?_, ?_, ⟨report.sortedSummary, ?_, ?_, ?_⟩, fun other hother => ?_⟩
  · rw [renderJson_eq, String.toList_ofList, Json.isAscii_append]
    exact ⟨Json.isAscii_encode 0 _, Json.isAscii_cons.mpr ⟨by decide, Json.isAscii_nil⟩⟩
  · rw [renderJson_eq, String.toList_ofList, List.getLast?_concat]
  · exact List.mergeSort_perm _ _
  · exact pairwise_lt_mergeSort_of_key (fun _ _ => not_lt_eq_true_iff) hnames
  · exact decode_renderJson report
  · have hdocument : other.document = report.document := by
      rw [← Option.some_inj, ← decode_renderJson, ← decode_renderJson, hother]
    obtain ⟨hroot, hstale, hsummary, hunused⟩ := eq_of_document_eq hdocument
    have hperm : other.sortedSummary.Perm report.summary := by
      rw [hsummary]
      exact List.mergeSort_perm _ _
    exact ⟨hroot, hstale, (List.mergeSort_perm _ _).symm.trans hperm, hunused⟩

/-- A report on a function with a name beyond the basic plane, with a rule in quotes. -/
def smileReport : Report where
  root := "/tmp/é"
  declarations := []
  unused := [⟨"A.swift", -1, .function, "😀", ⟨["@objc", "static"]⟩, ""⟩]
  staleRules := ["\"A.swift\": \"x\\y\""]
  summary := [("unused", 1), ("rules", -3)]

theorem report_read_back_smileReport :
    (smileReport.summary.map Prod.fst).Nodup ∧ Json.IsAscii smileReport.renderJson.toList ∧
      smileReport.renderJson.toList.getLast? = some '\n' ∧
      ∀ other : Report, other.renderJson = smileReport.renderJson →
        other.summary.Perm [("unused", 1), ("rules", -3)] := by
  have hnames : (smileReport.summary.map Prod.fst).Nodup := by decide
  obtain ⟨hascii, hlast, -, hinjective⟩ := report_read_back hnames
  refine ⟨hnames, hascii, hlast, fun other hother => ?_⟩
  obtain ⟨-, -, hsummary, -⟩ := hinjective other hother
  exact hsummary

end Unreferenced.Report
