import CheckerOlimp.Judging.Report
import Mathlib.Data.List.TakeWhile

/-!
# The text of a verdict

`serizlize` drives a JSON writer by hand. `Verdict.json` is the value it drives
the writer along, so its output is the text of that value. A verdict that `check`
returns holds only a few fixed words beside its numbers, so the text has no quote,
backslash or control letter that a stream or an SQL literal would change.
-/

namespace CheckerOlimp.CheckerRc

open CheckerOlimp.Std

/-! ## Texts through streams and C strings -/

theorem cString_of_plain {text : Str} (plain : '\x00' ∉ text) : cString text = text := by
  unfold cString
  rw [List.takeWhile_eq_self_iff]
  intro letter member
  have different : letter ≠ '\x00' := by
    rintro rfl
    exact plain member
  simpa using different

/-- A text-mode stream passes a JSON text on as it is. -/
theorem streamable_of_mem_text (value : Json) :
    ∀ letter ∈ value.text, letter ≠ '\r' ∧ letter ≠ '\x1a' := by
  intro letter member
  have printable := Json.printable_of_mem_text value letter member
  constructor <;> rintro rfl <;> exact absurd printable (by decide)

theorem nul_not_mem_text (value : Json) : '\x00' ∉ value.text := fun member =>
  absurd (Json.printable_of_mem_text value _ member) (by decide)

/-! ## The value of a verdict -/

/-- One element of a report as a JSON value. -/
def ReportElem.json (self : ReportElem) : Json :=
  .object [
    ("id".toList, .number self.id.toNat),
    ("result".toList, .string (cString self.result)),
    ("time".toList, .number self.time.toNat),
    ("memory".toList, .number self.memory.toNat),
    ("score".toList, .number self.score.toInt)]

/-- A verdict as a JSON value. -/
def Verdict.json (self : Verdict) : Json :=
  .object [
    ("status".toList, .string (cString self.status)),
    ("error_msg".toList, .string (cString self.errorMsg)),
    ("report".toList, .array (self.report.map ReportElem.json))]

theorem valueEvents_report (report : List ReportElem) :
    Json.valueEvents (report.map ReportElem.json) = report.flatMap ReportElem.events :=
  Json.valueEvents_map ReportElem.json report

/-- The writer is driven along the verdict. -/
theorem Verdict.events_json (self : Verdict) : self.events = self.json.events := by
  unfold Verdict.events Verdict.json
  simp only [Json.events, Json.memberEvents, valueEvents_report, List.cons_append,
    List.nil_append, List.append_assoc, List.append_nil]

/-- `serizlize` writes the text of the verdict. -/
theorem serizlize_eq (v : Verdict) : serizlize v = v.json.text := by
  unfold serizlize
  rw [Verdict.events_json, Json.Writer.run_events]

/-! ## The words of a verdict -/

/-- The words that `check` puts into a verdict. -/
def verdictWords : List Str :=
  ["ok".toList, "bad".toList, "tle".toList, "mle".toList, "crash".toList,
    "compilation_error".toList, []]

/-- A verdict with no other words. -/
structure Verdict.Known (v : Verdict) : Prop where
  status : v.status ∈ verdictWords
  errorMsg : v.errorMsg ∈ verdictWords
  results : ∀ elem ∈ v.report, elem.result ∈ verdictWords

section Words

variable {World : Type}

theorem Entry.result_mem {windows : Windows World} {profilePath sourceName : Str}
    {problems : ProblemStore} {bench : Bench} {before : World} {test : TestPathNballsElement}
    {elem : ReportElem}
    (entry : Entry windows profilePath sourceName problems bench before test elem) :
    elem.result ∈ verdictWords := by
  cases entry with
  | ok _ _ _ _ _ => exact List.mem_of_elem_eq_true rfl
  | bad _ _ _ _ _ => exact List.mem_of_elem_eq_true rfl
  | tle _ _ _ => exact List.mem_of_elem_eq_true rfl
  | mle _ _ _ => exact List.mem_of_elem_eq_true rfl
  | crash _ _ => exact List.mem_of_elem_eq_true rfl

theorem Entries.results_mem {windows : Windows World} {profilePath sourceName : Str}
    {problems : ProblemStore} {bench : Bench} {world : World}
    {tests : List TestPathNballsElement} {elems : List ReportElem}
    (entries : Entries windows profilePath sourceName problems bench world tests elems) :
    ∀ elem ∈ elems, elem.result ∈ verdictWords := by
  induction entries with
  | nil => simp
  | cons entry _ _ inductionHypothesis =>
      intro elem member
      rcases List.mem_cons.mp member with rfl | later
      · exact entry.result_mem
      · exact inductionHypothesis elem later

/-- Every verdict that `check` returns is made of these words. -/
theorem check_known {windows : Windows World} {parse : Str → Option Json}
    {mainConfigFilePath profilePath sourceName : Str} {verdict : Verdict} {before after : World}
    (returned : Program.Returns
      (check windows parse mainConfigFilePath profilePath sourceName) before verdict after) :
    verdict.Known := by
  simp only [check, checkConfig, Program.returns_bind_iff] at returned
  obtain ⟨config, _, _, ⟨built, executable⟩, middle, _, returned⟩ := returned
  cases built with
  | false =>
      simp only [Bool.not_false, ↓reduceIte, Program.returns_pure_iff] at returned
      rw [returned.1]
      exact ⟨List.mem_of_elem_eq_true rfl, List.mem_of_elem_eq_true rfl, by simp [Verdict.fresh]⟩
  | true =>
      simp only [Bool.not_true, Bool.false_eq_true, ↓reduceIte, Program.returns_bind_iff,
        Program.returns_pure_iff] at returned
      obtain ⟨report, _, judged, rfl, _⟩ := returned
      obtain ⟨elems, rfl, entries⟩ := entries_of_judgeTests ⟨rfl, rfl⟩ judged
      exact ⟨List.mem_of_elem_eq_true rfl, List.mem_of_elem_eq_true rfl, entries.results_mem⟩

end Words

/-! ## Its letters -/

/-- A letter that stands for itself in an SQL literal. -/
def SqlPlain (letter : Char) : Prop := letter ≠ '\'' ∧ letter ≠ '\\' ∧ letter ≠ '\x00'

instance : DecidablePred SqlPlain := fun letter =>
  inferInstanceAs (Decidable (letter ≠ '\'' ∧ letter ≠ '\\' ∧ letter ≠ '\x00'))

theorem sqlPlain_of_structural {letter : Char} (structural : Json.Structural letter) :
    SqlPlain letter := by
  rcases structural with digit | listed
  · refine ⟨?_, ?_, ?_⟩ <;> rintro rfl <;> exact absurd digit (by decide)
  · exact List.all_iff_forall_prop.mp (by decide) letter listed

/-- The words are plain, and so are their escapes. -/
theorem sqlPlain_of_word {word : Str} (member : word ∈ verdictWords) :
    ∀ letter ∈ (cString word).flatMap Json.escape, SqlPlain letter := by
  have plain : ∀ word ∈ verdictWords,
      ((cString word).flatMap Json.escape).all (fun letter => SqlPlain letter) = true := by
    decide
  exact List.all_iff_forall_prop.mp (plain word member)

/-- The names of the members are plain, too. -/
theorem sqlPlain_of_name {name : Str}
    (plain : (name.flatMap Json.escape).all (fun letter => SqlPlain letter) = true) :
    ∀ letter ∈ name.flatMap Json.escape, SqlPlain letter :=
  List.all_iff_forall_prop.mp plain

theorem reportElem_strings {elem : ReportElem} (known : elem.result ∈ verdictWords) :
    Json.StringsSatisfy (fun string => ∀ letter ∈ string.flatMap Json.escape, SqlPlain letter)
      elem.json :=
  ⟨sqlPlain_of_name (by decide), trivial, sqlPlain_of_name (by decide), sqlPlain_of_word known,
    sqlPlain_of_name (by decide), trivial, sqlPlain_of_name (by decide), trivial,
    sqlPlain_of_name (by decide), trivial, trivial⟩

/-- The text of a verdict of `check` stands for itself in an SQL literal. -/
theorem sqlPlain_serizlize {v : Verdict} (known : v.Known) :
    ∀ letter ∈ serizlize v, SqlPlain letter := by
  rw [serizlize_eq]
  refine Json.text_forall (fun letter structural => sqlPlain_of_structural structural) v.json ?_
  exact ⟨sqlPlain_of_name (by decide), sqlPlain_of_word known.status,
    sqlPlain_of_name (by decide), sqlPlain_of_word known.errorMsg,
    sqlPlain_of_name (by decide),
    Json.valuesSatisfy_map fun elem member => reportElem_strings (known.results elem member),
    trivial⟩

end CheckerOlimp.CheckerRc
