import Gridbook.Proofs.Formula.Dependence
import Gridbook.Proofs.Text.Trimming
import Gridbook.Session

/-!
# Evaluating before writing

A formula can be evaluated without writing it.  The two ways of asking take the `=` and the white
space away in different orders, which makes no difference, since a formula is read without the white
space around it.  So the outcome that is shown is the one that is stored if the formula is written
right after that.
-/

namespace Gridbook

open Text Formula

variable {u v before behind body : List Char}

/-! ## White space around a formula -/

namespace Formula

theorem parse_congr_of_trim (same : trim u = trim v) : parse u = parse v := by
  simp only [parse, normal, same]

end Formula

namespace Document

/-- Behind white space, the `=` is found first, and the body lacks the white space at its end. -/
theorem parse_formulaBody_of_marked (front : AllBlank before) (back : AllBlank behind) :
    parse (formulaBody (String.ofList (before ++ '=' :: body ++ behind))) = parse body := by
  have trimmed : trim (before ++ '=' :: body ++ behind) = '=' :: trimEnd body := by
    rw [trim_append_blank_right back, trim_append_blank_left front]
    exact trim_append_solid (by decide) [] body
  have found : formulaBody (String.ofList (before ++ '=' :: body ++ behind)) = trimEnd body := by
    simp only [formulaBody, String.toList_ofList, trimmed]
    rfl
  rw [found]
  exact parse_congr_of_trim (trim_trimEnd body)

/-- A text without a `=` in front is the body itself. -/
theorem parse_formulaBody_of_plain (plain : (trim body).head? ≠ some '=') (front : AllBlank before)
    (back : AllBlank behind) :
    parse (formulaBody (String.ofList (before ++ body ++ behind))) = parse body := by
  have trimmed : trim (before ++ body ++ behind) = trim body := by
    rw [trim_append_blank_right back, trim_append_blank_left front]
  have found : formulaBody (String.ofList (before ++ body ++ behind)) = trim body := by
    simp only [formulaBody, String.toList_ofList, trimmed,
      (Cell.formulaBody?_eq_none_iff _).mpr plain, Option.getD_none]
  rw [found]
  exact parse_congr_of_trim (trim_trim body)

end Document

namespace Session

/-! ## The outcome that is stored -/

/-- Evaluating a formula changes nothing, and it yields what is stored if a text is written to an
address then, which is accepted.  The one breaks off if the other does. -/
structure Previews (s : Session) (a : Address) (content formula : String) : Prop where
  breaksOff : s.breaksOff (.evaluate formula) = s.breaksOff (.write a content)
  stored : ∃ outcome, s.step (.evaluate formula) = (s, .outcome outcome) ∧
    (s.step (.write a content)).2 = .accepted true ∧
    (s.step (.write a content)).1.document.workbook.cell? a = some (.formula content outcome)

variable {s : Session} {a : Address} {content formula : String}

/-- Only the form in which the two bodies are read counts. -/
theorem previews_of_parse (inside : s.document.workbook.currentSheet.grid.extent.Contains a)
    (marked : content.toList = '=' :: body)
    (same : parse (Document.formulaBody formula) = parse body) : s.Previews a content formula := by
  have written : content = String.ofList ('=' :: body) := by
    rw [← marked, String.ofList_toList]
  constructor
  · have asked : s.evaluated? (.write a content) = some body := by
      simp only [evaluated?, evaluated?.written?, if_pos inside, marked]
      rfl
    have shown : s.evaluated? (.evaluate formula) = some (Document.formulaBody formula) := rfl
    rw [breaksOff, breaksOff, asked, shown]
    simp only [Option.map_some, Option.getD_some, Workbook.breaksOff, Formula.breaksOff, same]
  · obtain ⟨w, done⟩ := Workbook.exists_write? inside content
    have stepped : s.step (.write a content) =
        (⟨{ s.document with workbook := w, modified := true }, s.files⟩, .accepted true) := by
      simp only [step, Document.write?, done, Option.map_some, keep]
    have outcome : s.document.evaluate formula = s.document.workbook.evaluate body := by
      have called : s.document.evaluate formula =
          s.document.workbook.evaluate (Document.formulaBody formula) := rfl
      simp only [called, Workbook.evaluate, Formula.evaluate, same]
    refine ⟨s.document.evaluate formula, rfl, ?_, ?_⟩
    · rw [stepped]
    · subst written
      rw [stepped, outcome]
      exact Workbook.cell?_of_write?_formula done

/-- The outcome of a text that starts with `=` is the same whether the text is evaluated or written,
with any white space around it, and with or without the `=`, unless another one follows it. -/
theorem previews_of_marked (inside : s.document.workbook.currentSheet.grid.extent.Contains a)
    (marked : content.toList = '=' :: body) (front : AllBlank before) (back : AllBlank behind) :
    s.Previews a content (String.ofList (before ++ content.toList ++ behind)) ∧
      ((trim body).head? ≠ some '=' →
        s.Previews a content (String.ofList (before ++ body ++ behind))) ∧
      ∀ formula, (s.step (.evaluate formula)).1 = s := by
  refine ⟨?_, fun plain => ?_, fun _ => rfl⟩
  · rw [marked]
    exact previews_of_parse inside marked (Document.parse_formulaBody_of_marked front back)
  · exact previews_of_parse inside marked (Document.parse_formulaBody_of_plain plain front back)

/-- White space of several kinds stands around the text and behind its `=`. -/
theorem previews_of_marked_of_white_space :
    let s : Session := ⟨.ofLayout ⟨"a", ⟨1, 2⟩⟩, Files.empty⟩
    s.Previews ⟨0, 1⟩ "= sum((1,1),(1,2))\t" "\u2003\n= sum((1,1),(1,2))\t " ∧
      s.Previews ⟨0, 1⟩ "= sum((1,1),(1,2))\t" "\u2003\n sum((1,1),(1,2))\t " := by
  intro s
  have inside : s.document.workbook.currentSheet.grid.extent.Contains ⟨0, 1⟩ := by decide
  have marked : "= sum((1,1),(1,2))\t".toList = '=' :: " sum((1,1),(1,2))\t".toList := by decide
  have front : AllBlank "\u2003\n".toList := by decide
  have back : AllBlank " ".toList := by decide
  obtain ⟨whole, bare, -⟩ := previews_of_marked inside marked front back
  exact ⟨whole, bare (by decide)⟩

end Session

end Gridbook
