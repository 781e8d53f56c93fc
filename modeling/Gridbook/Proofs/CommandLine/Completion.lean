import Gridbook.Proofs.CommandLine.Confinement
import Gridbook.Proofs.Session.BreakingOff

/-!
# Formulas of a command line

The layout that the settings give has a row and a column, however settings files are read, and so has
every sheet of a snapshot.  Actions only edit the workbook.  So no sheet is ever without rows or
columns, and every formula of a command line is evaluated to the end.
-/

namespace Gridbook

namespace CommandLine.Arguments

variable {read : String → Option Settings} {a : Arguments} {own : Option String}
  {fs after : Files} {start last : Progress} {executed : List Action}

theorem usable_layout (read : String → Option Settings) (a : Arguments) (own : Option String)
    (fs : Files) : (layout read a own fs).1.Usable := by
  unfold layout
  split
  · exact Layout.usable_standard
  · exact Settings.usable_loadWith read a.settings own fs

theorem Starts.sized (starts : Starts read a own fs start) :
    start.document.workbook.WellFormed ∧ start.document.workbook.Sized := by
  have usable := usable_layout read a own fs
  exact ⟨Document.wellFormed_of_opened starts.opened,
    Document.sized_of_opened ⟨usable.rows, usable.cols⟩ starts.opened⟩

/-- After any actions, no formula breaks off that is evaluated next. -/
theorem Starts.breaksOff_eq_false (starts : Starts read a own fs start)
    (course : start.Course fs executed last after) (body : List Char) :
    last.document.workbook.breaksOff body = false := by
  obtain ⟨formed, sized⟩ := starts.sized
  exact (Workbook.sized_of_edits course.edits formed sized).breaksOff_eq_false body

end CommandLine.Arguments

end Gridbook
