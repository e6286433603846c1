import Custody.Command.Report
import Custody.Proofs.Moment
import Mathlib.Data.List.Forall2

-- The table of applications. Its text is trimmed at the end, where names that end in blanks or line
-- breaks could have been lost. Nothing is: the last column is a word, so the trim takes the last
-- newline and stops there.

namespace Custody.Text

-- A text whose last character is not blank.
def EndsVisible (s : String) : Prop :=
  ∃ before last, s.toList = before ++ [last] ∧ isBlank last = false

theorem EndsVisible.behind (ends : EndsVisible t) (s : String) : EndsVisible (s ++ t) := by
  obtain ⟨before,last,split,visible⟩ := ends
  refine ⟨s.toList ++ before,last,?_,visible⟩
  rw [String.toList_append,split,List.append_assoc]

-- A newline behind something visible is all that is trimmed.
theorem trimEnd_newline (ends : EndsVisible s) : trimEnd (s ++ "\n") = s := by
  obtain ⟨before,last,split,visible⟩ := ends
  have newline : (s ++ "\n").toList = s.toList ++ ['\n'] := String.toList_append
  rw [trimEnd,newline,dropTrailingBlank_blank _ _ (by decide),split,
    dropTrailingBlank_append _ _ visible,← split,String.ofList_toList]

end Custody.Text

namespace Custody

theorem RunningState.text_ends (state : RunningState) : Text.EndsVisible state.text := by
  cases state with
  | running => exact ⟨"runnin".toList,'g',rfl,by decide⟩
  | notRunning => exact ⟨"not_runnin".toList,'g',rfl,by decide⟩
  | unknown => exact ⟨"unknow".toList,'n',rfl,by decide⟩

namespace Report

-- A text in a column: whole, and with spaces behind it as long as it is narrower than the column.
structure Cell (width : Nat) (text cell : String) : Prop where
  whole : ∃ spaces, cell = text ++ String.ofList (List.replicate spaces ' ')
  filled : cell.length = max width text.length

-- A line of the table. The last column has no width.
inductive Line (id name device claim running : String) : String → Prop where
  | cells (first : Cell 16 id a) (second : Cell 20 name b) (third : Cell 16 device c)
      (fourth : Cell 12 claim d) :
      Line id name device claim running
        (a ++ " " ++ b ++ " " ++ c ++ " " ++ d ++ " " ++ running ++ "\n")

-- The line of an application.
abbrev AppLine (app : Application) : String → Prop :=
  Line app.id.text app.name app.device app.claimState.text app.runningState.text

theorem padded_cell (width : Nat) (text : String) : Cell width text (padded width text) := by
  refine ⟨⟨_,rfl⟩,?_⟩
  rw [padded,String.length_append,String.length_ofList,List.length_replicate]
  omega

theorem row_line (id name device claim running : String) :
    Line id name device claim running (row id name device claim running) :=
  .cells (padded_cell _ _) (padded_cell _ _) (padded_cell _ _) (padded_cell _ _)

-- Before its newline a row ends as its last column does.
theorem row_ends (id name device claim : String) {running : String}
    (ends : Text.EndsVisible running) :
    ∃ body, Text.EndsVisible body ∧ row id name device claim running = body ++ "\n" :=
  ⟨_,ends.behind _,rfl⟩

theorem join_concat (lines : List String) (last : String) :
    String.join (lines ++ [last]) = String.join lines ++ last := by
  simp [String.join]

-- What is trimmed is the last newline.
theorem table_text {apps : List Application} (some : apps ≠ []) :
    table apps ++ "\n" = header ++ String.join (apps.map appRow) := by
  obtain ⟨before,last,rfl⟩ := (List.eq_nil_or_concat' apps).resolve_left some
  obtain ⟨body,visible,ends⟩ := row_ends last.id.text last.name last.device
    last.claimState.text last.runningState.text_ends
  have lines : String.join ((before ++ [last]).map appRow) =
      String.join (before.map appRow) ++ body ++ "\n" := by
    rw [List.map_append,List.map_singleton,join_concat,appRow,ends,String.append_assoc]
  rw [table,if_neg (by simp),lines,← String.append_assoc,← String.append_assoc,
    Text.trimEnd_newline (visible.behind _)]

-- What the table is without its last newline: the header and a line for each application, in their
-- order and with nothing cut off.
theorem table_rows (apps : List Application) (some : apps ≠ []) :
    ∃ header lines, Line "ID" "NAME" "DEVICE" "CLAIM" "RUNNING" header ∧
      List.Forall₂ AppLine apps lines ∧ table apps ++ "\n" = header ++ String.join lines := by
  refine ⟨header,apps.map appRow,row_line _ _ _ _ _,?_,table_text some⟩
  rw [List.forall₂_map_right_iff]
  exact List.forall₂_same.mpr fun app _ => row_line _ _ _ _ _

end Report

namespace Sample

-- It has no id, and names that fill their columns or go beyond them and end in blanks.
def ragged : Application :=
  ⟨⟨""⟩,"A lamp, or so it says\n \t","hallway\u2003behind\n\n",.needUpdate,.unknown⟩

def raggedText : String :=
  "ID               NAME                 DEVICE           CLAIM        RUNNING\n" ++
    "A1               Lamp                 hallway          claimable    running\n" ++
    "                 A lamp, or so it says\n \t hallway\u2003behind\n\n need_update  unknown\n"

theorem ragged_rows :
    [lamp,ragged] ≠ [] ∧ Report.table [lamp,ragged] ++ "\n" = raggedText ∧
      ∃ header lines, Report.Line "ID" "NAME" "DEVICE" "CLAIM" "RUNNING" header ∧
        List.Forall₂ Report.AppLine [lamp,ragged] lines ∧
        Report.table [lamp,ragged] ++ "\n" = header ++ String.join lines :=
  ⟨nofun,(Report.table_text (List.cons_ne_nil _ _)).trans (by decide +kernel),
    Report.table_rows _ nofun⟩

end Sample

end Custody
