/-
  What the command shows on a terminal: a banner, then lines with a coloured mark or label.
-/
import GoTemplate.Text
import GoTemplate.Text.Numeral
import GoTemplate.Size
import GoTemplate.Compile
import GoTemplate.Template.Summary

namespace GoTemplate.Report

/-! ## Styles -/

/-- The program's name. -/
def programName : Text := "gotpl".toList

/-- The program's version. -/
def version : Text := "0.3.0".toList

/-- A terminal style, by its number. -/
def styled (style : Nat) (t : Text) : Text :=
  "\x1b[".toList ++ decimal style ++ 'm' :: t ++ "\x1b[0m".toList

/-- Bold text. -/
def bold : Text → Text := styled 1

/-- Dim text. -/
def dim : Text → Text := styled 2

/-- Green text. -/
def green : Text → Text := styled 32

/-- Yellow text. -/
def yellow : Text → Text := styled 33

/-- Cyan text. -/
def cyan : Text → Text := styled 36

/-! ## Lines -/

/-- A line after a mark. -/
def marked (mark t : Text) : Text := "  ".toList ++ mark ++ ' ' :: t ++ ['\n']

/-- Something succeeded. -/
def ok (t : Text) : Text := marked (green "✓".toList) t

/-- Something deserves attention. -/
def warn (t : Text) : Text := marked (yellow "!".toList) t

/-- Something begins. -/
def arrow (t : Text) : Text := marked (green "→".toList) t

/-- A remark. -/
def detail (t : Text) : Text := "        ".toList ++ t ++ ['\n']

/-- A value under its name. -/
def label (name : String) (value : Text) : Text := detail (dim name.toList ++ ' ' :: cyan value)

/-- The program, the command and the version. -/
def banner (command : String) : Text :=
  "\n  ".toList ++ bold programName ++ ' ' :: command.toList ++ ' ' :: dim ('v' :: version)
    ++ "\n\n".toList

/-! ## Reports -/

/-- What a compilation has produced. -/
def compiled (o : Output) (options : Options) : Text :=
  label "func" (o.file.function ++ '(' :: o.file.signature ++ [')'])
    ++ label "package" options.package
    ++ (match o.layout with
        | some layout => label "layout" layout
        | none => [])
    ++ (if o.file.sections.isEmpty then []
        else label "sections" (", ".toList.intercalate (o.file.sections.map (·.name))))
    ++ (if options.escape then [] else warn "html escaping disabled".toList)

/-- The number of bytes of a text in UTF-8. -/
def byteLength (t : Text) : Nat := t.foldl (fun n c => n + c.utf8Size) 0

/-- A file has been written. -/
def written (path source : Text) : Text :=
  ok (path ++ "  ".toList ++ formatSize (byteLength source)) ++ ['\n']

/-- What an inspection has found. -/
def inspected (path : Text) (s : Summary) : Text :=
  banner "inspect" ++ arrow path
    ++ label "markup" (decimal s.tally.markup) ++ label "control" (decimal s.tally.control)
    ++ label "expression" (decimal s.tally.expression) ++ label "tokens" (decimal s.tally.tokens)
    ++ label "depth" (decimal s.tally.depth)
    ++ (match s.first with
        | some mode =>
          if s.hasDeclarations then
            ok ("first node is ".toList ++ mode.name ++ ": declaration block".toList)
          else detail ("first node is ".toList ++ mode.name ++ ": no declarations".toList)
        | none => warn "empty template".toList)
    ++ ['\n']

/-- How the command is used. -/
def usage : Text :=
  "Compile templates into Go source\n\nUsage: gotpl <COMMAND>\n\nCommands:\n  compile  DOCUMENT [-o|--out FILE] [-c|--config FILE] [--no-escape] [--keep-name] [--package NAME] [--namespace PATH]\n  inspect  DOCUMENT\n".toList

end GoTemplate.Report
