import MarkdownIntake.Console.Display

/-!
This module contains the notices that a program gives: errors, warnings, successes and the like.
-/

namespace MarkdownIntake.Console

def errorNotice (message : String) (hint : Option String := none) : String :=
  printMarkup s!"[bold red]Error:[/] {escape message}"
    ++ match hint with
      | none | some "" => ""
      | some hint => printMarkup s!"[dim]{escape hint}[/]"

def warningNotice (message : String) : String :=
  printMarkup s!"[yellow]Warning:[/] {escape message}"

def successNotice (message : String) : String :=
  printMarkup s!"[green]✅ {escape message}[/]"

def infoNotice (message : String) : String :=
  printMarkup s!"[dim]{escape message}[/]"

def progressNotice (message : String) : String :=
  printMarkup s!"[cyan]{escape message}...[/]"

end MarkdownIntake.Console
