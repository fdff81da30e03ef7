import Concierge.Audit.Entry
import Concierge.Console.Table
import Concierge.Directive
import Concierge.Json.Writer

/-!
# Reports on the console

What the commands print: tables of triggers and of audit entries, settings, results, and the
directives of a text with the text that is displayed. Texts from elsewhere are escaped.
-/

namespace Concierge.Console

/-- Why something cannot be printed. -/
inductive Unshown where
  | markup (error : Markup.MarkupError)
  /-- A value of this kind stands where a text is needed. -/
  | notText (kind : String)
  /-- A value of this kind stands where a word for an outcome is needed. -/
  | notWord (kind : String)
  /-- A value of this kind cannot be a cell of a table. -/
  | notCell (kind : String)
  | number (error : NumberError)
  deriving DecidableEq, Repr

/-- The class that the error is reported under. -/
def Unshown.label : Unshown → String
  | markup e => e.label
  | notText _ | notWord _ => "TypeError"
  | notCell _ => "NotRenderableError"
  | number e => e.label

/-- The wording of the error. -/
def Unshown.message : Unshown → String
  | markup e => e.message
  | notText kind => (Fault.notText kind).message
  | notWord kind => (ShapeError.notKey kind).message
  | notCell kind =>
    "unable to render " ++ kind ++ "; a string or other renderable object is required"
  | number e => e.message

/-- Lines to print, unless they cannot be shown. -/
abbrev Lines := Except Unshown (List String)

/-- The lines of a text with markup. -/
def printed (s : String) : Lines := (printedLines s).mapError .markup

/-- The lines of several texts. -/
def printedAll (texts : List String) : Lines := do return (← texts.mapM printed).flatten

/-- A text of any kind of value that is shown as it is; only a text can be. -/
def escaped : Value → Except Unshown String
  | .text s => .ok (Markup.escape s)
  | v => .error (.notText v.kind)

/-- Whether something succeeded. -/
def status (success : Bool) : String := if success then "[green]ok[/green]" else "[red]failed[/red]"

/-- The table of triggers, and which of them are switched on. -/
def triggerTable {σ : Type} (triggers : List (Trigger σ)) (enabled : Dict Bool) : Lines :=
  if triggers.isEmpty then printed "[dim]No triggers registered.[/dim]"
  else
    let rows := triggers.map fun t =>
      let d := t.definition
      let on := (Dict.find? d.id enabled).getD true
      [d.id, Markup.escape d.name, if on then "[green]yes[/green]" else "[red]no[/red]",
       Markup.escape d.pattern.source]
    (table [("ID", .left), ("Name", .left), ("Enabled", .left), ("Pattern", .left)]
      rows).mapError .markup

/-- A setting as it is shown: a long text is cut. -/
def shortened : Value → Value
  | .text s => if s.length ≤ 60 then .text s else .text (Text.taken 57 s ++ "...")
  | v => v

/-- A setting with its name. -/
def settingText (e : Value × Value) : Except Unshown String := do
  let name ← escaped e.1
  return "  " ++ name ++ ": " ++ Markup.escape (← (shortened e.2).literal.mapError .number)

/-- The settings of a trigger. -/
def settingLines (id : Value) (values : List (Value × Value)) : Lines := do
  let heading ← printed ("[bold]" ++ (← escaped id) ++ "[/bold]")
  let settings ← values.mapM fun e => do printed (← settingText e)
  return heading ++ settings.flatten

/-- The styles of outcomes. -/
def outcomeStyles : List (String × String) :=
  [("executed", "green"), ("failed", "yellow"), ("error", "red"), ("invalid", "yellow"),
   ("denied", "red"), ("rate_limited", "magenta")]

/-- The style of an outcome. -/
def outcomeStyle : Value → Except Unshown String
  | .text s => .ok ((outcomeStyles.lookup s).getD "white")
  | v => if v.isKey then .ok "white" else .error (.notWord v.kind)

/-- A value as a cell: a text, or nothing. -/
def cellOf : Value → Except Unshown String
  | .null => .ok ""
  | .text s => .ok s
  | v => .error (.notCell v.kind)

/-- The row of an audit entry. -/
def entryRow (e : Audit.Entry) : Except Unshown (List String) := do
  let style ← outcomeStyle e.outcome
  let message ← escaped e.message
  let trigger ← cellOf e.triggerId
  let user ← if e.userId.truthy then e.userId.shown.mapError .number else pure "guest"
  let outcome ← e.outcome.shown.mapError .number
  return [e.timestamp.plain, trigger, user, "[" ++ style ++ "]" ++ outcome ++ "[/" ++ style ++ "]",
    message]

/-- The table of audit entries. -/
def logTable (entries : List Audit.Entry) : Lines := do
  if entries.isEmpty then printed "[dim]No trigger executions logged.[/dim]"
  else
    let rows ← entries.mapM entryRow
    (table
      [("Time", .left), ("Trigger", .left), ("User", .right), ("Outcome", .left),
       ("Message", .left)] rows).mapError .markup

/-- The result of a trigger with its data. -/
def resultLines (id success message data : Value) : Lines := do
  let first ← printed
    (status success.truthy ++ " [cyan]" ++ (← escaped id) ++ "[/cyan]: " ++ (← escaped message))
  let rest ←
    if data.truthy then do
      printed ("  data: " ++ Markup.escape (← (Json.write Json.spaced data).mapError .number))
    else pure []
  return first ++ rest

/-- The report of a directive. -/
def reportLines (r : Report) : Lines := resultLines r.triggerId r.success r.message r.data

/-- The text that is displayed, under a blank line. -/
def displayLines (text : String) : Lines :=
  printedAll ["", "[bold]Display text:[/bold] " ++ Markup.escape text]

/-- What is said of a text without directives. -/
def noDirectives : String := "[dim]No directives found.[/dim]"

/-- The reports of the directives of a text. -/
def dispatchLines (reports : List Report) (text : String) : Lines := do
  let first ←
    if reports.isEmpty then printed noDirectives else do pure (← reports.mapM reportLines).flatten
  return first ++ (← displayLines text)

/-- A number with at least four places. -/
def fourPlaces (n : Int) : String :=
  let digits := (toString n).toList
  String.ofList (List.replicate (4 - digits.length) ' ' ++ digits)

/-- An argument of a directive. -/
def argumentText (e : String × Value) : Except Unshown String := do
  return e.1 ++ "=" ++ (← e.2.literal.mapError .number)

/-- The directive of a text. -/
def directiveText {σ : Type} (d : Directive σ) : Except Unshown String := do
  let arguments ← d.params.mapM argumentText
  return "[yellow]" ++ fourPlaces d.start ++ "[/yellow] [cyan]" ++ Markup.escape d.trigger.id ++
    "[/cyan] " ++ Markup.escape (String.intercalate ", " arguments)

/-- The directives of a text that is not executed. -/
def directiveLines {σ : Type} (ds : List (Directive σ)) (text : String) : Lines := do
  let texts ← if ds.isEmpty then pure [noDirectives] else ds.mapM directiveText
  let first ← printedAll texts
  return first ++ (← displayLines text)

/-- An error, whose wording may hold markup. -/
def errorLines (message : String) : Lines := printed ("[red]Error:[/red] " ++ message)

end Concierge.Console
