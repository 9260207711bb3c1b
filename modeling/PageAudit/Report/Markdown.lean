import PageAudit.Report.Summary

/-!
Reports as Markdown: tables of the totals, of the modules and of the pages, and what failed.
-/

namespace PageAudit.Report.Markdown

def cell (s : String) : String :=
  String.ofList (s.toList.flatMap fun c => if c = '|' then ['\\', '|'] else [c])

def row (cells : List String) : String := "| " ++ " | ".intercalate cells ++ " |"

def code (s : String) : String := "\x60" ++ s ++ "\x60"

def mark (passed : Bool) : String := if passed then "✅" else "❌"

/-- A table with a blank line after it. -/
def table (headers : List String) (rule : String) (rows : List (List String)) : List String :=
  row headers :: rule :: rows.map row ++ [""]

def headLines (r : Report) : List String :=
  ["# Page Validation Report", "",
    "- **Started**: " ++ r.startTime.displayText,
    "- **Duration**: " ++ toString r.totalDurationMs ++ " ms",
    "- **Host**: " ++ r.environment.host ++ " (page-vision " ++ r.environment.version ++
      ", target " ++ r.environment.target ++ ")", ""]

def summaryRows (t : Totals) : List (List String) :=
  [["Total pages", toString t.total], ["✅ Passed", toString t.passed],
    ["❌ Failed", toString t.failed], ["Pass rate", t.passRate.fixed 1 ++ "%"]]

def summaryLines (r : Report) : List String :=
  "## Summary" :: "" :: table ["Metric", "Value"] "|--------|------:|" (summaryRows r.totals)

def moduleRow (entry : String × ModuleTotals) : List String :=
  [cell entry.1, toString entry.2.total, toString entry.2.passed, toString entry.2.failed]

def moduleLines (r : Report) : List String :=
  if r.byModule.isEmpty then []
  else "## Modules" :: "" :: table ["Module", "Total", "Passed", "Failed"]
    "|--------|------:|-------:|-------:|" (r.byModule.map moduleRow)

def pageRow (p : PageResult) : List String :=
  [mark p.passed, cell p.pageName, code (cell p.route), toString p.durationMs ++ " ms"]

def pageLines (r : Report) : List String :=
  if r.results.isEmpty then []
  else "## Pages" :: "" :: table ["Status", "Page", "Route", "Duration"]
    "|:------:|------|-------|---------:|" (r.results.map pageRow)

def failureLines (p : PageResult) : List String :=
  ["", "### " ++ cell p.pageName ++ " (" ++ code (cell p.route) ++ ")", ""] ++
    (p.error.map fun e => "- ❌ " ++ e).toList ++
    p.failedChecks.map fun c => "- ❌ **" ++ c.kind.label ++ "**: " ++ c.message

def failuresLines (r : Report) : List String :=
  if r.failedPages.isEmpty then [] else "## Failures" :: r.failedPages.flatMap failureLines

def lines (r : Report) : List String :=
  headLines r ++ summaryLines r ++ moduleLines r ++ pageLines r ++ failuresLines r

def render (r : Report) : String := String.join ((lines r).map (· ++ "\n"))

end PageAudit.Report.Markdown
