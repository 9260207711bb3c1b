import PageAudit.Report.Summary

/-!
Reports as HTML pages. A page is a row of pieces: tags, texts that are escaped, and fixed texts that
need no escaping. Nothing that a report contains can turn into a tag.
-/

namespace PageAudit.Report.Html

/-! ## Pieces -/

/-- One character of a text, harmless between tags and inside quotes. -/
def escapeChar (c : Char) : List Char :=
  if c = '&' then "&amp;".toList
  else if c = '<' then "&lt;".toList
  else if c = '>' then "&gt;".toList
  else if c = '"' then "&quot;".toList
  else if c = '\'' then "&#39;".toList
  else [c]

def escape (s : String) : String := String.ofList (s.toList.flatMap escapeChar)

inductive Piece where
  | tag (inside : String)
  | text (s : String)
  | plain (s : String)

def Piece.render : Piece → String
  | tag inside => "<" ++ inside ++ ">"
  | text s => escape s
  | plain s => s

def newLine : Piece := .plain "\n"

def withClass (name cls : String) : String := name ++ " class=\"" ++ cls ++ "\""

def element (name : String) (content : List Piece) : List Piece :=
  .tag name :: content ++ [.tag ("/" ++ name)]

def classed (name cls : String) (content : List Piece) : List Piece :=
  .tag (withClass name cls) :: content ++ [.tag ("/" ++ name)]

def table (headings : List String) (rows : List (List Piece)) : List Piece :=
  [.tag "table", newLine] ++
    element "tr" (headings.flatMap fun h => element "th" [.plain h]) ++ [newLine] ++
    rows.flatMap (· ++ [newLine]) ++ [.tag "/table", newLine]

/-! ## The frame of the page -/

def style : List String := [
  "        :root \x7b",
  "            --color-passed: #22c55e;",
  "            --color-failed: #ef4444;",
  "            --color-bg: #f8fafc;",
  "            --color-card: #ffffff;",
  "            --color-border: #e2e8f0;",
  "            --color-text: #1e293b;",
  "            --color-text-muted: #64748b;",
  "        \x7d",
  "        * \x7b box-sizing: border-box; margin: 0; padding: 0; \x7d",
  "        body \x7b",
  "            font-family: -apple-system, BlinkMacSystemFont, 'Segoe UI', Roboto, 'Helvetica Neue', Arial, sans-serif;",
  "            background: var(--color-bg);",
  "            color: var(--color-text);",
  "            line-height: 1.6;",
  "            padding: 2rem;",
  "        \x7d",
  "        .container \x7b max-width: 1200px; margin: 0 auto; \x7d",
  "        h1 \x7b font-size: 1.875rem; font-weight: 700; margin-bottom: 0.5rem; \x7d",
  "        h2 \x7b font-size: 1.25rem; font-weight: 600; margin: 1.5rem 0 1rem; \x7d",
  "        .meta \x7b color: var(--color-text-muted); font-size: 0.875rem; margin-bottom: 1.5rem; \x7d",
  "        .summary-grid \x7b display: grid; grid-template-columns: repeat(auto-fit, minmax(150px, 1fr)); gap: 1rem; margin-bottom: 2rem; \x7d",
  "        .summary-card \x7b background: var(--color-card); border-radius: 0.5rem; padding: 1.25rem; border: 1px solid var(--color-border); text-align: center; \x7d",
  "        .summary-card .value \x7b font-size: 2rem; font-weight: 700; display: block; \x7d",
  "        .summary-card .label \x7b font-size: 0.875rem; color: var(--color-text-muted); \x7d",
  "        .summary-card.passed .value \x7b color: var(--color-passed); \x7d",
  "        .summary-card.failed .value \x7b color: var(--color-failed); \x7d",
  "        table \x7b width: 100%; border-collapse: collapse; background: var(--color-card); border: 1px solid var(--color-border); margin-bottom: 1.5rem; \x7d",
  "        th, td \x7b padding: 0.75rem 1rem; text-align: left; border-bottom: 1px solid var(--color-border); font-size: 0.875rem; vertical-align: top; \x7d",
  "        th \x7b background: var(--color-bg); font-weight: 600; color: var(--color-text-muted); text-transform: uppercase; letter-spacing: 0.05em; \x7d",
  "        .status \x7b font-weight: 600; \x7d",
  "        .status.passed \x7b color: var(--color-passed); \x7d",
  "        .status.failed \x7b color: var(--color-failed); \x7d",
  "        ul.checks \x7b list-style: none; \x7d",
  "        ul.checks li.failed \x7b color: var(--color-failed); \x7d",
  "        code \x7b font-family: ui-monospace, SFMono-Regular, Menlo, monospace; \x7d"]

def head : List Piece :=
  [.tag "!DOCTYPE html", newLine, .tag "html lang=\"en\"", newLine, .tag "head", newLine,
    .plain "    ", .tag "meta charset=\"UTF-8\"", newLine,
    .plain "    ", .tag "meta name=\"viewport\" content=\"width=device-width, initial-scale=1.0\"",
    newLine,
    .plain "    ", .tag "title", .plain "Page Validation Report", .tag "/title", newLine,
    .plain "    ", .tag "style", newLine, .plain (String.join (style.map (· ++ "\n"))),
    .plain "    ", .tag "/style", newLine,
    .tag "/head", newLine, .tag "body", newLine, .tag (withClass "div" "container"), newLine]

def foot : List Piece :=
  [.tag "/div", newLine, .tag "/body", newLine, .tag "/html", newLine]

/-! ## The content -/

def particulars (r : Report) : List Piece :=
  classed "p" "meta"
    [.plain r.startTime.displayText, .plain " &middot; ", .plain (toString r.totalDurationMs),
      .plain " ms &middot; ", .text r.environment.host, .plain " &middot; page-vision ",
      .text r.environment.version]

def card (kind value label : String) : List Piece :=
  classed "div" kind
    (classed "span" "value" [.plain value] ++ classed "span" "label" [.plain label]) ++ [newLine]

def cards (t : Totals) : List Piece :=
  [.tag (withClass "div" "summary-grid"), newLine] ++
    card "summary-card " (toString t.total) "Total" ++
    card "summary-card passed" (toString t.passed) "Passed" ++
    card "summary-card failed" (toString t.failed) "Failed" ++
    card "summary-card" (t.passRate.fixed 1 ++ "%") "Pass rate" ++ [.tag "/div", newLine]

def moduleRow (entry : String × ModuleTotals) : List Piece :=
  element "tr" (element "td" [.text entry.1] ++ element "td" [.plain (toString entry.2.total)] ++
    element "td" [.plain (toString entry.2.passed)] ++
    element "td" [.plain (toString entry.2.failed)])

def outcomeClass (passed : Bool) : String := if passed then "passed" else "failed"

def outcomeLabel (passed : Bool) : String := if passed then "PASS" else "FAIL"

def checkItem (c : Check.Outcome) : List Piece :=
  classed "li" (outcomeClass c.passed) [.plain c.kind.label, .plain ": ", .text c.message]

def errorItem (error : String) : List Piece := classed "li" "failed" [.text error]

def pageRow (p : PageResult) : List Piece :=
  element "tr"
    (classed "td" ("status " ++ outcomeClass p.passed) [.plain (outcomeLabel p.passed)] ++
      element "td" [.text p.pageName] ++ element "td" (element "code" [.text p.route]) ++
      element "td" (classed "ul" "checks"
        (p.error.toList.flatMap errorItem ++ p.checks.flatMap checkItem)) ++
      element "td" [.plain (toString p.durationMs), .plain " ms"])

def content (r : Report) : List Piece :=
  element "h1" [.plain "Page Validation Report"] ++ [newLine] ++ particulars r ++ [newLine] ++
    cards r.totals ++
    element "h2" [.plain "Modules"] ++ [newLine] ++
    table ["Module", "Total", "Passed", "Failed"] (r.byModule.map moduleRow) ++
    element "h2" [.plain "Pages"] ++ [newLine] ++
    table ["Status", "Page", "Route", "Checks", "Duration"] (r.results.map pageRow)

def pieces (r : Report) : List Piece := head ++ content r ++ foot

def render (r : Report) : String := String.join ((pieces r).map Piece.render)

end PageAudit.Report.Html
