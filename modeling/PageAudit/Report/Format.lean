import PageAudit.Report.Html
import PageAudit.Report.Markdown

/-!
The formats of a report.
-/

namespace PageAudit.Report

inductive Format where
  | json
  | jsonPretty
  | markdown
  | html
  deriving DecidableEq

namespace Format

def default : Format := jsonPretty

def fileName : Format → String
  | json | jsonPretty => "report.json"
  | markdown => "report.md"
  | html => "report.html"

def saved : List Format := [jsonPretty, markdown, html]

end Format

def render (r : Report) : Format → String
  | .json => r.toJson.compact
  | .jsonPretty => r.toJson.pretty
  | .markdown => Markdown.render r
  | .html => Html.render r

end PageAudit.Report
