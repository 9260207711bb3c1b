import Mathlib.Data.List.Forall2
import Mathlib.Order.Bounds.Defs
import PageAudit.Proofs.Check.Verdict
import PageAudit.Proofs.Json.Records
import PageAudit.Recognition.Response

/-!
# What the answer of a service comes to

Every body comes to one of four ends. It is no response, or it tells of a completed recognition, of a
failure, or of something unknown; which of the three is said by its status alone. A completed recognition
has the text and the tables of the response, whichever name the text goes by, and its rows are counted
as they stand there.
-/

namespace PageAudit.Recognition

variable {r : Response} {ms : List (String × Json)} {items : List Json} {j : Json}

namespace Response

/-! ## The fields of a response -/

def statusField : Json.Field (Option String) := .optional "status" Json.toText

def textField : Json.Field String :=
  (Json.Field.defaulting "text" Json.toText "").orNamed ["raw_text", "rawText"]

def tablesField : Json.Field (List (List String × List (List String))) :=
  .defaulting "tables" (Json.toList cellsOfJson) []

def confidenceField : Json.Field Double := .defaulting "confidence" Json.toDouble .zero

def errorField : Json.Field (Option String) :=
  (Json.Field.optional "error" Json.toText).orNamed ["errorMessage", "error_message"]

def fields : Json.Fields
    [Option String, String, List (List String × List (List String)), Double, Option String] :=
  (statusField, textField, tablesField, confidenceField, errorField, ())

/-- What is read for the fields of a response. -/
def values (r : Response) : Json.Values
    [Option String, String, List (List String × List (List String)), Double, Option String] :=
  (r.status, r.text, r.tables, r.confidence, r.error, ())

theorem ofJson_eq_ok_iff : ofJson j = .ok r ↔ fields.decode "ServiceResponse" j = .ok r.values := by
  change (fields.decode "ServiceResponse" j >>= _) = .ok r ↔ _
  cases fields.decode "ServiceResponse" j with
  | error e => simp [bind, Except.bind]
  | ok read =>
      obtain ⟨status, text, tables, confidence, error, ⟨⟩⟩ := read
      constructor
      · rintro ⟨⟩
        rfl
      · rintro ⟨⟩
        rfl

theorem fields_disjoint : fields.Disjoint :=
  ⟨by decide, by decide, by decide, by decide, by decide, trivial⟩

theorem ofJson_object_iff : ofJson (.object ms) = .ok r ↔
    statusField.Reads r.status (statusField.found ms) ∧ textField.Reads r.text (textField.found ms) ∧
      tablesField.Reads r.tables (tablesField.found ms) ∧
      confidenceField.Reads r.confidence (confidenceField.found ms) ∧
      errorField.Reads r.error (errorField.found ms) := by
  rw [ofJson_eq_ok_iff, Json.Fields.decode_object_iff fields_disjoint]
  simp only [fields, values, Json.Fields.ReadsObject, and_true]

theorem ofJson_array_iff : ofJson (.array items) = .ok r ↔
    statusField.Reads r.status (items.take 1) ∧ textField.Reads r.text ((items.drop 1).take 1) ∧
      tablesField.Reads r.tables ((items.drop 2).take 1) ∧
      confidenceField.Reads r.confidence ((items.drop 3).take 1) ∧
      errorField.Reads r.error ((items.drop 4).take 1) ∧ items.drop 5 = [] := by
  rw [ofJson_eq_ok_iff, Json.Fields.decode_array_iff]
  simp only [fields, values, Json.Fields.ReadsItems, List.drop_drop]

/-! ## What an object says -/

/-- The names under which a text is accepted. -/
def textNames : List String := ["text", "raw_text", "rawText"]

/-- The names under which an error is accepted. -/
def errorNames : List String := ["error", "errorMessage", "error_message"]

/-- A text that there may not be, as it stands in a document. -/
def textOrNull : Option String → Json
  | none => .null
  | some s => .string s

/-- The members of these names hold the value, which is the one that stands for it if there is no such
member. -/
structure Holds {α : Type} (names : List String) (encode : α → Json) (default : α)
    (ms : List (String × Json)) (a : α) : Prop where
  member : ∀ m ∈ ms, m.1 ∈ names → m.2 = encode a
  missing : (∀ m ∈ ms, m.1 ∉ names) → a = default

/-- The object says the status, the text and the error of the response. -/
structure SaidBy (ms : List (String × Json)) (r : Response) : Prop where
  status : Holds ["status"] textOrNull none ms r.status
  text : Holds textNames Json.string "" ms r.text
  error : Holds errorNames textOrNull none ms r.error

theorem holds_of_reads {α : Type} {f : Json.Field α} {names : List String} {encode : α → Json}
    {default a : α} (hnames : names = f.name :: f.aliases)
    (hdecode : ∀ j b, f.decode j = .ok b → j = encode b) (habsent : f.absent = some default)
    (h : f.Reads a (f.found ms)) : Holds names encode default ms a where
  member m hm hname := hdecode _ _ (h.member hm (Json.Field.answersTo_iff.mpr (hnames ▸ hname)))
  missing hnone := by
    have hother : ∀ m ∈ ms, f.answersTo m.1 = false := fun m hm =>
      Bool.eq_false_iff.mpr fun hname => hnone m hm (hnames ▸ Json.Field.answersTo_iff.mp hname)
    exact Option.some.inj ((h.missing hother).symm.trans habsent)

theorem eq_string_of_toText {s : String} (h : Json.toText j = .ok s) : j = .string s := by
  cases j <;> cases h
  rfl

theorem eq_textOrNull_of_toOption {s : Option String} (h : Json.toOption Json.toText j = .ok s) :
    j = textOrNull s := by
  cases j <;> cases h <;> rfl

theorem saidBy_of_ofJson (h : ofJson (.object ms) = .ok r) : r.SaidBy ms := by
  obtain ⟨hstatus, htext, -, -, herror⟩ := ofJson_object_iff.mp h
  exact ⟨holds_of_reads rfl (fun _ _ => eq_textOrNull_of_toOption) rfl hstatus,
    holds_of_reads rfl (fun _ _ => eq_string_of_toText) rfl htext,
    holds_of_reads rfl (fun _ _ => eq_textOrNull_of_toOption) rfl herror⟩

end Response

/-! ## Tables -/

/-- The table has these cells and is as wide as its widest row. -/
structure Lays (cells : List String × List (List String)) (t : Table) : Prop where
  headers : t.headers = cells.1
  rows : t.rows = cells.2
  rowCount : t.rowCount = cells.2.length
  columnCount : IsGreatest {n | n ∈ cells.1.length :: cells.2.map List.length} t.columnCount

theorem isGreatest_foldl_max (n : Nat) (ns : List Nat) :
    IsGreatest {m | m ∈ n :: ns} (ns.foldl max n) :=
  List.max?_eq_some_iff.mp rfl

theorem lays_ofCells (cells : List String × List (List String)) :
    Lays cells (.ofCells cells.1 cells.2) :=
  ⟨rfl, rfl, rfl, isGreatest_foldl_max _ _⟩

namespace Response

/-- The number of rows in all tables of a response together. -/
def rows (r : Response) : Nat := (r.tables.map fun cells => cells.2.length).sum

/-- The result of a completed recognition that has what the response has. -/
structure Tells (r : Response) (x : Result) : Prop where
  status : x.status = .completed
  errorMessage : x.errorMessage = none
  rawText : x.rawText = r.text
  confidence : x.confidence = r.confidence
  tables : List.Forall₂ Lays r.tables x.tables

theorem tells_completed (r : Response) :
    r.Tells (.completed r.text r.confidence (r.tables.map fun t => .ofCells t.1 t.2)) :=
  ⟨rfl, rfl, rfl, rfl,
    List.forall₂_map_right_iff.mpr (List.forall₂_same.mpr fun cells _ => lays_ofCells cells)⟩

namespace Tells

variable {x : Result}

theorem totalRows_eq (h : r.Tells x) : x.totalRows = r.rows := by
  have hcounts : ∀ {read : List (List String × List (List String))} {tables : List Table},
      List.Forall₂ Lays read tables →
      tables.map Table.rowCount = read.map fun cells => cells.2.length := by
    intro read tables htables
    induction htables with
    | nil => rfl
    | cons hlays _ ih => rw [List.map_cons, List.map_cons, hlays.rowCount, ih]
  rw [Result.totalRows, rows, hcounts h.tables]

theorem isFailed (h : r.Tells x) : x.isFailed = false := by
  rw [Result.isFailed, h.status]
  rfl

/-- The rows that are counted are those of the response. -/
theorem tableMinRows_passed_iff (h : r.Tells x) (minRows : Nat) :
    (Check.tableMinRows x minRows).passed = true ↔ r.tables ≠ [] ∧ minRows ≤ r.rows := by
  have hnil : x.tables = [] ↔ r.tables = [] := by
    rw [← List.length_eq_zero_iff, ← List.length_eq_zero_iff, h.tables.length_eq]
  rw [← h.totalRows_eq, ne_eq, ← hnil]
  exact Check.passed_iff_holds h.isFailed (.tableMinRows minRows)

end Tells

/-! ## The ends of a body -/

/-- The status of a response, in lower case, decides what becomes of it. -/
theorem result_ends (r : Response) :
    (r.status.map Text.lower ∈ [none, some "completed", some "success", some "ok"] ∧
        ∃ x, r.result = .ok x ∧ r.Tells x) ∨
      (r.status.map Text.lower ∈ [some "failed", some "error"] ∧
        r.result = .error (.service (r.error.getD "service reported failure"))) ∨
      ∃ s, r.status.map Text.lower = some s ∧
        s ∉ ["completed", "success", "ok", "failed", "error"] ∧
        r.result = .error (.invalidResponse (.unknownStatus s)) := by
  unfold result
  cases r.status.map Text.lower with
  | none => exact Or.inl ⟨List.mem_cons_self, _, rfl, r.tells_completed⟩
  | some s =>
      by_cases hsuccess : s ∈ successWords
      · refine Or.inl ⟨?_, _, if_pos (List.contains_iff_mem.mpr hsuccess), r.tells_completed⟩
        simpa [successWords] using hsuccess
      · have hsuccess' : ¬ successWords.contains s = true := mt List.contains_iff_mem.mp hsuccess
        by_cases hfailure : s ∈ failureWords
        · refine Or.inr (Or.inl ⟨by simpa [failureWords] using hfailure, ?_⟩)
          dsimp only
          rw [if_neg hsuccess', if_pos (List.contains_iff_mem.mpr hfailure)]
        · refine Or.inr (Or.inr ⟨s, rfl, ?_, ?_⟩)
          · simp only [successWords, failureWords, List.mem_cons, List.not_mem_nil, or_false,
              not_or] at hsuccess hfailure ⊢
            exact ⟨hsuccess.1, hsuccess.2.1, hsuccess.2.2, hfailure⟩
          · dsimp only
            rw [if_neg hsuccess', if_neg (mt List.contains_iff_mem.mp hfailure)]

theorem parse_of_ofJson {body : ByteArray} (hj : Json.ofSource? (.ofBytes body) = some j)
    (hr : ofJson j = .ok r) : parse body = r.result := by
  rw [parse, Json.Source.decode_eq_ok_iff.mpr ⟨j, hj, hr⟩]

/-- A body that is no response is invalid. Of a response the status alone says whether it tells of a
completed recognition, of a failure or of something unknown; and a completed recognition has the text,
under whichever name it is said, and the tables of the response, each as wide as its widest row, and is
checked for the rows that stand in them. -/
theorem parse_ends (body : ByteArray) :
    (∃ e account, (Json.Source.ofBytes body).decode ofJson = .error e ∧
        parse body = .error (.invalidResponse (.undecodable e account))) ∨
      ∃ j r, Json.ofSource? (.ofBytes body) = some j ∧ ofJson j = .ok r ∧
        (∀ ms, j = .object ms → r.SaidBy ms) ∧
        ((r.status.map Text.lower ∈ [none, some "completed", some "success", some "ok"] ∧
            ∃ x, parse body = .ok x ∧ r.Tells x ∧ x.totalRows = r.rows ∧
              ∀ minRows, (Check.tableMinRows x minRows).passed = true ↔
                r.tables ≠ [] ∧ minRows ≤ r.rows) ∨
          (r.status.map Text.lower ∈ [some "failed", some "error"] ∧
            parse body = .error (.service (r.error.getD "service reported failure"))) ∨
          ∃ s, r.status.map Text.lower = some s ∧
            s ∉ ["completed", "success", "ok", "failed", "error"] ∧
            parse body = .error (.invalidResponse (.unknownStatus s))) := by
  cases hdecode : (Json.Source.ofBytes body).decode ofJson with
  | error e => exact Or.inl ⟨e, _, rfl, by rw [parse, hdecode]⟩
  | ok r =>
      obtain ⟨j, hj, hr⟩ := Json.Source.decode_eq_ok_iff.mp hdecode
      refine Or.inr ⟨j, r, hj, hr, fun ms hms => saidBy_of_ofJson (hms ▸ hr), ?_⟩
      rw [parse_of_ofJson hj hr]
      rcases r.result_ends with ⟨hstatus, x, hx, htells⟩ | hfailed | hunknown
      · exact Or.inl ⟨hstatus, x, hx, htells, htells.totalRows_eq, htells.tableMinRows_passed_iff⟩
      · exact Or.inr (Or.inl hfailed)
      · exact Or.inr (Or.inr hunknown)

end Response

end PageAudit.Recognition
