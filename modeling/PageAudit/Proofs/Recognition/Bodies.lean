import PageAudit.Proofs.Json.Sizes
import PageAudit.Proofs.Recognition.Responses

/-!
# How many rows an answer can have

Every row of a response is a value of its own in the body that it is read from, and every value takes a
byte. So no answer has more rows than bytes.
-/

namespace PageAudit

/-! ## What is read from a value -/

namespace Json

open size (sizeOfItems sizeOfMembers)

variable {α : Type} {decode : Decoder α} {weight : α → Nat} {f : Field α} {a : α} {as : List α}
  {j : Json} {js items : List Json} {ms : List (String × Json)}

theorem sum_of_decodeItems (hweight : ∀ j a, decode j = .ok a → weight a ≤ j.size)
    (h : decodeItems decode items = .ok as) : (as.map weight).sum ≤ sizeOfItems items := by
  induction items generalizing as with
  | nil =>
      cases h
      exact Nat.le_refl 0
  | cons j rest ih =>
      unfold decodeItems at h
      split at h
      · cases h
      next hj =>
        split at h
        · cases h
        next hrest =>
          cases h
          rw [List.map_cons, List.sum_cons, sizeOfItems]
          exact Nat.add_le_add (hweight _ _ hj) (ih hrest)

/-- If what is read from a value weighs no more than the value has values, so does what is read from a
list. -/
theorem sum_of_toList (hweight : ∀ j a, decode j = .ok a → weight a ≤ j.size)
    (h : toList decode j = .ok as) : (as.map weight).sum ≤ j.size := by
  cases j with
  | array items => exact Nat.le_succ_of_le (sum_of_decodeItems hweight h)
  | _ => cases h

theorem length_of_toList (h : toList decode j = .ok as) : as.length ≤ j.size := by
  have hone : ∀ j a, decode j = .ok a → (fun _ : α => 1) a ≤ j.size := fun j _ _ => size_pos j
  simpa using sum_of_toList hone h

/-- So does what a field has, whether it is read or missing. -/
theorem Field.Reads.weight_le {n : Nat} (h : f.Reads a js)
    (habsent : ∀ b, f.absent = some b → weight b = 0)
    (hweight : ∀ j b, f.decode j = .ok b → weight b ≤ j.size) (hjs : ∀ j ∈ js, j.size ≤ n) :
    weight a ≤ n := by
  match js with
  | [] =>
      rw [habsent a h]
      exact Nat.zero_le n
  | [j] => exact Nat.le_trans (hweight j a h) (hjs j List.mem_cons_self)

theorem size_of_mem_found (h : j ∈ f.found ms) : j.size ≤ sizeOfMembers ms := by
  obtain ⟨m, hm, rfl⟩ := List.mem_map.mp h
  exact size_le_sizeOfMembers (List.mem_filter.mp hm).1

theorem size_of_mem_place {n : Nat} (h : j ∈ (items.drop n).take 1) : j.size ≤ sizeOfItems items :=
  size_le_sizeOfItems (List.mem_of_mem_drop (List.mem_of_mem_take h))

end Json

/-! ## The rows of a response -/

namespace Recognition.Response

variable {r : Response} {cells : List String × List (List String)} {j : Json}

def headersField : Json.Field (List String) := .defaulting "headers" (Json.toList Json.toText) []

def rowsField : Json.Field (List (List String)) :=
  .defaulting "rows" (Json.toList (Json.toList Json.toText)) []

def cellFields : Json.Fields [List String, List (List String)] := (headersField, rowsField, ())

theorem cellFields_disjoint : cellFields.Disjoint := ⟨by decide, by decide, trivial⟩

theorem decode_of_cellsOfJson (h : cellsOfJson j = .ok cells) :
    cellFields.decode "ServiceTable" j = .ok (cells.1, cells.2, ()) := by
  change (cellFields.decode "ServiceTable" j >>= _) = .ok cells at h
  cases hread : cellFields.decode "ServiceTable" j with
  | error e =>
      rw [hread] at h
      cases h
  | ok read =>
      obtain ⟨headers, rows, ⟨⟩⟩ := read
      rw [hread] at h
      cases h
      rfl

/-- A table has no more rows than the document that it is read from has values. -/
theorem rows_of_cellsOfJson (h : cellsOfJson j = .ok cells) : cells.2.length ≤ j.size := by
  have hrows {n : Nat} {js : List Json} (hreads : rowsField.Reads cells.2 js)
      (hjs : ∀ j ∈ js, j.size ≤ n) : cells.2.length ≤ n := by
    have habsent : ∀ rows, rowsField.absent = some rows → rows.length = 0 := by
      rintro _ ⟨⟩
      rfl
    exact hreads.weight_le habsent (fun _ _ => Json.length_of_toList) hjs
  have hdecode := decode_of_cellsOfJson h
  cases j with
  | object ms =>
      obtain ⟨-, hread, -⟩ := (Json.Fields.decode_object_iff cellFields_disjoint).mp hdecode
      exact hrows hread fun _ hj => Nat.le_succ_of_le (Json.size_of_mem_found hj)
  | array items =>
      obtain ⟨-, hread, -⟩ := Json.Fields.decode_array_iff.mp hdecode
      exact hrows hread fun _ hj => Nat.le_succ_of_le (Json.size_of_mem_place hj)
  | _ => cases h

/-- A response has no more rows than the document that it is read from has values. -/
theorem rows_of_ofJson (h : ofJson j = .ok r) : r.rows ≤ j.size := by
  have hrows {n : Nat} {js : List Json} (hreads : tablesField.Reads r.tables js)
      (hjs : ∀ j ∈ js, j.size ≤ n) : r.rows ≤ n := by
    have habsent : ∀ tables, tablesField.absent = some tables →
        (tables.map fun cells => cells.2.length).sum = 0 := by
      rintro _ ⟨⟩
      rfl
    exact hreads.weight_le habsent (fun _ _ => Json.sum_of_toList fun _ _ => rows_of_cellsOfJson) hjs
  cases j with
  | object ms =>
      obtain ⟨-, -, htables, -, -⟩ := ofJson_object_iff.mp h
      exact hrows htables fun _ hj => Nat.le_succ_of_le (Json.size_of_mem_found hj)
  | array items =>
      obtain ⟨-, -, htables, -, -⟩ := ofJson_array_iff.mp h
      exact hrows htables fun _ hj => Nat.le_succ_of_le (Json.size_of_mem_place hj)
  | _ => cases h

/-- A recognition has no more rows than the answer that tells of it has bytes. -/
theorem totalRows_of_parse {body : ByteArray} {x : Result} (h : parse body = .ok x) :
    x.totalRows ≤ body.size := by
  cases hdecode : (Json.Source.ofBytes body).decode ofJson with
  | error e =>
      rw [parse, hdecode] at h
      cases h
  | ok r =>
      obtain ⟨j, hj, hr⟩ := Json.Source.decode_eq_ok_iff.mp hdecode
      rw [parse_of_ofJson hj hr] at h
      have htells : r.Tells x := by
        rcases r.result_ends with ⟨-, x', hx', htells⟩ | ⟨-, herror⟩ | ⟨s, -, -, herror⟩
        · cases h.symm.trans hx'
          exact htells
        · cases h.symm.trans herror
        · cases h.symm.trans herror
      calc x.totalRows
        _ = r.rows := htells.totalRows_eq
        _ ≤ j.size := rows_of_ofJson hr
        _ ≤ (Json.Source.ofBytes body).length := Json.size_of_ofSource? hj
        _ ≤ body.toList.length := Text.length_characters_le _
        _ = body.size := Text.length_toList body

end Recognition.Response

end PageAudit
