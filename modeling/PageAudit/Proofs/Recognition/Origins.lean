import Mathlib.Data.List.TakeWhile
import PageAudit.Proofs.Text.Search
import PageAudit.Recognition.Endpoint

/-!
# Where a service is asked

A service is asked whether it is there at a host, by the scheme that is written before the first `://`
of its endpoint. Path, query and fragment are left out behind that mark, but not before it: an endpoint
without a scheme that names another address in its query is asked at no origin.
-/

namespace PageAudit.Recognition

/-! ## Endpoints -/

/-- The text has nothing in it that ends an authority. -/
def Plain (s : String) : Prop := '/' ∉ s.toList ∧ '?' ∉ s.toList ∧ '#' ∉ s.toList

/-- There is nothing left, or what is left begins with the end of an authority. -/
def Ends (rest : String) : Prop := ∀ c ∈ rest.toList.head?, c = '/' ∨ c = '?' ∨ c = '#'

/-- The host that is asked at an address: what stands there, or else this machine. -/
inductive HostOf (address : String) : String → Prop
  | named {host rest : String} (cut : address = host ++ rest) (plain : Plain host)
      (nonempty : host ≠ "") (ends : Ends rest) : HostOf address host
  | unnamed (ends : Ends address) : HostOf address "127.0.0.1:8866"

/-- The text before the first `://` of an endpoint, and the text behind it. -/
structure Marked (endpoint before address : String) : Prop where
  cut : endpoint = before ++ "://" ++ address
  first : ∀ other rest, endpoint = other ++ "://" ++ rest → before.length ≤ other.length

/-- What an endpoint says: the scheme before its first `://`, and plain HTTP if there is none. -/
inductive Says (endpoint : String) : String → String → Prop
  | schemed {scheme address : String} (marked : Marked endpoint scheme address)
      (plain : Plain scheme) : Says endpoint scheme address
  | bare (unmarked : ∀ before address, Marked endpoint before address → ¬Plain before) :
      Says endpoint "http" endpoint

/-- The service is asked at the origin that its endpoint says. -/
def AskedAtOrigin (endpoint : String) : Prop :=
  ∃ scheme address host, Says endpoint scheme address ∧ HostOf address host ∧ Plain scheme ∧
    Plain host ∧ host ≠ "" ∧ probeUrl endpoint = scheme ++ "://" ++ host

variable {endpoint before scheme address host : String} {cs front : List Char}

/-! ## Hosts -/

/-- The host at an address, or the default one. -/
def hostAt (address : List Char) : List Char :=
  if (authority address).isEmpty then defaultAuthority else authority address

theorem endsAuthority_iff {c : Char} : endsAuthority c = true ↔ c = '/' ∨ c = '?' ∨ c = '#' := by
  simp [endsAuthority, or_assoc]

theorem plain_iff : Plain (String.ofList cs) ↔ ∀ c ∈ cs, endsAuthority c = false := by
  simp only [Plain, String.toList_ofList, endsAuthority, Bool.or_eq_false_iff, beq_eq_false_iff_ne]
  constructor
  · rintro ⟨hslash, hquery, hhash⟩ c hc
    exact ⟨⟨ne_of_mem_of_not_mem hc hslash, ne_of_mem_of_not_mem hc hquery⟩,
      ne_of_mem_of_not_mem hc hhash⟩
  · intro h
    exact ⟨fun hc => (h _ hc).1.1 rfl, fun hc => (h _ hc).1.2 rfl, fun hc => (h _ hc).2 rfl⟩

theorem plain_defaultAuthority : ∀ c ∈ defaultAuthority, endsAuthority c = false := by
  have hall : defaultAuthority.all (!endsAuthority ·) = true := by decide +kernel
  exact fun c hc => Bool.not_eq_true' _ ▸ List.all_eq_true.mp hall c hc

theorem not_ends_of_mem_authority {c : Char} (h : c ∈ authority cs) : endsAuthority c = false := by
  simpa using List.mem_takeWhile_imp h

theorem not_ends_of_mem_hostAt {c : Char} (h : c ∈ hostAt cs) : endsAuthority c = false := by
  rw [hostAt] at h
  split at h
  · exact plain_defaultAuthority c h
  · exact not_ends_of_mem_authority h

theorem hostAt_ne_nil (cs : List Char) : hostAt cs ≠ [] := by
  rw [hostAt]
  split
  · decide
  · next hsome => exact fun hnil => hsome (List.isEmpty_iff.mpr hnil)

/-- A host has itself as its host. -/
theorem hostAt_hostAt (cs : List Char) : hostAt (hostAt cs) = hostAt cs := by
  have hwhole : authority (hostAt cs) = hostAt cs := by
    refine List.takeWhile_eq_self_iff.mpr fun c hc => ?_
    rw [not_ends_of_mem_hostAt hc, Bool.not_false]
  rw [hostAt, hwhole, if_neg]
  exact fun hnil => hostAt_ne_nil cs (List.isEmpty_iff.mp hnil)

theorem HostOf.plain (h : HostOf address host) : Plain host := by
  cases h with
  | named _ hplain => exact hplain
  | unnamed => exact ⟨by decide, by decide, by decide⟩

theorem HostOf.ne_empty (h : HostOf address host) : host ≠ "" := by
  cases h with
  | named _ _ hne => exact hne
  | unnamed => decide

theorem hostOf_hostAt (address : String) :
    HostOf address (String.ofList (hostAt address.toList)) := by
  have hrest : Ends (String.ofList (address.toList.dropWhile (!endsAuthority ·))) := by
    intro c hc
    rw [String.toList_ofList] at hc
    have hstop := List.head?_dropWhile_not (!endsAuthority ·) address.toList
    rw [hc] at hstop
    exact endsAuthority_iff.mp (Bool.not_eq_false' _ ▸ hstop)
  have hcut := List.takeWhile_append_dropWhile (p := (!endsAuthority ·)) (l := address.toList)
  rw [hostAt]
  split
  · next hnone =>
      rw [authority, List.isEmpty_iff] at hnone
      rw [hnone, List.nil_append] at hcut
      rw [hcut, String.ofList_toList] at hrest
      exact .unnamed hrest
  · next hsome =>
      refine .named ?_ ?_ ?_ hrest
      · rw [← String.toList_inj, String.toList_append, String.toList_ofList, String.toList_ofList]
        exact hcut.symm
      · exact plain_iff.mpr fun c hc => not_ends_of_mem_authority hc
      · rw [Ne, ← String.toList_eq_nil_iff, String.toList_ofList]
        exact fun hnil => hsome (List.isEmpty_iff.mpr hnil)

/-! ## Schemes -/

theorem marked_iff : Marked endpoint before address ↔
    Text.splitOnce "://".toList endpoint.toList = some (before.toList, address.toList) := by
  rw [Text.splitOnce_eq_some_iff]
  constructor
  · rintro ⟨rfl, hfirst⟩
    refine ⟨by simp only [String.toList_append], fun other rest heq => ?_⟩
    have hlength := hfirst (String.ofList other) (String.ofList rest) (by
      simpa only [← String.toList_inj, String.toList_append, String.toList_ofList] using heq)
    simpa only [← String.length_toList, String.toList_ofList] using hlength
  · rintro ⟨heq, hfirst⟩
    refine ⟨?_, fun other rest hother => ?_⟩
    · simpa only [← String.toList_inj, String.toList_append] using heq
    · simp only [← String.length_toList]
      exact hfirst other.toList rest.toList (by simp only [hother, String.toList_append])

/-- Before a text without a slash no `://` can end, and none can begin in it. -/
theorem splitOnce_of_no_slash (h : '/' ∉ front) (rest : List Char) :
    Text.splitOnce "://".toList (front ++ "://".toList ++ rest) = some (front, rest) := by
  refine Text.splitOnce_eq_some_iff.mpr ⟨rfl, fun other tail heq => ?_⟩
  by_contra hshort
  have hslash : (front ++ "://".toList ++ rest)[other.length + 1]? = some '/' := by
    rw [heq]
    simp
  rcases Nat.lt_or_ge (other.length + 1) front.length with hlt | hge
  · rw [List.append_assoc, List.getElem?_append_left hlt] at hslash
    exact h (List.mem_of_getElem? hslash)
  · have hcolon : other.length + 1 = front.length := by omega
    rw [hcolon, List.append_assoc, List.getElem?_append_right (Nat.le_refl _), Nat.sub_self] at hslash
    cases hslash

theorem splitOnce_toList_of_plain (h : Plain scheme) :
    Text.splitOnce "://".toList (scheme ++ "://" ++ host).toList =
      some (scheme.toList, host.toList) := by
  rw [String.toList_append, String.toList_append]
  exact splitOnce_of_no_slash h.1 host.toList

/-! ## Probes -/

/-- What is asked, and where it is cut again. -/
theorem probeUrl_cut {endpoint : String} {front address : List Char}
    (h : splitScheme endpoint.toList = (front, address)) :
    probeUrl endpoint = String.ofList (front ++ "://".toList ++ hostAt address) ∧
      Text.splitOnce "://".toList (probeUrl endpoint).toList = some (front, hostAt address) := by
  have hprobe : probeUrl endpoint = String.ofList (front ++ "://".toList ++ hostAt address) := by
    rw [probeUrl, h]
    rfl
  have htext : (probeUrl endpoint).toList = front ++ "://".toList ++ hostAt address := by
    rw [hprobe]
    exact String.toList_ofList
  refine ⟨hprobe, ?_⟩
  rw [htext]
  unfold splitScheme at h
  cases hsplit : Text.splitOnce "://".toList endpoint.toList with
  | none =>
      have hhttp : '/' ∉ "http".toList := by decide
      rw [hsplit] at h
      cases h
      exact splitOnce_of_no_slash hhttp _
  | some cut =>
      rw [hsplit] at h
      cases h
      rw [(Text.splitOnce_eq_some_iff.mp hsplit).1] at hsplit
      exact Text.splitOnce_append hsplit _

theorem probeUrl_probeUrl (endpoint : String) : probeUrl (probeUrl endpoint) = probeUrl endpoint := by
  rcases hsplit : splitScheme endpoint.toList with ⟨front, address⟩
  obtain ⟨hprobe, hcut⟩ := probeUrl_cut hsplit
  have hagain : splitScheme (probeUrl endpoint).toList = (front, hostAt address) := by
    rw [splitScheme, hcut, Option.getD_some]
  rw [(probeUrl_cut hagain).1, hostAt_hostAt, hprobe]

theorem probeUrl_of_marked (h : Marked endpoint before address) :
    probeUrl endpoint = before ++ "://" ++ String.ofList (hostAt address.toList) := by
  have hsplit : splitScheme endpoint.toList = (before.toList, address.toList) := by
    rw [splitScheme, marked_iff.mp h, Option.getD_some]
  rw [(probeUrl_cut hsplit).1, ← String.toList_inj]
  simp only [String.toList_append, String.toList_ofList]

theorem probeUrl_of_unmarked (h : ∀ before address, ¬Marked endpoint before address) :
    probeUrl endpoint = "http" ++ "://" ++ String.ofList (hostAt endpoint.toList) := by
  have hnone : Text.splitOnce "://".toList endpoint.toList = none := by
    refine Option.eq_none_iff_forall_ne_some.mpr fun ⟨front, address⟩ hsplit => ?_
    refine h (String.ofList front) (String.ofList address) (marked_iff.mpr ?_)
    rw [hsplit, String.toList_ofList, String.toList_ofList]
  have hsplit : splitScheme endpoint.toList = ("http".toList, endpoint.toList) := by
    rw [splitScheme, hnone, Option.getD_none]
  rw [(probeUrl_cut hsplit).1, ← String.toList_inj]
  simp only [String.toList_append, String.toList_ofList]

/-- Before the first `://` of what is asked stands what stands before the first one of the endpoint. -/
theorem askedAtOrigin_iff :
    AskedAtOrigin endpoint ↔ ∀ before address, Marked endpoint before address → Plain before := by
  constructor
  · rintro ⟨scheme, _, host, -, -, hplain, -, -, hprobe⟩ before address hmarked
    have hcut : Marked (probeUrl endpoint) scheme host := by
      rw [hprobe]
      exact marked_iff.mpr (splitOnce_toList_of_plain hplain)
    have hsplit : splitScheme endpoint.toList = (before.toList, address.toList) := by
      rw [splitScheme, marked_iff.mp hmarked, Option.getD_some]
    have hsame := (marked_iff.mp hcut).symm.trans (probeUrl_cut hsplit).2
    rw [Option.some.injEq, Prod.mk.injEq, String.toList_inj] at hsame
    exact hsame.1 ▸ hplain
  · intro hplain
    by_cases hmark : ∃ before address, Marked endpoint before address
    · obtain ⟨before, address, hmarked⟩ := hmark
      have hhost := hostOf_hostAt address
      exact ⟨before, address, _, .schemed hmarked (hplain _ _ hmarked), hhost, hplain _ _ hmarked,
        hhost.plain, hhost.ne_empty, probeUrl_of_marked hmarked⟩
    · have hnone : ∀ before address, ¬Marked endpoint before address :=
        fun before address hmarked => hmark ⟨before, address, hmarked⟩
      have hhost := hostOf_hostAt endpoint
      exact ⟨"http", endpoint, _, .bare fun _ _ hmarked => absurd hmarked (hnone _ _), hhost,
        ⟨by decide, by decide, by decide⟩, hhost.plain, hhost.ne_empty, probeUrl_of_unmarked hnone⟩

/-- A service is asked at the host behind the first `://` of its endpoint, by what stands before it, and
by plain HTTP at the host of the whole endpoint if there is none. That is at the origin which the endpoint
says if nothing that ends an authority stands before the first `://`, and never otherwise. To ask where
it is asked changes nothing in any case. -/
theorem probeUrl_origin_iff (endpoint : String) :
    (∀ before address, Marked endpoint before address →
      ∃ host, HostOf address host ∧ probeUrl endpoint = before ++ "://" ++ host) ∧
    ((∀ before address, ¬Marked endpoint before address) →
      ∃ host, HostOf endpoint host ∧ probeUrl endpoint = "http" ++ "://" ++ host) ∧
    (AskedAtOrigin endpoint ↔
      ∀ before address, Marked endpoint before address → Plain before) ∧
    probeUrl (probeUrl endpoint) = probeUrl endpoint := by
  refine ⟨fun before address hmarked => ?_, fun hnone => ?_, askedAtOrigin_iff,
    probeUrl_probeUrl endpoint⟩
  · exact ⟨_, hostOf_hostAt address, probeUrl_of_marked hmarked⟩
  · exact ⟨_, hostOf_hostAt endpoint, probeUrl_of_unmarked hnone⟩

/-- An endpoint without a scheme that names another address in its query is asked at no origin. -/
theorem address_in_query_probed :
    let endpoint := "localhost:9000/ocr?next=http://x/y"
    probeUrl endpoint = "localhost:9000/ocr?next=http://x" ∧ ¬AskedAtOrigin endpoint := by
  intro endpoint
  refine ⟨by decide +kernel, fun horigin => ?_⟩
  have hmarked : Marked endpoint "localhost:9000/ocr?next=http" "x/y" :=
    marked_iff.mpr (by decide +kernel)
  exact absurd (askedAtOrigin_iff.mp horigin _ _ hmarked).1 (by decide)

end PageAudit.Recognition
