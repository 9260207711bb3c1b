import PageAudit.Proofs.Capture.Pictures
import PageAudit.Proofs.Files.Names
import PageAudit.Session

/-!
# Names stay in their directory

The names of pictures and of sessions are made of letters, digits, hyphens and underscores, whatever the
routes and the names that they are made from have in them, so each is that of something directly in the
directory that it is joined to. Only a stamp of a year that has not four digits has another character.
-/

namespace PageAudit

namespace Moment

/-! ## The form of a stamp -/

/-- The text is a number of digits. -/
structure IsDigits (n : Nat) (s : String) : Prop where
  length : s.toList.length = n
  digits : ∀ c ∈ s.toList, c.isDigit = true

/-- The text has the form of a stamp: eight digits, six and three, with underscores between them. -/
def Stamped (stamp : String) : Prop :=
  ∃ day clock milli, stamp = day ++ "_" ++ clock ++ "_" ++ milli ∧ IsDigits 8 day ∧
    IsDigits 6 clock ∧ IsDigits 3 milli

theorem IsDigits.append {m n : Nat} {s t : String} (hs : IsDigits m s) (ht : IsDigits n t) :
    IsDigits (m + n) (s ++ t) := by
  refine ⟨?_, ?_⟩
  · rw [String.toList_append, List.length_append, hs.length, ht.length]
  · rw [String.toList_append]
    exact List.forall_mem_append.mpr ⟨hs.digits, ht.digits⟩

theorem isDigits_padded {width n : Nat} (hwidth : 0 < width) (h : n < 10 ^ width) :
    IsDigits width (padded width n) := by
  refine ⟨length_padded hwidth h, fun c hc => ?_⟩
  rw [← Digit.map_toChar_padded] at hc
  obtain ⟨d, -, rfl⟩ := List.mem_map.mp hc
  exact d.isDigit_toChar

/-- The sign that is written before a longer year, or before a negative one, is no digit. -/
theorem exists_sign {m : Moment} (h : ¬m.InFourDigits) :
    ∃ sign cs, m.stamp.toList = sign :: cs ∧ sign.isDigit = false := by
  have hyear : yearText m.date.year =
      (if m.date.year < 0 then "-" else "+") ++ padded 4 m.date.year.natAbs := by
    rw [yearText, if_neg]
    rwa [Bool.and_eq_true, decide_eq_true_iff, decide_eq_true_iff]
  simp only [stamp, hyear, String.append_assoc]
  rw [String.toList_append]
  split
  · exact ⟨'-', _, rfl, by decide⟩
  · exact ⟨'+', _, rfl, by decide⟩

theorem stamped_stamp_iff {m : Moment} : Stamped m.stamp ↔ m.InFourDigits := by
  constructor
  · rintro ⟨day, clock, milli, heq, hday, -, -⟩
    by_contra hlong
    obtain ⟨sign, cs, hsign, hno⟩ := exists_sign hlong
    simp only [heq, String.append_assoc] at hsign
    rw [String.toList_append] at hsign
    cases hcs : day.toList with
    | nil =>
        have hlength := hday.length
        rw [hcs] at hlength
        cases hlength
    | cons c rest =>
        rw [hcs, List.cons_append] at hsign
        have hyes := hday.digits c (by rw [hcs]; exact List.mem_cons_self)
        rw [(List.cons.inj hsign).1, hno] at hyes
        cases hyes
  · rintro ⟨hlow, hhigh⟩
    obtain ⟨hmonth, hday, hhour, hminute, hsecond, hmilli⟩ := m.fields_lt
    have hyear : yearText m.date.year = padded 4 m.date.year.natAbs := by
      rw [yearText, if_pos]
      rw [Bool.and_eq_true, decide_eq_true_iff, decide_eq_true_iff]
      exact ⟨hlow, hhigh⟩
    have hyears : IsDigits 4 (padded 4 m.date.year.natAbs) := isDigits_padded (by decide) (by omega)
    have htwo {n : Nat} (h : n < 10 ^ 2) : IsDigits 2 (padded 2 n) := isDigits_padded (by decide) h
    refine ⟨padded 4 m.date.year.natAbs ++ padded 2 m.date.month ++ padded 2 m.date.day,
      padded 2 m.hour ++ padded 2 m.minute ++ padded 2 m.secondOfMinute,
      padded 3 (m.nanoOfSecond / 1000000), ?_, (hyears.append (htwo hmonth)).append (htwo hday),
      ((htwo hhour).append (htwo hminute)).append (htwo hsecond), isDigits_padded (by decide) hmilli⟩
    simp only [stamp, hyear, String.append_assoc]

end Moment

namespace Files

open Moment (Stamped)

/-! ## Names of safe characters -/

/-- The characters that a name may have: ASCII letters and digits, the hyphen and the underscore. -/
def Safe (s : String) : Prop := ∀ c ∈ s.toList, c.isAlphanum = true ∨ c = '-' ∨ c = '_'

theorem isSafe_iff {c : Char} : isSafe c = true ↔ c.isAlphanum = true ∨ c = '-' ∨ c = '_' := by
  have hupper : c.isUpper = ('A' ≤ c && c ≤ 'Z') := Bool.decide_and _ _
  have halphanum : c.isAlphanum = (c.isUpper || c.isLower || c.isDigit) := rfl
  have hsafe : isSafe c =
      (c.isLower || ('A' ≤ c && c ≤ 'Z') || c.isDigit || c == '-' || c == '_') := rfl
  rw [hsafe, halphanum, ← hupper, Bool.or_comm c.isLower]
  simp only [Bool.or_eq_true, beq_iff_eq, or_assoc]

instance (s : String) : Decidable (Safe s) :=
  decidable_of_iff (s.toList.all isSafe = true) <| List.all_eq_true.trans
    ⟨fun h c hc => isSafe_iff.mp (h c hc), fun h c hc => isSafe_iff.mpr (h c hc)⟩

theorem safe_sanitize (name : String) : Safe (sanitize name) := fun _ hc =>
  isSafe_iff.mp (isSafe_of_mem_sanitize hc)

theorem safe_slug (route : String) : Safe (slug route) := fun _ hc =>
  isSafe_iff.mp (isSafe_of_mem_slug hc)

theorem length_sanitize (name : String) : (sanitize name).length = name.length := by
  rw [sanitize, ← String.length_toList, String.toList_ofList, List.length_map, String.length_toList]

theorem sanitize_sanitize (name : String) : sanitize (sanitize name) = sanitize name := by
  have hkept : (sanitize name).toList.map (fun c => if isSafe c then c else '_') =
      (sanitize name).toList :=
    (List.map_congr_left fun _ hc => if_pos (isSafe_of_mem_sanitize hc)).trans (List.map_id _)
  rw [sanitize, hkept, String.ofList_toList]

theorem slug_ne_empty (route : String) : slug route ≠ "" := by
  unfold slug
  dsimp only
  split
  · decide
  · next h => exact fun hempty => h (String.isEmpty_iff.mpr hempty)

theorem Safe.append {s t : String} (hs : Safe s) (ht : Safe t) : Safe (s ++ t) := by
  rw [Safe, String.toList_append]
  exact List.forall_mem_append.mpr ⟨hs, ht⟩

theorem safe_of_digits {s : String} (h : ∀ c ∈ s.toList, c.isDigit = true) : Safe s := fun c hc =>
  Or.inl (Bool.or_eq_true_iff.mpr (Or.inr (h c hc)))

theorem safe_toString (n : Nat) : Safe (toString n) :=
  safe_of_digits fun _ hc => Digit.isDigit_of_mem_toString hc

theorem Safe.joined {s t : String} (hs : Safe s) (ht : Safe t) : Safe (s ++ "_" ++ t) :=
  (hs.append (by decide)).append ht

theorem joined_ne_empty (s t : String) : s ++ "_" ++ t ≠ "" := by
  intro hempty
  have hlength := congrArg String.length hempty
  rw [String.length_append, String.length_append] at hlength
  change s.length + 1 + t.length = 0 at hlength
  omega

theorem safe_of_stamped {stamp : String} (h : Stamped stamp) : Safe stamp := by
  obtain ⟨day, clock, milli, rfl, hday, hclock, hmilli⟩ := h
  exact ((safe_of_digits hday.digits).joined (safe_of_digits hclock.digits)).joined
    (safe_of_digits hmilli.digits)

/-! ## Names in a directory -/

/-- The name has safe characters, at least one, before an ending that is fixed. -/
def SafeName (ending name : String) : Prop := ∃ stem, name = stem ++ ending ∧ stem ≠ "" ∧ Safe stem

/-- The name is safe, and joined to the directory it names something directly in it: the path ends in the
name, and leads from every place to one in the directory. -/
structure Inside (directory ending name path : String) : Prop where
  safe : SafeName ending name
  path_eq : path = Path.join directory name
  fileName : Path.fileName? path = some name
  destination : ∀ current, Tree.destination current path = Tree.destination current directory ++ [name]

variable {directory ending name : String}

/-- A safe name begins with no dot and has no slash in it, so it is the name of something. -/
theorem SafeName.isName (hending : '/' ∉ ending.toList) (h : SafeName ending name) : IsName name := by
  obtain ⟨stem, rfl, hne, hsafe⟩ := h
  obtain ⟨c, cs, hcs⟩ := List.exists_cons_of_ne_nil
    fun hnil => hne (String.toList_eq_nil_iff.mp hnil)
  have hfirst : (stem ++ ending).toList = c :: (cs ++ ending.toList) := by
    rw [String.toList_append, hcs, List.cons_append]
  have hdot : c ≠ '.' := by
    rintro rfl
    exact absurd (hsafe '.' (by rw [hcs]; exact List.mem_cons_self)) (by decide)
  refine ⟨?_, ?_, ?_, ?_⟩
  · intro hempty
    rw [hempty] at hfirst
    cases hfirst
  · rw [String.toList_append, List.mem_append, not_or]
    exact ⟨fun hslash => absurd (hsafe '/' hslash) (by decide), hending⟩
  · intro hhere
    rw [hhere] at hfirst
    exact hdot (List.cons.inj hfirst).1.symm
  · intro habove
    rw [habove] at hfirst
    exact hdot (List.cons.inj hfirst).1.symm

theorem SafeName.inside (hending : '/' ∉ ending.toList) (h : SafeName ending name) (directory : String) :
    Inside directory ending name (Path.join directory name) :=
  ⟨h, rfl, Path.fileName?_join (h.isName hending) directory,
    fun current => Tree.destination_join (h.isName hending) current directory⟩

/-! ## Generated names -/

theorem inside_screenshotName {source stamp : String} (hsource : Safe source) (hstamp : Stamped stamp)
    (directory route : String) : Inside directory ".png" (screenshotName source route stamp)
      (Path.join directory (screenshotName source route stamp)) := by
  have hsafe := (hsource.joined (safe_slug route)).joined (safe_of_stamped hstamp)
  exact SafeName.inside (by decide) ⟨_, rfl, joined_ne_empty _ _, hsafe⟩ directory

theorem inside_inBase {h : Host} (hstamp : Stamped h.now.stamp) (base name : String) :
    Inside base "" (Session.inBase base name h).id (Session.inBase base name h).directory := by
  have hsafe := ((safe_sanitize name).joined (safe_of_stamped hstamp)).joined (safe_toString h.process)
  have hname : SafeName "" (Session.newId name h) :=
    ⟨_, String.append_empty.symm, joined_ne_empty _ _, hsafe⟩
  dsimp only [Session.inBase]
  exact hname.inside (by decide) base

end Files

/-! ## Captures -/

namespace Capture

open Files (Inside screenshotName)
open Moment (Stamped)

/-- What becomes of the machine by a capture: its directory is made at most, or something is done with a
path that is directly in the directory, and no other path is given. -/
inductive ActsInside (directory : String) (name : Option String) (act : Host → String → Host → Prop)
    (h : Host) : Except Error String → Host → Prop
  | refused {e : Error} {h' : Host} (kept : h' = h ∨ h' = (h.createDirectories directory).2) :
      ActsInside directory name act h (.error e) h'
  | acted {outcome : Except Error String} {h' : Host} {chosen path : String}
      (named : name = some chosen) (inside : Inside directory ".png" chosen path)
      (acts : act (h.createDirectories directory).2 path h')
      (given : ∀ artifact, outcome = .ok artifact → artifact = path) :
      ActsInside directory name act h outcome h'

/-- A picture is written at the path. -/
def Writes (made : Host) (path : String) (h : Host) : Prop :=
  ∃ bytes, h = (made.write path (.bytes bytes)).2

/-- The browser is asked for the picture of a page at the path. -/
def Asks (b : Browser) (extent : Extent) (made : Host) (path : String) (h : Host) : Prop :=
  ∃ url, h = (made.call (b.shoot url path extent)).2

theorem Drawn.capture_inside (d : Drawn) (extent : Extent) {w : Scene Drawn.Surface}
    (hstamp : Stamped w.host.now.stamp) :
    ActsInside d.directory (w.surface.map (screenshotName Drawn.source · w.host.now.stamp)) Writes
      w.host (d.capture extent w).1 (d.capture extent w).2.host := by
  have hends := d.capture_ends extent w
  have hinside (route : String) : Inside d.directory ".png"
      (screenshotName Drawn.source route w.host.now.stamp) (d.pathAt route w.host.now) :=
    Files.inside_screenshotName (by decide) hstamp d.directory route
  generalize d.capture extent w = result at hends ⊢
  obtain ⟨outcome, w'⟩ := result
  cases hends with
  | notOpened | notDrawn => exact .refused (.inl rfl)
  | noDirectory _ _ hmade => exact .refused (.inr (by rw [hmade]))
  | notWritten hsurface _ hmade hwrite =>
      exact .acted (by rw [hsurface]; rfl) (hinside _) ⟨_, by rw [hmade, hwrite]⟩ nofun
  | written hsurface _ hpath hmade hwrite =>
      exact .acted (by rw [hsurface]; rfl) (hpath ▸ hinside _) ⟨_, by rw [hmade, hwrite]⟩
        fun _ h => (Except.ok.inj h).symm

/-- The name is chosen when the directory has been made, so the stamp is of that moment. -/
theorem Browser.capture_inside (b : Browser) (extent : Extent) {w : Scene Browser.Surface}
    (hstamp : Stamped (w.host.createDirectories b.directory).2.now.stamp) :
    ActsInside b.directory (w.surface.map fun page => screenshotName Browser.source page.1
        (w.host.createDirectories b.directory).2.now.stamp) (Asks b extent)
      w.host (b.capture extent w).1 (b.capture extent w).2.host := by
  have hends := b.capture_ends extent w
  generalize b.capture extent w = result at hends ⊢
  obtain ⟨outcome, w'⟩ := result
  cases hends with
  | notOpened | headed => exact .refused (.inl rfl)
  | noDirectory _ _ hfault => exact .refused (.inr (by rw [hfault]))
  | called hsurface _ hmade hcall hconclude =>
      rw [hmade] at hstamp ⊢
      exact .acted (by rw [hsurface]; rfl)
        (Files.inside_screenshotName (by decide) hstamp b.directory _)
        ⟨_, by rw [hmade]; exact (congrArg Prod.snd hcall).symm⟩
        fun _ h => (conclude_ok (hconclude.trans h)).1

end Capture

open Files Capture in
/-- What is left of a name is safe and as long as the name, and nothing changes when it is cleaned once
more. The slug of a route is never empty. So whatever the route and whatever the directory, the name of a
picture with a stamp is that of something directly in the directory, and so is the name of a session; a
capture writes to no other path and asks for none. A stamp has its form in all years of four digits, and
in no others. -/
theorem names_stay_inside :
    (∀ name, (sanitize name).length = name.length ∧ sanitize (sanitize name) = sanitize name ∧
      Safe (sanitize name)) ∧
    (∀ route, slug route ≠ "" ∧ Safe (slug route)) ∧
    (∀ source ∈ [Drawn.source, Browser.source], ∀ directory route stamp, Moment.Stamped stamp →
      Inside directory ".png" (screenshotName source route stamp)
        (Path.join directory (screenshotName source route stamp))) ∧
    (∀ base name (h : Host), Moment.Stamped h.now.stamp →
      Inside base "" (Session.inBase base name h).id (Session.inBase base name h).directory) ∧
    (∀ (d : Drawn) extent (w : Scene Drawn.Surface), Moment.Stamped w.host.now.stamp →
      ActsInside d.directory (w.surface.map (screenshotName Drawn.source · w.host.now.stamp)) Writes
        w.host (d.capture extent w).1 (d.capture extent w).2.host) ∧
    (∀ (b : Browser) extent (w : Scene Browser.Surface),
      Moment.Stamped (w.host.createDirectories b.directory).2.now.stamp →
      ActsInside b.directory (w.surface.map fun page => screenshotName Browser.source page.1
          (w.host.createDirectories b.directory).2.now.stamp) (Asks b extent)
        w.host (b.capture extent w).1 (b.capture extent w).2.host) ∧
    ∀ m : Moment, Moment.Stamped m.stamp ↔ m.InFourDigits := by
  refine ⟨fun name => ⟨length_sanitize name, sanitize_sanitize name, safe_sanitize name⟩,
    fun route => ⟨slug_ne_empty route, safe_slug route⟩, ?_, ?_, ?_, ?_, fun _ => Moment.stamped_stamp_iff⟩
  · intro source hsource directory route stamp hstamp
    have hsafe : Safe source := by
      rcases List.mem_pair.mp hsource with rfl | rfl
      · decide
      · decide
    exact inside_screenshotName hsafe hstamp directory route
  · exact fun base name h hstamp => inside_inBase hstamp base name
  · exact fun d extent w hstamp => d.capture_inside extent hstamp
  · exact fun b extent w hstamp => b.capture_inside extent hstamp

open Files Capture in
/-- A route and a name that lead up, on a machine at the beginning of 1970. -/
theorem names_leading_up_inside :
    let h : Host := ⟨"ci", 1, [], [], .empty, fun _ => 0, 0, [], fun _ _ => .missing .notFound⟩
    let b : Browser := { Browser.ofSettings .default with directory := "shots" }
    let route := "/../../etc/passwd\x00"
    let picture := "browser_______etc_passwd__19700101_000000_000.png"
    Moment.Stamped "19700101_000000_000" ∧
    Inside "shots" ".png" picture (Path.join "shots" picture) ∧
    Inside "sessions" "" "___run_19700101_000000_000_1" "sessions/___run_19700101_000000_000_1" ∧
    ActsInside "shots" (some picture) (Asks b .full) h
      (b.capture .full ⟨some (route, b.urlFor route), h⟩).1
      (b.capture .full ⟨some (route, b.urlFor route), h⟩).2.host := by
  intro h b route picture
  obtain ⟨-, -, hpicture, hsession, -, hcapture, hform⟩ := names_stay_inside
  have hstamp : Moment.Stamped h.now.stamp := (hform h.now).mpr ⟨by decide, by decide⟩
  have htext : h.now.stamp = "19700101_000000_000" := by decide +kernel
  have hname : screenshotName Browser.source route "19700101_000000_000" = picture := by decide +kernel
  have hdirectory : (Session.inBase "sessions" "../run" h).directory =
      "sessions/___run_19700101_000000_000_1" := by decide +kernel
  have hid : (Session.inBase "sessions" "../run" h).id = "___run_19700101_000000_000_1" := by
    decide +kernel
  have hacts := hcapture b .full ⟨some (route, b.urlFor route), h⟩ hstamp
  have hinside := hpicture Browser.source (by simp) "shots" route h.now.stamp hstamp
  have hheld := hsession "sessions" "../run" h hstamp
  have hmoment : (h.createDirectories "shots").2.now = h.now := rfl
  rw [htext] at hstamp
  rw [htext, hname] at hinside
  rw [hid, hdirectory] at hheld
  refine ⟨hstamp, hinside, hheld, ?_⟩
  rw [Option.map_some, hmoment, htext, hname] at hacts
  exact hacts

end PageAudit
