import PageAudit.Number.Numeral

/-!
Numbers as settings and arguments spell them: a whole number is digits with an optional plus sign, a
real number is a decimal numeral or one of the names of infinity and of the number that is none.
-/

namespace PageAudit

def natural? (limit : Nat) (cs : List Char) : Option Nat :=
  let ds := match cs with
    | '+' :: rest => rest
    | _ => cs
  if ds.isEmpty then none
  else do
    let ds ← ds.mapM Digit.ofChar?
    if Digit.value ds < limit then some (Digit.value ds) else none

def word64? (s : String) : Option Nat := natural? (2 ^ 64) s.toList

def leadingDigits : List Char → List Digit × List Char
  | [] => ([], [])
  | c :: rest =>
    match Digit.ofChar? c with
    | none => ([], c :: rest)
    | some d => let (ds, after) := leadingDigits rest; (d :: ds, after)

namespace Double

/-- Reads the exponent that ends a numeral; nothing at all is no exponent. -/
def exponent? : List Char → Option (Option Int)
  | [] => some none
  | c :: rest =>
    if c = 'e' || c = 'E' then
      let (negative, ds) := match rest with
        | '-' :: ds => (true, ds)
        | '+' :: ds => (false, ds)
        | ds => (false, ds)
      match leadingDigits ds with
      | ([], _) => none
      | (ds, []) =>
        some (some (if negative then -(Digit.value ds : Int) else Digit.value ds))
      | _ => none
    else none

/-- Reads an unsigned numeral; digits may be missing on one side of the point. -/
def unsigned? (cs : List Char) : Option Numeral :=
  let (whole, rest) := leadingDigits cs
  let (fraction, rest) := match rest with
    | '.' :: more => leadingDigits more
    | _ => ([], rest)
  if whole.isEmpty && fraction.isEmpty then none
  else (exponent? rest).map fun e => ⟨false, whole, fraction, e⟩

def ofText? (s : String) : Option Double :=
  let (negative, cs) := match s.toList with
    | '-' :: rest => (true, rest)
    | '+' :: rest => (false, rest)
    | cs => (false, cs)
  let name := String.ofList (cs.map Char.toLower)
  if name = "nan" then some nan
  else if name = "inf" || name = "infinity" then some (num negative .infinity)
  else (unsigned? cs).map fun n => Numeral.nearest ⟨negative, n.whole, n.fraction, n.exponent⟩

end Double

end PageAudit
