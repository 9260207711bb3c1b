/-!
Instances of the core library that are taken in every module, also in modules that know others.
-/

namespace PageAudit

@[default_instance 20000]
instance (priority := 20000) powNat {A : Type} [NatPow A] : Pow A Nat := instPowNat

instance (priority := 20000) zeroNat : Zero Nat := Zero.ofOfNat0

instance (priority := 20000) neZeroTen : NeZero 10 := ⟨by decide⟩

instance (priority := 20000) decidableEqByteArray : DecidableEq ByteArray := ByteArray.instDecidableEq

end PageAudit
