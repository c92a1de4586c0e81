import Mathlib.Data.Nat.Init

/-! # Numerals

The numerals that many definitions share have their instances here by name, so that no
definition carries a proof of its own that its numerals are at least two. -/

namespace Taramandal.Lib.Literals

instance n2 : Nat.AtLeastTwo 2 := ⟨by decide⟩
instance n3 : Nat.AtLeastTwo 3 := ⟨by decide⟩
instance n4 : Nat.AtLeastTwo 4 := ⟨by decide⟩
instance n5 : Nat.AtLeastTwo 5 := ⟨by decide⟩
instance n6 : Nat.AtLeastTwo 6 := ⟨by decide⟩
instance n8 : Nat.AtLeastTwo 8 := ⟨by decide⟩
instance n9 : Nat.AtLeastTwo 9 := ⟨by decide⟩
instance n10 : Nat.AtLeastTwo 10 := ⟨by decide⟩
instance n12 : Nat.AtLeastTwo 12 := ⟨by decide⟩
instance n13 : Nat.AtLeastTwo 13 := ⟨by decide⟩
instance n15 : Nat.AtLeastTwo 15 := ⟨by decide⟩
instance n20 : Nat.AtLeastTwo 20 := ⟨by decide⟩
instance n22 : Nat.AtLeastTwo 22 := ⟨by decide⟩
instance n25 : Nat.AtLeastTwo 25 := ⟨by decide⟩
instance n30 : Nat.AtLeastTwo 30 := ⟨by decide⟩
instance n32 : Nat.AtLeastTwo 32 := ⟨by decide⟩
instance n40 : Nat.AtLeastTwo 40 := ⟨by decide⟩
instance n50 : Nat.AtLeastTwo 50 := ⟨by decide⟩
instance n60 : Nat.AtLeastTwo 60 := ⟨by decide⟩
instance n100 : Nat.AtLeastTwo 100 := ⟨by decide⟩
instance n120 : Nat.AtLeastTwo 120 := ⟨by decide⟩
instance n180 : Nat.AtLeastTwo 180 := ⟨by decide⟩
instance n200 : Nat.AtLeastTwo 200 := ⟨by decide⟩
instance n360 : Nat.AtLeastTwo 360 := ⟨by decide⟩
instance n1000 : Nat.AtLeastTwo 1000 := ⟨by decide⟩
instance n1875 : Nat.AtLeastTwo 1875 := ⟨by decide⟩
instance n10000 : Nat.AtLeastTwo 10000 := ⟨by decide⟩
instance n1000000 : Nat.AtLeastTwo 1000000 := ⟨by decide⟩

instance nonzero3 : @NeZero ℕ Zero.ofOfNat0 3 := ⟨by decide⟩

end Taramandal.Lib.Literals
