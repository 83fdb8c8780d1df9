/-!
# Names without case

Names of symbols, scripts, labels, procs, variables and directives are compared
without regard to the case of the letters `A` to `Z`.  Letters outside ASCII
keep their case.
-/

namespace Looper.Text

/-- Lower the letters `A` to `Z`; every other character stays. -/
def fold (s : String) : String :=
  String.ofList (s.toList.map Char.toLower)

theorem toList_fold (s : String) : (fold s).toList = s.toList.map Char.toLower :=
  String.toList_ofList

/-- Whether two names differ at most in the case of ASCII letters. -/
def sameName (a b : String) : Bool :=
  fold a == fold b

@[simp] theorem sameName_refl (a : String) : sameName a a = true := by
  simp [sameName]

theorem sameName_iff {a b : String} : sameName a b = true ↔ fold a = fold b := by
  simp [sameName]

theorem sameName_symm {a b : String} (same : sameName a b = true) : sameName b a = true := by
  rw [sameName_iff] at same ⊢
  exact same.symm

theorem sameName_trans {a b c : String} (first : sameName a b = true)
    (second : sameName b c = true) : sameName a c = true := by
  rw [sameName_iff] at first second ⊢
  exact first.trans second

end Looper.Text
