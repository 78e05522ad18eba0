import OutlineChart.Outline.Parse

/-! # Step ids

An id is a word for the tier and the number of a line in decimal.  It tells both apart, and all its
code points are ones that labels keep.
-/

namespace OutlineChart

open CodePoint

theorem Text.isLabel_of_mem_ofNat {n : Nat} {c : CodePoint} (h : c ∈ Text.ofNat n) :
    c.isLabel = true := by
  obtain ⟨d, hd, rfl⟩ := List.mem_map.1 h
  have hdigit := Nat.isDigit_of_mem_toDigits (by decide) (by decide) hd
  simp only [Char.isDigit, Bool.and_eq_true, decide_eq_true_eq, ge_iff_le] at hdigit
  have hlow : 0x30 ≤ d.toNat := UInt32.le_iff_toNat_le.1 hdigit.1
  have hhigh : d.toNat ≤ 0x39 := UInt32.le_iff_toNat_le.1 hdigit.2
  have hvalue : (char d).value = d.toNat := rfl
  simp only [isLabel, labelRanges, isIn_cons, isIn_nil, Bool.or_false, Bool.or_eq_true,
    Bool.and_eq_true, decide_eq_true_eq]
  omega

namespace Tier

def word : Tier → Text
  | primary => Text.ofString "step"
  | secondary => Text.ofString "sub"

theorem stepId_eq (tier : Tier) (index : Nat) :
    tier.stepId index = tier.word ++ Text.ofNat index := by
  cases tier <;> rfl

theorem getElem?_stepId_one (tier : Tier) (index : Nat) :
    (tier.stepId index)[1]? =
      some (match tier with
        | primary => char 't'
        | secondary => char 'u') := by
  cases tier <;> rfl

theorem stepId_inj {tier tier' : Tier} {i j : Nat} (h : tier.stepId i = tier'.stepId j) :
    tier = tier' ∧ i = j := by
  have hsecond := congrArg (·[1]?) h
  simp only [getElem?_stepId_one] at hsecond
  -- the words differ at the second place
  have htier : tier = tier' := by
    cases tier <;> cases tier' <;> first | rfl | exact absurd hsecond (by decide)
  subst htier
  rw [stepId_eq, stepId_eq, List.append_cancel_left_eq, Text.ofNat_inj] at h
  exact ⟨rfl, h⟩

theorem isLabel_of_mem_stepId {tier : Tier} {index : Nat} {c : CodePoint}
    (h : c ∈ tier.stepId index) : c.isLabel = true := by
  rw [stepId_eq] at h
  rcases List.mem_append.1 h with hword | hnumber
  · have hall : tier.word.all isLabel = true := by cases tier <;> decide
    exact List.all_eq_true.1 hall c hword
  · exact Text.isLabel_of_mem_ofNat hnumber

def ofId? (id : Text) : Option Tier :=
  [primary, secondary].find? fun tier => tier.word.isPrefixOf id

theorem ofId?_stepId (tier : Tier) (index : Nat) : ofId? (tier.stepId index) = some tier := by
  cases tier <;> rfl

end Tier

end OutlineChart
