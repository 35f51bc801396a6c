import GpuTelemetry.Exceptions

/-! Floats as Python computes with them. -/

namespace GpuTelemetry

/-- An integer as an unpacked float of any precision. -/
def exactInt (n : Int) : Float.Model.UnpackedFloat :=
  if nonzero : n = 0 then .zero .positive
  else .finite (if n < 0 then .negative else .positive) n.natAbs 0 (Int.natAbs_pos.mpr nonzero)

/-- The float nearest to a quotient of integers. -/
def quotient (a b : Int) : Float :=
  .ofModel (.pack (Float.Model.UnpackedFloat.div .binary64 (exactInt a) (exactInt b)))

/-- A quotient from here on is rounded to more than the largest float. -/
def quotientLimit : Nat := 2 ^ 1024 - 2 ^ 970

/-- `/` on integers. -/
def trueDiv (a b : Int) : Except PyError Float :=
  if b = 0 then .error (.zeroDivisionError "division by zero".toList)
  else if b.natAbs * quotientLimit ≤ a.natAbs then
    .error (.overflowError "integer division result too large for a float".toList)
  else .ok (quotient a b)

theorem trueDiv_eq {a b : Int} (nonzero : b ≠ 0) (small : a.natAbs < b.natAbs * quotientLimit) :
    trueDiv a b = .ok (quotient a b) := by
  rw [trueDiv, if_neg nonzero, if_neg (not_le.mpr small)]

theorem trueDiv_error {a b : Int} (large : ¬ (b ≠ 0 ∧ a.natAbs < b.natAbs * quotientLimit)) :
    ∃ e, trueDiv a b = .error e := by
  unfold trueDiv
  by_cases zero : b = 0
  · exact ⟨_, if_pos zero⟩
  · rw [if_neg zero]
    exact ⟨_, if_pos (not_lt.mp fun small => large ⟨zero, small⟩)⟩

end GpuTelemetry
