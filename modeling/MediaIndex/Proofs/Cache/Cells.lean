import MediaIndex.Cache.Row
import MediaIndex.Proofs.Json.WrittenTexts
import MediaIndex.Proofs.Number.Equality
import MediaIndex.Proofs.Vocabulary

/-!
# Cells are read as what they were stored for

A field is written to a cell in one place and read from it, by column, in another. For each kind of
field there is one law here, with the value that may be missing built in: **reading the column gives
what was stored**. The laws are tagged for `simp`, so that a whole row is read by rewriting.

One kind of field does not come back as it was. A number is stored by its value, so the sign of a
zero is lost, and what is no number is stored as missing (`storedNumber?`).
-/

set_option autoImplicit false

namespace MediaIndex

/-! ## Single cells -/

namespace Cell

variable (column : Column)

@[simp] theorem readText_text (v : Option String) :
    readText column (FileCells.text v) = .ok v := by
  cases v <;> rfl

@[simp] theorem readBytes_blob (v : Option ByteArray) :
    readBytes column (optional .blob v) = .ok v := by
  cases v <;> rfl

theorem readInt_integer {low high n : Int} (h : low ≤ n ∧ n ≤ high) :
    readInt low high column (.integer n) = .ok (some n) :=
  if_pos h

@[simp] theorem readWord_word (v : Option UInt32) :
    readWord column (FileCells.word v) = .ok v := by
  cases v with
  | none => rfl
  | some n =>
    have hbounds : (0 : Int) ≤ n.toNat ∧ (n.toNat : Int) ≤ 0xffffffff := by
      have := n.toNat_lt
      omega
    simp [readWord, FileCells.word, optional, readInt_integer column hbounds, Except.map]

@[simp] theorem readByte_byte (v : Option UInt8) :
    readByte column (FileCells.byte v) = .ok v := by
  cases v with
  | none => rfl
  | some n =>
    have hbounds : (0 : Int) ≤ n.toNat ∧ (n.toNat : Int) ≤ 0xff := by
      have := n.toNat_lt
      omega
    simp [readByte, FileCells.byte, optional, readInt_integer column hbounds, Except.map]

@[simp] theorem readBool_ofBool (b : Bool) : readBool column (ofBool b) = .ok b := by
  cases b <;> rfl

@[simp] theorem insist_ok {α : Type} (a : α) : insist column (.ok (some a)) = .ok a := rfl

@[simp] theorem readMediaType_code (t : MediaType) :
    readMediaType column (.integer t.code) = .ok t := by
  cases t <;> rfl

/-- The number that is stored for a number: none for what is not one, and zero without a sign. -/
def storedNumber? (x : Float) : Option Float :=
  if Number.isNotANumber x then none else if x == 0.0 then some 0.0 else some x

@[simp] theorem readFloat_ofFloat (v : Option Float) :
    readFloat column (optional ofFloat v) = .ok (v.bind storedNumber?) := by
  cases v with
  | none => rfl
  | some x =>
    simp only [optional, ofFloat, storedNumber?, Option.bind_some]
    split
    · rfl
    · split <;> rfl

theorem storedNumber?_beq {x : Float} (h : Number.isNotANumber x = false) :
    (storedNumber? x == some x) = true := by
  unfold storedNumber?
  rw [h]
  simp only [Bool.false_eq_true, if_false]
  by_cases hzero : (x == 0.0) = true
  · rw [if_pos hzero]
    rcases Number.eq_zero_of_beq hzero with rfl | rfl <;> decide +kernel
  · rw [if_neg hzero]
    exact Number.beq_self h

/-- Of all numbers only the negative zero is stored as another one. -/
theorem storedNumber?_eq {x : Float} (h : Number.isNotANumber x = false) (hzero : x ≠ -0.0) :
    storedNumber? x = some x := by
  unfold storedNumber?
  rw [h]
  simp only [Bool.false_eq_true, if_false]
  split
  · rename_i heq
    exact congrArg some ((Number.eq_zero_of_beq heq).resolve_right hzero).symm
  · rfl

end Cell

/-! ## Fields of a row -/

/-- Words are read by name: a vocabulary in which words name what they were written for comes
back whole. -/
theorem bind_map_of_inverse {α : Type} {name : α → String} {ofName? : String → Option α}
    (h : ∀ a, ofName? (name a) = some a) (v : Option α) : (v.map name).bind ofName? = v := by
  cases v with
  | none => rfl
  | some a => exact h a

namespace FileCells

/-- A size is wrapped into a signed integer and back again. -/
theorem ofInt_toInt64 (n : UInt64) : UInt64.ofInt n.toInt64.toInt = n := by
  have hsigned : n.toInt64.toInt = (n.toNat : Int).bmod (2 ^ 64) := BitVec.toInt_eq_toNat_bmod _
  have hwrapped : n.toInt64.toInt % 2 ^ 64 = n.toNat := by
    rw [hsigned]
    have := n.toNat_lt
    have hmod := Int.bmod_emod (x := (n.toNat : Int)) (m := 2 ^ 64)
    omega
  rw [UInt64.ofInt, hwrapped, Int.toNat_natCast, UInt64.ofNat_toNat]

end FileCells

end MediaIndex
