import Asylo.Tcb

/-! `CompareTcbs` is the product order of the sixteen component bytes and the
PCE SVN.

The source's reading of a `PartialOrder` is a pair of bits, "less than or
equal" and "greater than or equal", with `OrderCombine` the conjunction of
each (`orderCombine_le`, `orderCombine_ge`). So the fold over the components
is the conjunction over every index of the orders of its bytes
(`combineAll_le`), and stopping early at `kIncomparable` changes
nothing, since `kIncomparable` absorbs. -/
namespace Asylo.Provisioning

/-! ## A partial order as two bits -/

namespace PartialOrder

/-- "Less than or equal". -/
def le : PartialOrder → Bool
  | .kLess | .kEqual => true
  | .kGreater | .kIncomparable => false

/-- "Greater than or equal". -/
def ge : PartialOrder → Bool
  | .kEqual | .kGreater => true
  | .kLess | .kIncomparable => false

/-- The order with these two bits. -/
def ofBits : Bool → Bool → PartialOrder
  | true, true => .kEqual
  | true, false => .kLess
  | false, true => .kGreater
  | false, false => .kIncomparable

/-- The order seen from the other side. -/
def mirror : PartialOrder → PartialOrder
  | .kLess => .kGreater
  | .kGreater => .kLess
  | order => order

theorem eq_ofBits (order : PartialOrder) : order = ofBits order.le order.ge := by
  cases order <;> rfl

@[simp] theorem le_ofBits (le ge : Bool) : (ofBits le ge).le = le := by
  cases le <;> cases ge <;> rfl

@[simp] theorem ge_ofBits (le ge : Bool) : (ofBits le ge).ge = ge := by
  cases le <;> cases ge <;> rfl

theorem mirror_ofBits (le ge : Bool) : (ofBits le ge).mirror = ofBits ge le := by
  cases le <;> cases ge <;> rfl

end PartialOrder

open PartialOrder

@[simp] theorem orderCombine_le (lhs rhs : PartialOrder) : (orderCombine lhs rhs).le = (lhs.le && rhs.le) := by
  cases lhs <;> cases rhs <;> rfl

@[simp] theorem orderCombine_ge (lhs rhs : PartialOrder) : (orderCombine lhs rhs).ge = (lhs.ge && rhs.ge) := by
  cases lhs <;> cases rhs <;> rfl

theorem orderCombine_kIncomparable (rhs : PartialOrder) : orderCombine .kIncomparable rhs = .kIncomparable := rfl

section Total

variable {α : Type} [LT α] [DecidableRel (α := α) (· < ·)] [DecidableEq α] (key : α → Nat)
  (lt_iff : ∀ a b : α, a < b ↔ key a < key b) (injective : ∀ a b : α, key a = key b → a = b)
include lt_iff injective

/-- `CompareTotal` of values ordered by an injective key into `Nat`. -/
theorem compareTotal_eq (a b : α) :
    compareTotal a b = ofBits (decide (key a ≤ key b)) (decide (key b ≤ key a)) := by
  unfold compareTotal
  by_cases less : a < b
  · have keys := (lt_iff a b).mp less
    rw [if_pos less, decide_eq_true (by omega), decide_eq_false (by omega)]
    rfl
  · have keys : ¬ key a < key b := fun keys => less ((lt_iff a b).mpr keys)
    by_cases same : a = b
    · rw [if_neg less, if_pos same, same, decide_eq_true (Nat.le_refl _)]
      rfl
    · have apart : key a ≠ key b := fun keys => same (injective a b keys)
      rw [if_neg less, if_neg same, decide_eq_false (by omega), decide_eq_true (by omega)]
      rfl

end Total

theorem compareTotal_uint8 (a b : UInt8) :
    compareTotal a b = ofBits (decide (a ≤ b)) (decide (b ≤ a)) := by
  rw [compareTotal_eq UInt8.toNat (fun _ _ => UInt8.lt_iff_toNat_lt) (fun _ _ => UInt8.toNat_inj.mp)]
  simp only [UInt8.le_iff_toNat_le]

theorem compareTotal_uint32 (a b : UInt32) :
    compareTotal a b = ofBits (decide (a ≤ b)) (decide (b ≤ a)) := by
  rw [compareTotal_eq UInt32.toNat (fun _ _ => UInt32.lt_iff_toNat_lt) (fun _ _ => UInt32.toNat_inj.mp)]
  simp only [UInt32.le_iff_toNat_le]

/-! ## The loop over the components -/

/-- The fold of `OrderCombine`, with no early return. -/
def combineAll (step : Nat → PartialOrder) (current : PartialOrder) (indices : List Nat) : PartialOrder :=
  indices.foldl (fun current i => orderCombine current (step i)) current

theorem combineAll_kIncomparable (step : Nat → PartialOrder) :
    ∀ indices, combineAll step .kIncomparable indices = .kIncomparable
  | [] => rfl
  | _ :: indices => combineAll_kIncomparable step indices

theorem combineAll_le (step : Nat → PartialOrder) :
    ∀ (indices : List Nat) (current : PartialOrder),
      (combineAll step current indices).le = (current.le && indices.all fun i => (step i).le)
  | [], current => by simp [combineAll]
  | i :: indices, current => by
    rw [combineAll, List.foldl_cons, ← combineAll, combineAll_le step indices, orderCombine_le, List.all_cons,
      Bool.and_assoc]

theorem combineAll_ge (step : Nat → PartialOrder) :
    ∀ (indices : List Nat) (current : PartialOrder),
      (combineAll step current indices).ge = (current.ge && indices.all fun i => (step i).ge)
  | [], current => by simp [combineAll]
  | i :: indices, current => by
    rw [combineAll, List.foldl_cons, ← combineAll, combineAll_ge step indices, orderCombine_ge, List.all_cons,
      Bool.and_assoc]

/-- The early return of the loop at `kIncomparable` gives what the whole fold
gives, since `kIncomparable` absorbs. -/
theorem compareComponents_eq (lhs rhs : List UInt8) :
    ∀ (current : PartialOrder) (indices : List Nat),
      (compareComponents lhs rhs current indices).getD .kIncomparable =
        combineAll (fun i => compareTotal (lhs.getD i 0) (rhs.getD i 0)) current indices
  | current, [] => rfl
  | current, i :: indices => by
    rw [compareComponents, combineAll, List.foldl_cons, ← combineAll]
    by_cases stopped : orderCombine current (compareTotal (lhs.getD i 0) (rhs.getD i 0)) = .kIncomparable
    · rw [if_pos stopped, stopped, combineAll_kIncomparable]
      rfl
    · rw [if_neg stopped]
      exact compareComponents_eq lhs rhs _ indices

/-! ## `CompareTcbs` -/

/-- Every component and the PCE SVN of `lhs` are at most those of `rhs`. -/
def TcbLe (lhs rhs : Tcb) : Prop :=
  (∀ i < kTcbComponentsSize, lhs.componentBytes.getD i 0 ≤ rhs.componentBytes.getD i 0) ∧
    lhs.pceSvnValue ≤ rhs.pceSvnValue

instance (lhs rhs : Tcb) : Decidable (TcbLe lhs rhs) := inferInstanceAs (Decidable (_ ∧ _))

theorem all_range_eq_decide {p : Nat → Prop} [DecidablePred p] {count : Nat} :
    ((List.range count).all fun i => decide (p i)) = decide (∀ i < count, p i) := by
  rw [Bool.eq_iff_iff]
  simp

/-- `CompareTcbs` of type 0 is the product order, as two bits. -/
theorem compareTcbs_eq (lhs rhs : Tcb) :
    compareTcbs .tcbType0 lhs rhs = .ok (ofBits (decide (TcbLe lhs rhs)) (decide (TcbLe rhs lhs))) := by
  have whole := compareComponents_eq lhs.componentBytes rhs.componentBytes .kEqual (List.range kTcbComponentsSize)
  -- both bits of the fold and of the PCE SVN comparison, index by index
  have bits : orderCombine (combineAll (fun i => compareTotal (lhs.componentBytes.getD i 0)
      (rhs.componentBytes.getD i 0)) .kEqual (List.range kTcbComponentsSize))
      (compareTotal lhs.pceSvnValue rhs.pceSvnValue) =
        ofBits (decide (TcbLe lhs rhs)) (decide (TcbLe rhs lhs)) := by
    rw [eq_ofBits (orderCombine _ _)]
    congr 1
    · rw [orderCombine_le, combineAll_le, compareTotal_uint32, le_ofBits]
      simp only [compareTotal_uint8, le_ofBits, all_range_eq_decide]
      simp only [PartialOrder.le, Bool.true_and]
      rw [Bool.eq_iff_iff, decide_eq_true_iff]
      simp only [Bool.and_eq_true, decide_eq_true_eq, TcbLe]
    · rw [orderCombine_ge, combineAll_ge, compareTotal_uint32, ge_ofBits]
      simp only [compareTotal_uint8, ge_ofBits, all_range_eq_decide]
      simp only [PartialOrder.ge, Bool.true_and]
      rw [Bool.eq_iff_iff, decide_eq_true_iff]
      simp only [Bool.and_eq_true, decide_eq_true_eq, TcbLe]
  unfold compareTcbs
  cases found : compareComponents lhs.componentBytes rhs.componentBytes .kEqual (List.range kTcbComponentsSize) with
  | none =>
    rw [found, Option.getD_none] at whole
    rw [← bits, ← whole, orderCombine_kIncomparable]
  | some current =>
    rw [found, Option.getD_some] at whole
    rw [← bits, ← whole]

/-- What `ValidateTcb` accepts: both fields set, sixteen components, and a PCE
SVN that fits 16 bits. -/
theorem validateTcb_ok {tcb : Tcb} (valid : validateTcb tcb = .ok ()) :
    ∃ components value, tcb = ⟨some components, some ⟨some value⟩⟩ ∧
      components.length = kTcbComponentsSize ∧ value ≤ kPceSvnMaxValue := by
  obtain ⟨components, pceSvn⟩ := tcb
  cases components with
  | none => cases valid
  | some components =>
    cases pceSvn with
    | none => cases valid
    | some pceSvn =>
      obtain ⟨value⟩ := pceSvn
      simp only [validateTcb] at valid
      by_cases sized : components.length ≠ kTcbComponentsSize
      · rw [if_pos sized] at valid
        cases valid
      · rw [if_neg sized] at valid
        cases value with
        | none => cases valid
        | some value =>
          simp only [validatePceSvn] at valid
          by_cases large : value > kPceSvnMaxValue
          · rw [if_pos large] at valid
            cases valid
          · exact ⟨components, value, rfl, Decidable.of_not_not sized, UInt32.not_lt.mp large⟩

/-- Two TCBs that `ValidateTcb` accepts are equal when their components and
PCE SVNs are. -/
theorem Tcb.eq_of_valid {lhs rhs : Tcb} (lhsValid : validateTcb lhs = .ok ()) (rhsValid : validateTcb rhs = .ok ())
    (components : ∀ i < kTcbComponentsSize, lhs.componentBytes.getD i 0 = rhs.componentBytes.getD i 0)
    (pceSvn : lhs.pceSvnValue = rhs.pceSvnValue) : lhs = rhs := by
  obtain ⟨lhsComponents, lhsValue, rfl, lhsLength, -⟩ := validateTcb_ok lhsValid
  obtain ⟨rhsComponents, rhsValue, rfl, rhsLength, -⟩ := validateTcb_ok rhsValid
  have sameComponents : lhsComponents = rhsComponents := by
    apply List.ext_getElem (lhsLength.trans rhsLength.symm)
    intro i inLhs inRhs
    have atI := components i (lhsLength ▸ inLhs)
    simpa [Tcb.componentBytes, List.getD_eq_getElem?_getD, inLhs, inRhs] using atI
  have sameValue : lhsValue = rhsValue := by simpa [Tcb.pceSvnValue] using pceSvn
  rw [sameComponents, sameValue]

/-- Each TCB at most the other is the same TCB. -/
theorem tcbLe_antisymm {lhs rhs : Tcb} (lhsValid : validateTcb lhs = .ok ()) (rhsValid : validateTcb rhs = .ok ()) :
    TcbLe lhs rhs ∧ TcbLe rhs lhs ↔ lhs = rhs := by
  constructor
  · rintro ⟨⟨belowComponents, belowPce⟩, ⟨aboveComponents, abovePce⟩⟩
    apply Tcb.eq_of_valid lhsValid rhsValid
    · intro i within
      exact UInt8.le_antisymm (belowComponents i within) (aboveComponents i within)
    · exact UInt32.le_antisymm belowPce abovePce
  · rintro rfl
    exact ⟨⟨fun i _ => UInt8.le_refl _, UInt32.le_refl _⟩, ⟨fun i _ => UInt8.le_refl _, UInt32.le_refl _⟩⟩

theorem compareTcbs_product_order {lhs rhs : Tcb} (lhsValid : validateTcb lhs = .ok ())
    (rhsValid : validateTcb rhs = .ok ()) :
    (compareTcbs .tcbType0 lhs rhs = .ok .kEqual ↔ lhs = rhs) ∧
      (compareTcbs .tcbType0 lhs rhs = .ok .kLess ↔ TcbLe lhs rhs ∧ lhs ≠ rhs) ∧
      (compareTcbs .tcbType0 lhs rhs = .ok .kGreater ↔ TcbLe rhs lhs ∧ lhs ≠ rhs) ∧
      (compareTcbs .tcbType0 lhs rhs = .ok .kIncomparable ↔ ¬ TcbLe lhs rhs ∧ ¬ TcbLe rhs lhs) ∧
      compareTcbs .tcbType0 rhs lhs = (compareTcbs .tcbType0 lhs rhs).map PartialOrder.mirror := by
  have same := tcbLe_antisymm lhsValid rhsValid
  rw [compareTcbs_eq rhs lhs, compareTcbs_eq lhs rhs]
  refine ⟨?_, ?_, ?_, ?_, ?_⟩
  -- each result is one pair of bits
  · rw [← same]
    by_cases below : TcbLe lhs rhs <;> by_cases above : TcbLe rhs lhs <;> simp [below, above, ofBits]
  · by_cases below : TcbLe lhs rhs <;> by_cases above : TcbLe rhs lhs <;>
      simp [below, above, ofBits, ← same]
  · by_cases below : TcbLe lhs rhs <;> by_cases above : TcbLe rhs lhs <;>
      simp [below, above, ofBits, ← same]
  · by_cases below : TcbLe lhs rhs <;> by_cases above : TcbLe rhs lhs <;> simp [below, above, ofBits]
  · rw [Except.map, mirror_ofBits]

/-- A platform's TCB, and a TCB level above it in every component and in the
PCE SVN. -/
def platformTcb : Tcb := ⟨some (List.replicate 16 2), some ⟨some 7⟩⟩

def levelTcb : Tcb := ⟨some (List.replicate 16 3), some ⟨some 9⟩⟩

theorem compareTcbs_product_order_of_level :
    (compareTcbs .tcbType0 platformTcb levelTcb = .ok .kEqual ↔ platformTcb = levelTcb) ∧
      (compareTcbs .tcbType0 platformTcb levelTcb = .ok .kLess ↔
        TcbLe platformTcb levelTcb ∧ platformTcb ≠ levelTcb) ∧
      (compareTcbs .tcbType0 platformTcb levelTcb = .ok .kGreater ↔
        TcbLe levelTcb platformTcb ∧ platformTcb ≠ levelTcb) ∧
      (compareTcbs .tcbType0 platformTcb levelTcb = .ok .kIncomparable ↔
        ¬ TcbLe platformTcb levelTcb ∧ ¬ TcbLe levelTcb platformTcb) ∧
      compareTcbs .tcbType0 levelTcb platformTcb =
        (compareTcbs .tcbType0 platformTcb levelTcb).map PartialOrder.mirror :=
  compareTcbs_product_order (by decide) (by decide)

end Asylo.Provisioning
