import Mathlib.Tactic.Push
import NamedParams.Parameter
import NamedParams.Proofs.Json.Parts

/-! What equals itself: everything without a NaN among the values that are kept. -/

namespace NamedParams

/-- A float equals itself unless it is NaN. -/
theorem float_beq_self (x : Float) : (x == x) = !x.isNaN := by
  -- Only NaN has no order relative to itself.
  show x.toModel.unpack.beq x.toModel.unpack = !x.toModel.unpack.isNaN
  rcases x.toModel.unpack with sign | _ | sign | ⟨sign, mantissa, exponent, _⟩
  · cases sign <;> rfl
  · rfl
  · rfl
  · -- Finite floats are compared by their exponents and then by their mantissas.
    have exponents : compare exponent exponent = .eq := Std.ReflCmp.compare_self
    have mantissas : compare mantissa mantissa = .eq := Std.ReflCmp.compare_self
    have same : (compare exponent exponent).then (compare mantissa mantissa) = .eq := by
      rw [exponents, mantissas]
      rfl
    cases sign with
    | positive =>
      show (some ((compare exponent exponent).then (compare mantissa mantissa)) == some .eq) = true
      rw [same]
      rfl
    | negative =>
      show (some ((compare exponent exponent).then (compare mantissa mantissa)).swap ==
        some .eq) = true
      rw [same]
      rfl

/-- A NaN occurs in a value, at whatever depth. -/
def Raw.HoldsNaN (value : Raw) : Prop := value.HoldsFloat fun x => x.isNaN = true

/-- A value equals itself exactly if no NaN occurs in it. -/
theorem Raw.beq_self_iff (value : Raw) : beq value value = true ↔ ¬ value.HoldsNaN := by
  induction value using Raw.induction with
  | null => exact ⟨fun _ => nofun, fun _ => rfl⟩
  | boolean | integer | string => exact ⟨fun _ => nofun, fun _ => by simp [beq]⟩
  | float x =>
    rw [HoldsNaN, holdsFloat_float, beq, float_beq_self]
    simp
  | array items ih =>
    -- An array is the same as itself if its items are, one by one.
    rw [beq, memberwise_items.self_iff, HoldsNaN, holdsFloat_array]
    push Not
    exact forall₂_congr ih
  | mapping entries ih =>
    rw [beq, memberwise_entries.self_iff, HoldsNaN, holdsFloat_mapping]
    push Not
    refine forall₂_congr fun entry member => ?_
    -- A key always equals itself.
    rw [beq_self_eq_true, Bool.true_and]
    exact ih entry member

/-- A bound equals itself exactly if it is no NaN. -/
theorem Bound.beq_self_iff (b : Bound) : (b == b) = true ↔ ¬ b.toRaw.HoldsNaN := by
  -- Only a bound that is a float can differ from itself.
  cases b with
  | integer n => exact ⟨fun _ => nofun, fun _ => by simp [BEq.beq, Bound.beq]⟩
  | float x =>
    show (x == x) = true ↔ _
    simp [float_beq_self, toRaw, Raw.HoldsNaN, Raw.holdsFloat_float]

/-- A NaN occurs in one of the slots that keep floats. -/
def Slots.HoldsNaN (slots : Slots) : Prop :=
  ∃ a ∈ [Attribute.defaultValue, .example, .minimum, .maximum],
    ∃ value, slots.raw? a = some value ∧ value.HoldsNaN

/-- The definitions of a parameter and of all its alternatives. -/
def Parameter.definitions : Parameter → List Definition
  | .single p => [p.definition]
  | .multiple _ _ alternatives => alternatives.map (·.definition)

/-- A NaN occurs in a slot of the parameter or of one of its alternatives. -/
def Parameter.HoldsNaN (p : Parameter) : Prop := ∃ d ∈ p.definitions, d.slots.HoldsNaN

/-- An optional value equals itself exactly if the value that is there does. -/
theorem option_beq_self_iff {α : Type} [BEq α] {x : Option α} :
    (x == x) = true ↔ ∀ a, x = some a → (a == a) = true := by
  -- Nothing equals nothing.
  cases x <;> simp

/-- A list equals itself exactly if all its members do. -/
theorem list_beq_self_iff {α : Type} [BEq α] {list : List α} :
    (list == list) = true ↔ ∀ a ∈ list, (a == a) = true := by
  -- Lists are compared member by member.
  induction list with
  | nil => simp
  | cons head rest ih => simp [ih]

/-- Slots equal themselves exactly if no NaN occurs in them. -/
theorem Slots.beq_self_iff (slots : Slots) : (slots == slots) = true ↔ ¬ slots.HoldsNaN := by
  -- The slots that keep no float always equal themselves.
  have pattern : (slots.pattern == slots.pattern) = true :=
    option_beq_self_iff.2 fun p _ => by show (p.pinned == p.pinned) = true; simp
  have raw (slot : Option Raw) :
      (slot == slot) = true ↔ ∀ value, slot = some value → ¬ value.HoldsNaN := by
    simp only [option_beq_self_iff, ← Raw.beq_self_iff]
    rfl
  have bound (slot : Option Bound) :
      (slot == slot) = true ↔ ∀ value, slot.map Bound.toRaw = some value → ¬ value.HoldsNaN := by
    simp [option_beq_self_iff, Bound.beq_self_iff]
  -- The comparison goes slot by slot.
  show (slots.required == slots.required && (slots.repeated == slots.repeated &&
    (slots.defaultValue == slots.defaultValue && (slots.example? == slots.example? &&
    (slots.displayName == slots.displayName && (slots.description == slots.description &&
    (slots.minLength == slots.minLength && (slots.maxLength == slots.maxLength &&
    (slots.choices == slots.choices && (slots.pattern == slots.pattern &&
    (slots.minimum == slots.minimum && slots.maximum == slots.maximum))))))))))) = true ↔ _
  simp only [Bool.and_eq_true, pattern, raw, bound, HoldsNaN, raw?]
  simp

/-- A definition equals itself exactly if no NaN occurs in its slots. -/
theorem Definition.beq_self_iff (d : Definition) : (d == d) = true ↔ ¬ d.slots.HoldsNaN := by
  -- A type always equals itself, so the slots decide.
  rw [← Slots.beq_self_iff]
  show (d.type == d.type && d.slots == d.slots) = true ↔ _
  simp

/-- A parameter of one type equals itself exactly if its definition does. -/
theorem TypedParameter.beq_self_iff (p : TypedParameter) :
    (p == p) = true ↔ (p.definition == p.definition) = true := by
  -- Names and locations always equal themselves.
  show (p.name == p.name && (p.location == p.location && p.definition == p.definition)) = true ↔ _
  simp

/-- A parameter equals itself exactly if no NaN occurs in it. -/
theorem Parameter.beq_self_iff (p : Parameter) : (p == p) = true ↔ ¬ p.HoldsNaN := by
  -- A parameter is compared by its definition, or by those of its alternatives.
  cases p with
  | single p =>
    show (p == p) = true ↔ _
    simp [TypedParameter.beq_self_iff, Definition.beq_self_iff, HoldsNaN, definitions]
  | multiple name location alternatives =>
    show (name == name && (location == location && alternatives == alternatives)) = true ↔ _
    simp [list_beq_self_iff, TypedParameter.beq_self_iff, Definition.beq_self_iff, HoldsNaN,
      definitions]

end NamedParams
