import LiteserverFleet.Json.Decoder
import LiteserverFleet.Proofs.Json.RoundTrip
import Mathlib.Data.List.Forall2

/-!
# Decoders undo encoders

Each decoder makes of an encoded element the element itself, and a record is filled from its members one after the
other (`fillByName_cons`, `fillByName_option`).  Whatever every field of a record keeps, filling the record
keeps, from an object as from a list (`Shape.fill_all`).
-/

set_option autoImplicit false

namespace LiteserverFleet.Json

/-- Mapping a list element by element keeps the places of the elements. -/
theorem mapM_eq_ok_iff {ε α β : Type} {f : α → Except ε β} {xs : List α} {ys : List β} :
    xs.mapM f = .ok ys ↔ List.Forall₂ (fun x y => f x = .ok y) xs ys := by
  induction xs generalizing ys with
  | nil =>
      rw [List.forall₂_nil_left_iff]
      constructor
      · intro mapped
        cases mapped
        rfl
      · rintro rfl
        rfl
  | cons x xs ih =>
      rw [List.mapM_cons, List.forall₂_cons_left_iff]
      constructor
      · intro mapped
        obtain ⟨y, isFirst, mapped⟩ := of_bind_eq_ok mapped
        obtain ⟨others, mappedRest, mapped⟩ := of_bind_eq_ok mapped
        cases mapped
        exact ⟨y, others, isFirst, ih.mp mappedRest, rfl⟩
      · rintro ⟨y, others, isFirst, each, rfl⟩
        rw [isFirst, ih.mpr each]
        rfl

theorem mapM_getElem? {ε α β : Type} {f : α → Except ε β} {xs : List α} {ys : List β} {i : Nat} {x : α}
    (mapped : xs.mapM f = .ok ys) (isItem : xs[i]? = some x) : ∃ y, f x = .ok y ∧ ys[i]? = some y := by
  obtain ⟨sameLength, each⟩ := List.forall₂_iff_get.mp (mapM_eq_ok_iff.mp mapped)
  obtain ⟨inBounds, rfl⟩ := List.getElem?_eq_some_iff.mp isItem
  have inBoundsToo : i < ys.length := sameLength ▸ inBounds
  exact ⟨ys[i], each i inBounds inBoundsToo, List.getElem?_eq_getElem inBoundsToo⟩

/-- The first element without an image decides. -/
theorem mapM_eq_error_iff {ε α β : Type} {f : α → Except ε β} {xs : List α} {e : ε} :
    xs.mapM f = .error e ↔ ∃ before x behind, xs = before ++ x :: behind ∧
      (∀ each ∈ before, ∃ y, f each = .ok y) ∧ f x = .error e := by
  constructor
  · intro failed
    induction xs with
    | nil => cases failed
    | cons first rest ih =>
        rw [List.mapM_cons] at failed
        cases isFirst : f first with
        | error other =>
            rw [isFirst] at failed
            cases failed
            exact ⟨[], first, rest, rfl, nofun, isFirst⟩
        | ok y =>
            cases mapped : rest.mapM f with
            | ok ys =>
                rw [isFirst, mapped] at failed
                cases failed
            | error other =>
                rw [isFirst, mapped] at failed
                cases failed
                obtain ⟨before, x, behind, rfl, each, isError⟩ := ih mapped
                have decoded := List.forall_mem_cons.mpr ⟨⟨y, isFirst⟩, each⟩
                exact ⟨first :: before, x, behind, rfl, decoded, isError⟩
  · rintro ⟨before, x, behind, rfl, each, isError⟩
    induction before with
    | nil =>
        rw [List.nil_append, List.mapM_cons, isError]
        rfl
    | cons first before ih =>
        obtain ⟨⟨y, isFirst⟩, others⟩ := List.forall_mem_cons.mp each
        rw [List.cons_append, List.mapM_cons, isFirst, ih others]
        rfl

theorem exists_mapM_eq_ok_iff {ε α β : Type} {f : α → Except ε β} {xs : List α} :
    (∃ ys, xs.mapM f = .ok ys) ↔ ∀ x ∈ xs, ∃ y, f x = .ok y := by
  constructor
  · rintro ⟨ys, mapped⟩ x member
    obtain ⟨i, isItem⟩ := List.getElem?_of_mem member
    obtain ⟨y, image, -⟩ := mapM_getElem? mapped isItem
    exact ⟨y, image⟩
  · intro each
    cases mapped : xs.mapM f with
    | ok ys => exact ⟨ys, rfl⟩
    | error e =>
        obtain ⟨before, x, behind, rfl, -, isError⟩ := mapM_eq_error_iff.mp mapped
        obtain ⟨y, isOk⟩ := each x (List.mem_append_right _ List.mem_cons_self)
        cases isError.symm.trans isOk

namespace Number

variable {i : Int}

theorem ofInt_of_inRange (inRange : -0x8000000000000000 ≤ i ∧ i < 0x10000000000000000) :
    ofInt i = .integer i inRange :=
  dif_pos inRange

theorem integral_ofInt (inRange : -0x8000000000000000 ≤ i ∧ i < 0x10000000000000000) :
    (Value.number (.ofInt i)).Integral := by
  rw [ofInt_of_inRange inRange]
  exact .integer i inRange

end Number

namespace Decoder

/-- A text is JSON of which the decoder makes an element. -/
def Decodes {α : Type} (decoder : Decoder α) (text : String) (a : α) : Prop :=
  ∃ v, parse text = .ok v ∧ decoder v = .ok a

theorem Decodes.unique {α : Type} {decoder : Decoder α} {text : String} {a b : α}
    (first : decoder.Decodes text a) (second : decoder.Decodes text b) : a = b := by
  obtain ⟨v, isValue, decoded⟩ := first
  obtain ⟨w, isValueToo, decodedToo⟩ := second
  cases isValue.symm.trans isValueToo
  exact Except.ok.inj (decoded.symm.trans decodedToo)

/-! ## Plain values -/

section Numbers

variable {low high i : Int} {expected : String}

theorem integer_ofInt (inBounds : low ≤ i ∧ i ≤ high)
    (inRange : -0x8000000000000000 ≤ i ∧ i < 0x10000000000000000) :
    integer low high expected (.ofInt i) = .ok i := by
  rw [Value.ofInt, Number.ofInt_of_inRange inRange, integer, if_pos inBounds]

theorem integer_eq_ok {v : Value} (decoded : integer low high expected v = .ok i) :
    low ≤ i ∧ i ≤ high := by
  unfold integer at decoded
  split at decoded
  · split at decoded
    · next inBounds =>
      cases decoded
      exact inBounds
    · cases decoded
  · cases decoded

theorem int64_ofInt (i : Int64) : int64 (.ofInt i.toInt) = .ok i := by
  have least : -0x8000000000000000 ≤ i.toInt := i.minValue_le_toInt
  have greatest : i.toInt < 0x8000000000000000 := i.toInt_lt
  rw [int64, integer_ofInt ⟨least, by omega⟩ ⟨least, by omega⟩]
  exact congrArg Except.ok (Int64.ofInt_toInt i)

theorem uint16_ofNat (n : UInt16) : uint16 (.ofNat n.toNat) = .ok n := by
  have small := n.toNat_lt
  rw [uint16, Value.ofNat, ← Value.ofInt, integer_ofInt ⟨by omega, by omega⟩ ⟨by omega, by omega⟩]
  exact congrArg Except.ok UInt16.ofNat_toNat

theorem index_ofNat {n : Nat} (word : n < 0x10000000000000000) : index (.ofNat n) = .ok n := by
  rw [index, Value.ofNat, ← Value.ofInt, integer_ofInt ⟨by omega, by omega⟩ ⟨by omega, by omega⟩]
  rfl

theorem index_eq_ok {v : Value} {n : Nat} (decoded : index v = .ok n) : n < 0x10000000000000000 := by
  obtain ⟨i, isInteger, rfl⟩ := of_map_eq_ok decoded
  have := integer_eq_ok isInteger
  omega

end Numbers

section Composed

variable {α : Type} {element : Decoder α}

theorem list_map {encode : α → Value} {as : List α} (each : ∀ a ∈ as, element (encode a) = .ok a) :
    list element (.array (as.map encode)) = .ok as := by
  refine mapM_eq_ok_iff.mpr ?_
  rw [List.forall₂_map_left_iff, List.forall₂_same]
  exact each

theorem list_eq_ok {v : Value} {as : List α} (decoded : list element v = .ok as) :
    ∀ a ∈ as, ∃ item, element item = .ok a := by
  unfold list at decoded
  split at decoded
  · have each := mapM_eq_ok_iff.mp decoded
    clear decoded
    induction each with
    | nil => nofun
    | cons isFirst _ ih => exact List.forall_mem_cons.mpr ⟨⟨_, isFirst⟩, ih⟩
  · cases decoded

theorem optional_of_present {v : Value} {a : α} (present : v ≠ .null) (decoded : element v = .ok a) :
    optional element v = .ok (some a) := by
  unfold optional
  split
  · exact absurd rfl present
  · rw [decoded]
    rfl

theorem optional_eq_ok {v : Value} {a : α} (decoded : optional element v = .ok (some a)) :
    element v = .ok a := by
  unfold optional at decoded
  split at decoded
  · cases decoded
  · obtain ⟨b, present, isSome⟩ := of_map_eq_ok decoded
    cases isSome
    exact present

end Composed

/-! ## Records -/

section Records

variable {ρ : Type} {fields : List (String × FieldDecoder ρ)} {record next : ρ}

theorem fillByName_cons {name : String} {v : Value} {rest : Members} {field : FieldDecoder ρ}
    (known : fields.lookup name = some field) (filled : field v record = .ok next) :
    fillByName fields record ((name, v) :: rest) = fillByName fields next rest := by
  simp only [fillByName, List.foldlM_cons, known, filled]
  rfl

/-- A member that may be left out leaves the record as it is if it is. -/
theorem fillByName_option {β : Type} {name : String} {encode : β → Value} {rest : Members}
    {field : FieldDecoder ρ} (known : fields.lookup name = some field) (given : Option β)
    (filled : ∀ b, given = some b → field (encode b) record = .ok next)
    (leftOut : given = none → record = next) :
    fillByName fields record ((given.map fun b => (name, encode b)).toList ++ rest) =
      fillByName fields next rest := by
  cases given with
  | none =>
      rw [leftOut rfl]
      rfl
  | some b => exact fillByName_cons known (filled b rfl)

variable {P : ρ → Prop}

theorem fillByName_all
    (each : ∀ field ∈ fields, ∀ v record next, P record → field.2 v record = .ok next → P next)
    (start : P record) {members : Members} (filled : fillByName fields record members = .ok next) :
    P next := by
  induction members generalizing record with
  | nil =>
      cases filled
      exact start
  | cons member rest ih =>
      obtain ⟨behind, filledFirst, filledRest⟩ := of_bind_eq_ok filled
      refine ih ?_ filledRest
      dsimp only at filledFirst
      split at filledFirst
      · next field known =>
        have isField : (member.1, field) ∈ fields := by
          obtain ⟨before, behind, split, -⟩ := List.lookup_eq_some_iff.mp known
          rw [split]
          exact List.mem_append_right _ List.mem_cons_self
        exact each _ isField _ _ _ start filledFirst
      · cases filledFirst
        exact start

theorem fillByPosition_all
    (each : ∀ field ∈ fields, ∀ v record next, P record → field.2 v record = .ok next → P next)
    (start : P record) {items : List Value} (filled : fillByPosition fields record items = .ok next) :
    P next := by
  induction fields generalizing record items with
  | nil =>
      cases filled
      exact start
  | cons field fields ih =>
      cases items with
      | nil =>
          cases filled
          exact start
      | cons item items =>
          obtain ⟨behind, filledFirst, filledRest⟩ := of_bind_eq_ok filled
          obtain ⟨first, others⟩ := List.forall_mem_cons.mp each
          exact ih others (first item record behind start filledFirst) filledRest

/-- What every field keeps, the whole record keeps, whether it is filled from an object or from a list. -/
theorem Shape.fill_all {shape : Shape ρ}
    (each : ∀ field ∈ shape.fields, ∀ v record next, P record → field.2 v record = .ok next → P next)
    (start : P record) {v : Value} (filled : shape.fill record v = .ok next) : P next := by
  unfold fill at filled
  split at filled
  · exact fillByName_all each start filled
  · obtain ⟨reached, filledAll, filled⟩ := of_bind_eq_ok filled
    split at filled
    · cases filled
    · split at filled
      · cases filled
      · cases filled
        exact fillByPosition_all each start filledAll
  · cases filled

end Records

end Decoder

end LiteserverFleet.Json
