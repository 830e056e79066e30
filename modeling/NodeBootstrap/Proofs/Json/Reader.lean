/-
NodeBootstrap/Proofs/Json/Reader.lean

Documents that were read have a text.  An integer has one if its numeral is
not too long, and a numeral that is too long is not read
(`isShowable_of_number`).  Nothing else in a document can be without a text,
so by induction on the bound for the nesting every document that is read has
one (`isShowable_of_read`).
-/
import NodeBootstrap.Json.Reader
import NodeBootstrap.Proofs.Result
import NodeBootstrap.Value.Text

namespace NodeBootstrap

/-! ### Rows of digits -/

namespace Digit

theorem valueIn?_getD_lt {base : Nat} (hbase : 0 < base) (c : Char) :
    (valueIn? base c).getD 0 < base := by
  rw [valueIn?]
  rcases h : Option.filter (· < base) _ with - | d
  · exact hbase
  · simpa using (Option.filter_eq_some_iff.mp h).2

/-- A row of digits writes a number below the power of its length. -/
theorem number_lt {base : Nat} (hbase : 0 < base) (digits : List Char) :
    number base digits < Nat.pow base digits.length := by
  have hfold : ∀ n, digits.foldl (fun n c => n * base + (valueIn? base c).getD 0) n <
      (n + 1) * Nat.pow base digits.length := by
    induction digits with
    | nil => intro n; simp
    | cons c digits ih =>
      intro n
      have hdigit := valueIn?_getD_lt hbase c
      calc digits.foldl _ (n * base + (valueIn? base c).getD 0)
          < (n * base + (valueIn? base c).getD 0 + 1) * Nat.pow base digits.length := ih _
        _ ≤ (n + 1) * base * Nat.pow base digits.length := by
          refine Nat.mul_le_mul_right _ ?_
          rw [Nat.add_mul, Nat.one_mul]
          omega
        _ = (n + 1) * Nat.pow base (digits.length + 1) := by
          rw [Nat.mul_assoc]
          congr 1
          exact (Nat.pow_succ').symm
  have h := hfold 0
  rw [Nat.zero_add, Nat.one_mul] at h
  exact h

/-- A short row of digits writes a small number. -/
theorem number_lt_of_length_le {base n : Nat} (hbase : 0 < base) {digits : List Char}
    (h : digits.length ≤ n) : number base digits < Nat.pow base n :=
  Nat.lt_of_lt_of_le (number_lt hbase digits) (Nat.pow_le_pow_right hbase h)

end Digit

namespace Json

/-! ### Values with a text -/

/-- A document that has a text. -/
def IsShowable (j : Json) : Prop := j.toValue.isShowable = true

variable {j : Json} {js : List Json} {fields : List (String × Json)}

theorem isShowable_list_iff : IsShowable (.list js) ↔ ∀ j ∈ js, IsShowable j := by
  have hitems : ∀ js : List Json,
      Value.itemsAreShowable (toValues js) = true ↔ ∀ j ∈ js, IsShowable j := by
    intro js
    induction js with
    | nil => simp [toValues, Value.itemsAreShowable]
    | cons j js ih => simp [toValues, Value.itemsAreShowable, ih, IsShowable]
  exact hitems js

theorem isShowable_object_iff : IsShowable (.object fields) ↔ ∀ f ∈ fields, IsShowable f.2 := by
  have hentries : ∀ fs : List (String × Json),
      Value.entriesAreShowable (toEntries fs) = true ↔ ∀ f ∈ fs, IsShowable f.2 := by
    intro fs
    induction fs with
    | nil => simp [toEntries, Value.entriesAreShowable]
    | cons f fs ih =>
      obtain ⟨name, j⟩ := f
      simp [toEntries, Value.entriesAreShowable, Value.isShowable, ih, IsShowable]
  exact hentries fields

theorem isShowable_insertField {name : String} (hj : IsShowable j)
    (h : ∀ f ∈ fields, IsShowable f.2) : ∀ f ∈ insertField name j fields, IsShowable f.2 := by
  induction fields with
  | nil => simpa [insertField] using hj
  | cons f fields ih =>
    obtain ⟨hf, hfields⟩ := List.forall_mem_cons.mp h
    rw [insertField]
    split
    · exact List.forall_mem_cons.mpr ⟨hj, hfields⟩
    · exact List.forall_mem_cons.mpr ⟨hf, ih hfields⟩

theorem isShowable_ofFields (h : ∀ f ∈ fields, IsShowable f.2) : IsShowable (ofFields fields) := by
  have hfold : ∀ acc : List (String × Json), (∀ f ∈ acc, IsShowable f.2) →
      ∀ f ∈ fields.foldl (fun acc f => insertField f.1 f.2 acc) acc, IsShowable f.2 := by
    induction fields with
    | nil => exact fun acc hacc => hacc
    | cons f fields ih =>
      intro acc hacc
      obtain ⟨hf, hfields⟩ := List.forall_mem_cons.mp h
      exact ih hfields _ (isShowable_insertField hf hacc)
  exact isShowable_object_iff.mpr (hfold [] (List.forall_mem_nil _))

theorem isShowable_int {n : Int} (h : n.natAbs < Nat.pow 10 Numeral.maxDigits) :
    IsShowable (.int n) := by
  rw [IsShowable, toValue, Value.isShowable, Numeral.isWritable, decide_eq_true_iff]
  exact h

/-! ### Reading -/

theorem natAbs_negateIf (negative : Bool) (n : Nat) : (Numeral.negateIf negative n).natAbs = n := by
  cases negative
  · exact Int.natAbs_natCast n
  · exact (Int.natAbs_neg _).trans (Int.natAbs_natCast n)

/-- A numeral that is read is not too long to be written. -/
theorem isShowable_number {start left : List Char} (h : number start = .ok (j, left)) :
    IsShowable j := by
  revert h
  fun_cases number start <;> intro h
  case case3 digits _ _ _ _ _ _ _ _ _ _ hlong =>
    obtain ⟨rfl, -⟩ := Prod.mk.inj (Except.ok.inj h)
    apply isShowable_int
    rw [natAbs_negateIf]
    -- any bound will do, and the power of this one had better not be computed
    have hlength : digits.length ≤ Numeral.maxDigits := Nat.not_lt.mp hlong
    generalize Numeral.maxDigits = most at hlength ⊢
    exact Digit.number_lt_of_length_le (by decide) hlength
  case case4 =>
    obtain ⟨rfl, -⟩ := Prod.mk.inj (Except.ok.inj h)
    rfl
  all_goals cases h

theorem isShowable_named? {cs left : List Char} (h : named? cs = some (j, left)) : IsShowable j := by
  obtain ⟨entry, hentry, heq⟩ := Option.map_eq_some_iff.mp h
  obtain ⟨rfl, -⟩ := Prod.mk.inj heq
  have hnames : ∀ e ∈ names, IsShowable e.2 := by
    simp [names, IsShowable, toValue, Value.isShowable]
  exact hnames entry (List.mem_of_find?_eq_some hentry)

/-- Under a bound for the nesting, what is read has a text. -/
structure ReadsShowable (n : Nat) : Prop where
  value : ∀ {cs j left}, Json.value n cs = .ok (j, left) → IsShowable j
  items : ∀ {acc cs js left}, Json.items n acc cs = .ok (js, left) →
    (∀ j ∈ acc, IsShowable j) → ∀ j ∈ js, IsShowable j
  members : ∀ {acc cs fs left}, Json.members n acc cs = .ok (fs, left) →
    (∀ f ∈ acc, IsShowable f.2) → ∀ f ∈ fs, IsShowable f.2

variable {n : Nat} {cs left : List Char}

theorem ReadsShowable.value_succ (hn : ReadsShowable n) (h : Json.value (n + 1) cs = .ok (j, left)) :
    IsShowable j := by
  unfold Json.value at h
  split at h
  · -- a string
    obtain ⟨⟨s, rest⟩, -, heq⟩ := map_eq_ok_iff.mp h
    obtain ⟨rfl, -⟩ := Prod.mk.inj heq
    rfl
  · -- an object
    split at h
    · obtain ⟨rfl, -⟩ := Prod.mk.inj (Except.ok.inj h)
      rfl
    · obtain ⟨⟨fields, rest⟩, hmembers, heq⟩ := map_eq_ok_iff.mp h
      obtain ⟨rfl, -⟩ := Prod.mk.inj heq
      exact isShowable_ofFields (hn.members hmembers (List.forall_mem_nil _))
  · -- a list
    split at h
    · obtain ⟨rfl, -⟩ := Prod.mk.inj (Except.ok.inj h)
      rfl
    · obtain ⟨⟨js, rest⟩, hitems, heq⟩ := map_eq_ok_iff.mp h
      obtain ⟨rfl, -⟩ := Prod.mk.inj heq
      exact isShowable_list_iff.mpr (hn.items hitems (List.forall_mem_nil _))
  · -- a name or a number
    split at h
    · rename_i hnamed
      obtain rfl := Except.ok.inj h
      exact isShowable_named? hnamed
    · exact isShowable_number h

theorem ReadsShowable.items_succ (hn : ReadsShowable n) {acc js : List Json}
    (h : Json.items (n + 1) acc cs = .ok (js, left)) (hacc : ∀ j ∈ acc, IsShowable j) :
    ∀ j ∈ js, IsShowable j := by
  unfold Json.items at h
  obtain ⟨⟨j, rest⟩, hvalue, h⟩ := bind_eq_ok_iff.mp h
  have hmore : ∀ i ∈ j :: acc, IsShowable i := List.forall_mem_cons.mpr ⟨hn.value hvalue, hacc⟩
  dsimp only at h
  split at h
  · obtain ⟨rfl, -⟩ := Prod.mk.inj (Except.ok.inj h)
    exact fun i hi => hmore i (List.mem_reverse.mp hi)
  · exact hn.items h hmore
  · cases h

theorem ReadsShowable.members_succ (hn : ReadsShowable n) {acc fs : List (String × Json)}
    (h : Json.members (n + 1) acc cs = .ok (fs, left)) (hacc : ∀ f ∈ acc, IsShowable f.2) :
    ∀ f ∈ fs, IsShowable f.2 := by
  unfold Json.members at h
  split at h
  case h_2 => cases h
  obtain ⟨⟨name, after⟩, -, h⟩ := bind_eq_ok_iff.mp h
  dsimp only at h
  split at h
  case h_2 => cases h
  obtain ⟨⟨j, rest⟩, hvalue, h⟩ := bind_eq_ok_iff.mp h
  have hmore : ∀ f ∈ (name, j) :: acc, IsShowable f.2 :=
    List.forall_mem_cons.mpr ⟨hn.value hvalue, hacc⟩
  dsimp only at h
  split at h
  · obtain ⟨rfl, -⟩ := Prod.mk.inj (Except.ok.inj h)
    exact fun f hf => hmore f (List.mem_reverse.mp hf)
  · exact hn.members h hmore
  · cases h

theorem readsShowable (n : Nat) : ReadsShowable n := by
  induction n with
  | zero =>
    constructor
    · intro cs j left h
      cases h
    · intro acc cs js left h
      cases h
    · intro acc cs fs left h
      cases h
  | succ n ih => exact ⟨ih.value_succ, ih.items_succ, ih.members_succ⟩

/-- A document that was read has a text. -/
theorem isShowable_of_read {text : List Char} (h : read text = .ok j) : IsShowable j := by
  rw [read] at h
  split at h
  · cases h
  obtain ⟨⟨i, rest⟩, hvalue, h⟩ := bind_eq_ok_iff.mp h
  dsimp only at h
  split at h
  · obtain rfl := Except.ok.inj h
    exact (readsShowable _).value hvalue
  · cases h

end Json

end NodeBootstrap
