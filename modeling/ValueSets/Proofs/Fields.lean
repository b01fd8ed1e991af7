import Mathlib.Data.Rat.Lemmas
import ValueSets.Config.Reading

/-!
# What the fields of a configuration take

Any value may be given for a field of a configuration, and few of them stand for something. This
module says which do, and what the others are refused for, without a look at how they are read.

For the element type that is a type or nothing (`Settings.ElementChoice`). For the listing choice it
is a truth value, the numbers one and zero in any form, and a few words (`Settings.ListingChoice`).
A value that is no word but spells a text (`Value.Spells`), or that counts something else
(`Value.Counts`), is refused as unreadable, and all others as being of the wrong form.

Each value has exactly one outcome: `Settings.elementChoice_iff` and `Settings.listingChoice_iff`
say that it is the one that reading the field has.
-/

set_option autoImplicit false

namespace ValueSets

/-- Whether a value spells a text: it is the text, has it as its name, or has its characters as its
bytes. -/
inductive Value.Spells : Value → String → Prop
  | text {s : String} {identity : Nat} : Spells (.text s identity) s
  | symbol {s : String} {identity : Nat} : Spells (.symbol s identity) s
  | bytes {bs : List UInt8} {identity : Nat} :
    Spells (.bytes bs identity) (String.ofList (bs.map fun b => Char.ofNat b.toNat))

/-- Whether a value counts: it is a whole number of 64 bits with a sign. Other numbers than integers
do so if the binary64 number that is nearest to them is whole, but for the least number of 64 bits.
-/
inductive Value.Counts : Value → Int → Prop
  | int {n : Int} {identity : Nat} : -2 ^ 63 ≤ n → n < 2 ^ 63 → Counts (.int n identity) n
  | level {l : Level} : Counts (.level l) l.number
  | float {x : Binary64} {identity : Nat} {n : Int} :
    x.magnitude 0 = .exact n → -2 ^ 63 < n → n < 2 ^ 63 → Counts (.float x identity) n
  | fraction {q : Rat} {identity : Nat} {n : Int} :
    (Binary64.ofRat q).magnitude 0 = .exact n → -2 ^ 63 < n → n < 2 ^ 63 →
    Counts (.fraction q identity) n

namespace Settings

/-! ## The choices -/

/-- What a value comes to as an element type. -/
inductive ElementChoice : Value → Except FieldFault (Option Ty) → Prop
  | absent : ElementChoice .null (.ok none)
  | type {t : Ty} : ElementChoice (.type t) (.ok (some t))
  | other {v : Value} : v ≠ .null → (∀ t, v ≠ .type t) →
    ElementChoice v (.error .elementNotType)

/-- The words for yes and for no. -/
def words : Bool → List String
  | true => ["1", "true", "t", "yes", "y", "on"]
  | false => ["0", "false", "f", "no", "n", "off"]

/-- What a value comes to as a listing choice. ASCII letters of words are in either case. -/
inductive ListingChoice : Value → Except FieldFault Bool → Prop
  | bool {b : Bool} : ListingChoice (.bool b) (.ok b)
  | one {v : Value} : v.Counts 1 → ListingChoice v (.ok true)
  | zero {v : Value} : v.Counts 0 → ListingChoice v (.ok false)
  | number {v : Value} {n : Int} : v.Counts n → n ≠ 0 → n ≠ 1 →
    ListingChoice v (.error .listingUnreadable)
  | word {v : Value} {s : String} {b : Bool} : v.Spells s → s.toLower ∈ words b →
    ListingChoice v (.ok b)
  | text {v : Value} {s : String} : v.Spells s → (∀ b, s.toLower ∉ words b) →
    ListingChoice v (.error .listingUnreadable)
  | other {v : Value} : (∀ b, v ≠ .bool b) → (∀ n, ¬v.Counts n) → (∀ s, ¬v.Spells s) →
    ListingChoice v (.error .listingNotBool)

/-- The faults of values that are given for the two fields, in the order of the fields, where there
are any. -/
inductive Faulty (element listing : Value) : List FieldFault → Prop
  | element {fault : FieldFault} {sorted : Bool} : ElementChoice element (.error fault) →
    ListingChoice listing (.ok sorted) → Faulty element listing [fault]
  | listing {element? : Option Ty} {fault : FieldFault} : ElementChoice element (.ok element?) →
    ListingChoice listing (.error fault) → Faulty element listing [fault]
  | both {first second : FieldFault} : ElementChoice element (.error first) →
    ListingChoice listing (.error second) → Faulty element listing [first, second]

variable {v element listing : Value} {s : String} {n : Int} {x : Binary64} {b : Bool}

/-! ## Reading an element type -/

theorem elementChoice_readElementType (v : Value) : ElementChoice v (readElementType v) := by
  cases v with
  | null => exact .absent
  | type t => exact .type
  | _ => exact .other (by simp) (by simp)

/-- An element type is read as what it comes to. -/
theorem elementChoice_iff {r : Except FieldFault (Option Ty)} :
    ElementChoice v r ↔ readElementType v = r := by
  constructor
  · intro h
    cases h with
    | absent => rfl
    | type => rfl
    | other hnull htype =>
      cases v with
      | null => exact absurd rfl hnull
      | type t => exact absurd rfl (htype t)
      | _ => rfl
  · rintro rfl
    exact elementChoice_readElementType v

theorem elementChoice_some_iff {t : Ty} : ElementChoice v (.ok (some t)) ↔ v = .type t := by
  rw [elementChoice_iff]
  cases v <;> simp [readElementType]

/-! ## Reading a listing choice -/

theorem trueWords_contains (s : String) : trueWords.contains s = true ↔ s ∈ words true := by
  simp only [trueWords, words, List.contains_iff_mem, List.mem_cons, List.not_mem_nil, or_false]
  tauto

theorem falseWords_contains (s : String) : falseWords.contains s = true ↔ s ∈ words false := by
  simp only [falseWords, words, List.contains_iff_mem, List.mem_cons, List.not_mem_nil, or_false]
  tauto

/-- No word is one for yes and one for no. -/
theorem words_disjoint (h : s ∈ words true) : s ∉ words false := by
  simp only [words, List.mem_cons, List.not_mem_nil, or_false] at h
  rcases h with rfl | rfl | rfl | rfl | rfl | rfl <;> decide

theorem readWord_of_mem (h : s.toLower ∈ words b) : readWord s = .ok b := by
  unfold readWord
  cases b with
  | true => rw [if_pos ((trueWords_contains _).2 h)]
  | false =>
    rw [if_neg fun hyes => words_disjoint ((trueWords_contains _).1 hyes) h,
      if_pos ((falseWords_contains _).2 h)]

theorem readWord_of_not_mem (h : ∀ b, s.toLower ∉ words b) :
    readWord s = .error .listingUnreadable := by
  unfold readWord
  rw [if_neg fun hyes => h true ((trueWords_contains _).1 hyes),
    if_neg fun hno => h false ((falseWords_contains _).1 hno)]

/-- A value that spells a text is read as a word. -/
theorem readListing_of_spells (h : v.Spells s) : readListing v = readWord s := by
  cases h <;> rfl

theorem readWhole_of_bounds (hlow : -2 ^ 63 ≤ n) (hhigh : n < 2 ^ 63) :
    readWhole n = if n = 1 then .ok true else if n = 0 then .ok false
      else .error .listingUnreadable := by
  have hbound : wholeBound = 2 ^ 63 := rfl
  have hinside : ¬(decide (n < -wholeBound) || decide (wholeBound ≤ n)) = true := by
    rw [hbound, Bool.or_eq_true, decide_eq_true_iff, decide_eq_true_iff]
    omega
  unfold readWhole
  rw [if_neg hinside]

theorem readWhole_of_outside (h : n < -2 ^ 63 ∨ 2 ^ 63 ≤ n) :
    readWhole n = .error .listingNotBool := by
  have houtside : (decide (n < -wholeBound) || decide (wholeBound ≤ n)) = true := by
    rw [Bool.or_eq_true, decide_eq_true_iff, decide_eq_true_iff]
    exact h
  unfold readWhole
  rw [if_pos houtside]

/-- A binary64 number that is whole is read as a whole number. -/
theorem readNumber_of_exact (hx : x.magnitude 0 = .exact n) (hlow : -2 ^ 63 < n) :
    readNumber x = readWhole n := by
  have hlow' : -wholeBound < n := hlow
  unfold readNumber
  simp only [hx, Rat.den_intCast, Rat.num_intCast, hlow', decide_true, Bool.and_self, if_true]

theorem readNumber_eq_error
    (h : ∀ n : Int, x.magnitude 0 = .exact n → -2 ^ 63 < n → ¬n < 2 ^ 63) :
    readNumber x = .error .listingNotBool := by
  unfold readNumber
  split
  · rename_i q hq
    split
    · rename_i hwhole
      rw [Bool.and_eq_true, decide_eq_true_iff, decide_eq_true_iff] at hwhole
      have hint : q = (q.num : Rat) := (Rat.den_eq_one_iff q).1 hwhole.1 |>.symm
      have hhigh := h q.num (hint ▸ hq) hwhole.2
      exact readWhole_of_outside (.inr (Int.not_lt.1 hhigh))
    · rfl
  · rfl

/-- A value that counts is read as the number. -/
theorem readListing_of_counts (h : v.Counts n) :
    readListing v = if n = 1 then .ok true else if n = 0 then .ok false
      else .error .listingUnreadable := by
  cases h with
  | int hlow hhigh => exact readWhole_of_bounds hlow hhigh
  | @level l => cases l <;> rfl
  | float hx hlow hhigh =>
    exact (readNumber_of_exact hx hlow).trans (readWhole_of_bounds hlow.le hhigh)
  | fraction hx hlow hhigh =>
    exact (readNumber_of_exact hx hlow).trans (readWhole_of_bounds hlow.le hhigh)

/-- What neither is a truth value, nor counts, nor spells a text is of the wrong form. -/
theorem readListing_of_other (hbool : ∀ b, v ≠ .bool b) (hcounts : ∀ n, ¬v.Counts n)
    (hspells : ∀ s, ¬v.Spells s) : readListing v = .error .listingNotBool := by
  cases v with
  | bool b => exact absurd rfl (hbool b)
  | int n identity =>
    refine readWhole_of_outside ?_
    by_contra hinside
    exact hcounts n (.int (by omega) (by omega))
  | level l => exact absurd .level (hcounts _)
  | float x identity =>
    exact readNumber_eq_error fun n hx hlow hhigh => hcounts n (.float hx hlow hhigh)
  | fraction q identity =>
    exact readNumber_eq_error fun n hx hlow hhigh => hcounts n (.fraction hx hlow hhigh)
  | text s identity => exact absurd .text (hspells s)
  | symbol s identity => exact absurd .symbol (hspells s)
  | bytes bs identity => exact absurd .bytes (hspells _)
  | _ => rfl

theorem exists_listingChoice (v : Value) : ∃ r, ListingChoice v r := by
  by_cases hbool : ∃ b, v = .bool b
  · obtain ⟨b, rfl⟩ := hbool
    exact ⟨_, .bool⟩
  by_cases hcounts : ∃ n, v.Counts n
  · obtain ⟨n, hn⟩ := hcounts
    by_cases hone : n = 1
    · exact ⟨_, .one (hone ▸ hn)⟩
    by_cases hzero : n = 0
    · exact ⟨_, .zero (hzero ▸ hn)⟩
    · exact ⟨_, .number hn hzero hone⟩
  by_cases hspells : ∃ s, v.Spells s
  · obtain ⟨s, hs⟩ := hspells
    by_cases hword : ∃ b, s.toLower ∈ words b
    · obtain ⟨b, hb⟩ := hword
      exact ⟨_, .word hs hb⟩
    · exact ⟨_, .text hs (not_exists.1 hword)⟩
  · exact ⟨_, .other (not_exists.1 hbool) (not_exists.1 hcounts) (not_exists.1 hspells)⟩

/-- A listing choice is read as what it comes to. -/
theorem listingChoice_iff {r : Except FieldFault Bool} :
    ListingChoice v r ↔ readListing v = r := by
  have hread : ∀ q, ListingChoice v q → readListing v = q := by
    intro q h
    cases h with
    | bool => rfl
    | one hn => exact readListing_of_counts hn
    | zero hn => exact readListing_of_counts hn
    | number hn hzero hone => rw [readListing_of_counts hn, if_neg hone, if_neg hzero]
    | word hs hb => rw [readListing_of_spells hs, readWord_of_mem hb]
    | text hs hnone => rw [readListing_of_spells hs, readWord_of_not_mem hnone]
    | other hbool hcounts hspells => exact readListing_of_other hbool hcounts hspells
  constructor
  · exact hread r
  · rintro rfl
    obtain ⟨q, hq⟩ := exists_listingChoice v
    rwa [hread q hq]

/-! ## Reading both -/

/-- Fields that both stand for something have no faults. -/
theorem not_faulty_of_choices {element? : Option Ty} {sorted : Bool} {faults : List FieldFault}
    (helement : ElementChoice element (.ok element?))
    (hlisting : ListingChoice listing (.ok sorted)) : ¬Faulty element listing faults := by
  rw [elementChoice_iff] at helement
  rw [listingChoice_iff] at hlisting
  intro h
  cases h with
  | element hfault _ => cases helement.symm.trans (elementChoice_iff.1 hfault)
  | listing _ hfault => cases hlisting.symm.trans (listingChoice_iff.1 hfault)
  | both hfault _ => cases helement.symm.trans (elementChoice_iff.1 hfault)

theorem read_of_faulty {faults : List FieldFault} (h : Faulty element listing faults) :
    read element listing = .error (.invalidFields faults) := by
  unfold read
  cases h with
  | element helement hlisting =>
    rw [elementChoice_iff.1 helement, listingChoice_iff.1 hlisting]
    rfl
  | listing helement hlisting =>
    rw [elementChoice_iff.1 helement, listingChoice_iff.1 hlisting]
    rfl
  | both helement hlisting =>
    rw [elementChoice_iff.1 helement, listingChoice_iff.1 hlisting]
    rfl

/-- An element type whose values cannot be hashed is refused where the fields are without fault. -/
theorem read_of_unhashable {t : Ty} {sorted : Bool}
    (helement : ElementChoice element (.ok (some t))) (hhash : t.isHashable = false)
    (hlisting : ListingChoice listing (.ok sorted)) :
    read element listing = .error (.unhashableType t) := by
  unfold read
  rw [elementChoice_iff.1 helement, listingChoice_iff.1 hlisting]
  simp only [hhash, Bool.false_eq_true, if_false]

theorem read_of_choices {element? : Option Ty} {sorted : Bool}
    (helement : ElementChoice element (.ok element?))
    (hhash : ∀ t, element? = some t → t.isHashable = true)
    (hlisting : ListingChoice listing (.ok sorted)) :
    read element listing = .ok ⟨element?, sorted⟩ := by
  unfold read
  rw [elementChoice_iff.1 helement, listingChoice_iff.1 hlisting]
  cases element? with
  | none => rfl
  | some t => simp only [hhash t rfl, if_true]

end Settings

end ValueSets
